import BrowserLab.Catalog.Basic

/-!
# Scenarios on pages

Forms, frames, tables, files and the accessibility tree.
-/

namespace BrowserLab.Catalog.Builtin

/-- Login Form Submission. -/
def basicAuth : Scenario where
  id := "basic-auth"
  title := "Login Form Submission"
  category := .webUi
  difficulty := .basic
  description :=
    "Practice basic input filling, clicking, and simple assertions on a standard login form."
  learningObjectives := [
    "Locating elements by label or ID",
    "Using type/fill and click actions",
    "Asserting success messages"]
  reference :=
    { playwright := some <| "\n".intercalate [
        "import \x7b test, expect \x7d from '@playwright/test';",
        "",
        "test('should login successfully', async (\x7b page \x7d) => \x7b",
        "  await page.goto('/playground/login');",
        "  await page.getByLabel('Username').fill('playwright_pro');",
        "  await page.getByLabel('Password').fill('master_the_web');",
        "  await page.getByRole('button', \x7b name: 'Sign In' \x7d).click();",
        "",
        "  await expect(page.getByText('Welcome back!')).toBeVisible();",
        "\x7d);"]
      cypress := some <| "\n".intercalate [
        "describe('Login Flow', () => \x7b",
        "  it('should login successfully', () => \x7b",
        "    cy.visit('/playground/login');",
        "    cy.get('#user').type('playwright_pro');",
        "    cy.get('#pass').type('master_the_web');",
        "    cy.get('button[type=\"submit\"]').click();",
        "",
        "    cy.contains('Welcome back!').should('be.visible');",
        "  \x7d);",
        "\x7d);"] }
  environment := .login
  supportedStyles := [.playwright, .cypress]

/-- Iframe Content Interaction. -/
def basicIframe : Scenario where
  id := "basic-iframe"
  title := "Iframe Content Interaction"
  category := .iframeTesting
  difficulty := .basic
  description :=
    "Learn how to switch context to an iframe and interact with elements hosted inside it."
  learningObjectives := [
    "Using page.frameLocator() to target iframes",
    "Interacting with buttons inside a frame",
    "Asserting on visibility of elements within frame context"]
  reference :=
    { playwright := some <| "\n".intercalate [
        "import \x7b test, expect \x7d from '@playwright/test';",
        "",
        "test('interact with iframe', async (\x7b page \x7d) => \x7b",
        "  await page.goto('/playground/iframe-testing');",
        "  const frame = page.frameLocator('#my-iframe');",
        "  await frame.getByRole('button', \x7b name: 'Click Me' \x7d).click();",
        "  await expect(frame.getByText('Success!')).toBeVisible();",
        "\x7d);"]
      cypress := some <| "\n".intercalate [
        "it('interact with iframe', () => \x7b",
        "  cy.visit('/playground/iframe-testing');",
        "  cy.get('#my-iframe')",
        "    .its('0.contentDocument.body')",
        "    .should('not.be.empty')",
        "    .then(cy.wrap)",
        "    .find('button')",
        "    .contains('Click Me')",
        "    .click();",
        "",
        "  cy.get('#my-iframe')",
        "    .its('0.contentDocument.body')",
        "    .should('contain', 'Success!');",
        "\x7d);"] }
  environment := .iframeTesting
  supportedStyles := [.playwright, .cypress]

/-- Deeply Nested Iframes. -/
def advancedNestedIframe : Scenario where
  id := "advanced-nested-iframe"
  title := "Deeply Nested Iframes"
  category := .iframeTesting
  difficulty := .advanced
  description :=
    "Master complex scenarios where elements are buried inside multiple nested iframe layers."
  learningObjectives := [
    "Chaining frameLocator() for nested structures",
    "Handling asynchronous frame loading",
    "Locating elements deep in the shadow/frame tree"]
  reference :=
    { playwright := some <| "\n".intercalate [
        "import \x7b test, expect \x7d from '@playwright/test';",
        "",
        "test('interact with nested iframe', async (\x7b page \x7d) => \x7b",
        "  await page.goto('/playground/nested-iframes');",
        "  const outerFrame = page.frameLocator('#outer-iframe');",
        "  const innerFrame = outerFrame.frameLocator('#inner-iframe');",
        "",
        "  await innerFrame.getByRole('button', \x7b name: 'Submit Inner' \x7d).click();",
        "  await expect(innerFrame.getByText('Nested Success!')).toBeVisible();",
        "\x7d);"]
      cypress := some <| "\n".intercalate [
        "it('interact with nested iframe', () => \x7b",
        "  cy.visit('/playground/nested-iframes');",
        "  cy.get('#outer-iframe')",
        "    .its('0.contentDocument.body').should('not.be.empty')",
        "    .then(cy.wrap)",
        "    .find('#inner-iframe')",
        "    .its('0.contentDocument.body').should('not.be.empty')",
        "    .then(cy.wrap)",
        "    .find('button')",
        "    .click();",
        "",
        "  // Check results inside nested frame",
        "  cy.get('#outer-iframe').then($outer => \x7b",
        "     const $inner = $outer.contents().find('#inner-iframe');",
        "     cy.wrap($inner.contents().find('body')).should('contain', 'Nested Success!');",
        "  \x7d);",
        "\x7d);"] }
  environment := .nestedIframes
  supportedStyles := [.playwright, .cypress]

/-- Playwright: Trace Config. -/
def pwTraceViewer : Scenario where
  id := "pw-trace-viewer"
  title := "Playwright: Trace Config"
  category := .performance
  difficulty := .intermediate
  description :=
    "Configure and utilize the Playwright Trace Viewer to debug flaky tests and inspect snapshots."
  learningObjectives := [
    "Setting trace: \"on-first-retry\" in config",
    "Capturing screenshots and snapshots",
    "Viewing action metadata in the trace"]
  reference :=
    { playwright := some <| "\n".intercalate [
        "// playwright.config.ts",
        "import \x7b defineConfig \x7d from '@playwright/test';",
        "",
        "export default defineConfig(\x7b",
        "  use: \x7b",
        "    trace: 'on-first-retry',",
        "    screenshot: 'only-on-failure',",
        "  \x7d,",
        "\x7d);"]
      cypress := some <| "\n".intercalate [
        "// Not applicable for Cypress"] }
  environment := .performance
  supportedStyles := [.playwright]

/-- Cypress: Custom Commands. -/
def cyCustomCommands : Scenario where
  id := "cy-custom-commands"
  title := "Cypress: Custom Commands"
  category := .webUi
  difficulty := .intermediate
  description :=
    "Extend the Cypress global \"cy\" object with custom utility commands for repeated actions."
  learningObjectives := [
    "Defining Cypress.Commands.add()",
    "Handling parent and child commands",
    "Typing custom commands for IntelliSense"]
  reference :=
    { playwright := some <| "\n".intercalate [
        "// Not applicable for Playwright"]
      cypress := some <| "\n".intercalate [
        "Cypress.Commands.add('login', (email, password) => \x7b",
        "  cy.get('#email').type(email);",
        "  cy.get('#password').type(password);",
        "  cy.get('button').click();",
        "\x7d);",
        "",
        "it('uses custom login', () => \x7b",
        "  cy.login('user@test.com', 'pass123');",
        "\x7d);"] }
  environment := .login
  supportedStyles := [.cypress]

/-- Select Dropdowns. -/
def basicDropdowns : Scenario where
  id := "basic-dropdowns"
  title := "Select Dropdowns"
  category := .webUi
  difficulty := .basic
  description :=
    "Interact with standard HTML select elements and verify selection states."
  learningObjectives := [
    "Selecting options by value or label",
    "Asserting dropdown selection",
    "Handling change events"]
  reference :=
    { playwright := some <| "\n".intercalate [
        "test('should select a framework', async (\x7b page \x7d) => \x7b",
        "  await page.goto('/playground/dropdowns');",
        "  await page.locator('#framework-select').selectOption('playwright');",
        "  await expect(page.locator('#framework-select')).toHaveValue('playwright');",
        "  await expect(page.getByText('Selected: Playwright')).toBeVisible();",
        "\x7d);"]
      cypress := some <| "\n".intercalate [
        "it('should select a framework', () => \x7b",
        "  cy.visit('/playground/dropdowns');",
        "  cy.get('#framework-select').select('playwright');",
        "  cy.get('#framework-select').should('have.value', 'playwright');",
        "  cy.contains('Selected: Playwright').should('be.visible');",
        "\x7d);"] }
  environment := .dropdowns
  supportedStyles := [.playwright, .cypress]

/-- Table Data Manipulation. -/
def interTableData : Scenario where
  id := "inter-table-data"
  title := "Table Data Manipulation"
  category := .webUi
  difficulty := .intermediate
  description :=
    "Practice locating specific rows in a data table and extracting information or performing " ++
    "row-specific actions."
  learningObjectives := [
    "Locating rows using inner text filters",
    "Accessing child elements within a table row",
    "Asserting on dynamic table content"]
  reference :=
    { playwright := some <| "\n".intercalate [
        "test('should verify user status in table', async (\x7b page \x7d) => \x7b",
        "  await page.goto('/playground/table-data');",
        "  const charlieRow = page.locator('tr').filter(\x7b hasText: 'Charlie' \x7d);",
        "  await expect(charlieRow.locator('.status-badge')).toContainText('Active');",
        "  await charlieRow.getByRole('button', \x7b name: 'View' \x7d).click();",
        "  await expect(page.getByText('Viewing details for Charlie')).toBeVisible();",
        "\x7d);"]
      cypress := some <| "\n".intercalate [
        "it('should verify user status in table', () => \x7b",
        "  cy.visit('/playground/table-data');",
        "  cy.contains('tr', 'Charlie').find('.status-badge').should('contain', 'Active');",
        "  cy.contains('tr', 'Charlie').find('button').contains('View').click();",
        "  cy.contains('Viewing details for Charlie').should('be.visible');",
        "\x7d);"] }
  environment := .tableData
  supportedStyles := [.playwright, .cypress]

/-- Semantic Tree Inspection. -/
def advA11yTree : Scenario where
  id := "adv-a11y-tree"
  title := "Semantic Tree Inspection"
  category := .accessibility
  difficulty := .advanced
  description :=
    "Use Playwright's native accessibility API to inspect the semantic tree and verify ARIA " ++
    "properties."
  learningObjectives := [
    "Capturing the full page accessibility snapshot",
    "Verifying specific node roles and names",
    "Ensuring interactive elements are reachable in the tree"]
  reference :=
    { playwright := some <| "\n".intercalate [
        "import \x7b test, expect \x7d from '@playwright/test';",
        "",
        "test('verify semantic tree structure', async (\x7b page \x7d) => \x7b",
        "  await page.goto('/playground/accessibility-tree');",
        "  const snapshot = await page.accessibility.snapshot();",
        "  const submitButton = snapshot.children.find(node =>",
        "    node.name === 'Submit Order' && node.role === 'button'",
        "  );",
        "  expect(submitButton).toBeTruthy();",
        "  expect(submitButton.disabled).toBeFalsy();",
        "\x7d);"]
      cypress := some <| "\n".intercalate [
        "it('verify accessibility compliance', () => \x7b",
        "  cy.visit('/playground/accessibility-tree');",
        "  cy.injectAxe();",
        "  cy.checkA11y();",
        "\x7d);"] }
  environment := .accessibilityTree
  supportedStyles := [.playwright]

/-- File Upload Interactions. -/
def interFileUpload : Scenario where
  id := "inter-file-upload"
  title := "File Upload Interactions"
  category := .webUi
  difficulty := .intermediate
  description :=
    "Practice uploading files and asserting the upload status and metadata."
  learningObjectives := [
    "Using setInputFiles or selectFile",
    "Handling hidden file inputs",
    "Verifying post-upload UI changes"]
  reference :=
    { playwright := some <| "\n".intercalate [
        "test('should upload a configuration file', async (\x7b page \x7d) => \x7b",
        "  await page.goto('/playground/file-upload');",
        "  await page.setInputFiles('input[type=\"file\"]', \x7b",
        "    name: 'config.json',",
        "    mimeType: 'application/json',",
        "    buffer: Buffer.from('\x7b\"test\": true\x7d')",
        "  \x7d);",
        "  await expect(page.getByText('File \"config.json\" uploaded')).toBeVisible();",
        "\x7d);"]
      cypress := some <| "\n".intercalate [
        "it('should upload a configuration file', () => \x7b",
        "  cy.visit('/playground/file-upload');",
        "  cy.get('input[type=\"file\"]').selectFile(\x7b",
        "    contents: JSON.stringify(\x7b test: true \x7d),",
        "    fileName: 'config.json',",
        "  \x7d);",
        "  cy.contains('File \"config.json\" uploaded').should('be.visible');",
        "\x7d);"] }
  environment := .fileUpload
  supportedStyles := [.playwright, .cypress]

/-- Surgical CSS Selectors. -/
def advSelectorsDeep : Scenario where
  id := "adv-selectors-deep"
  title := "Surgical CSS Selectors"
  category := .advancedSelectors
  difficulty := .intermediate
  description :=
    "Target elements that lack IDs using complex CSS combinations and custom data attributes."
  learningObjectives := [
    "Attribute-based selection [data-test-id]",
    "Using CSS nth-of-type or nth-child",
    "Combining locators for precision"]
  reference :=
    { playwright := some <| "\n".intercalate [
        "test('should click specific item in list', async (\x7b page \x7d) => \x7b",
        "  await page.goto('/playground/advanced-selectors');",
        "  await page.locator('.item-container " ++
        "[data-item-type=\"premium\"]:nth-child(3)').click();",
        "  await expect(page.locator('.selection-status')).toContainText('Premium Item 3 " ++
        "selected');",
        "\x7d);"]
      cypress := some <| "\n".intercalate [
        "it('should click specific item in list', () => \x7b",
        "  cy.visit('/playground/advanced-selectors');",
        "  cy.get('.item-container [data-item-type=\"premium\"]').eq(2).click();",
        "  cy.get('.selection-status').should('contain', 'Premium Item 3 selected');",
        "\x7d);"] }
  environment := .advancedSelectors
  supportedStyles := [.playwright, .cypress]

end BrowserLab.Catalog.Builtin
