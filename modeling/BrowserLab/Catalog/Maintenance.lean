import BrowserLab.Catalog.Basic

/-!
# Scenarios on keeping tests alive

Tests that the page or the backend has moved away from, and commands that tests share.
-/

namespace BrowserLab.Catalog.Builtin

/-- Repairing Intercept Utilities. -/
def maintCyUtilIntercept : Scenario where
  id := "maint-cy-util-intercept"
  title := "Repairing Intercept Utilities"
  category := .maintenance
  difficulty := .intermediate
  description :=
    "A global intercept utility used for stubbing user profiles is failing because the API " ++
    "endpoint changed from /api/v1/user to /api/v2/profile. Update the utility to restore the " ++
    "test."
  learningObjectives := [
    "Refactoring shared utility functions",
    "Updating cy.intercept path patterns",
    "Validating mock data injection"]
  starter :=
    { playwright := some <| "\n".intercalate [
        "// Not applicable for this Cypress-focused maintenance task"]
      cypress := some <| "\n".intercalate [
        "// utils/api.ts",
        "export const setupUserMock = () => \x7b",
        "  // FIX ME: This endpoint is outdated (v1/user -> v2/profile)",
        "  cy.intercept('GET', '**/api/v1/user', \x7b",
        "    body: \x7b name: 'Test User' \x7d",
        "  \x7d).as('getUser');",
        "\x7d;",
        "",
        "it('should display mocked user name', () => \x7b",
        "  setupUserMock();",
        "  cy.visit('/playground/cy-util-repair');",
        "  cy.wait('@getUser');",
        "  cy.contains('Test User').should('be.visible');",
        "\x7d);"] }
  reference :=
    { playwright := some <| "\n".intercalate [
        "// Use page.route for equivalent Playwright logic",
        "await page.route('**/api/v2/profile', route => route.fulfill(\x7b",
        "  status: 200,",
        "  body: \x7b name: 'Refactored User' \x7d",
        "\x7d));"]
      cypress := some <| "\n".intercalate [
        "// utils/api.ts",
        "export const setupUserMock = () => \x7b",
        "  cy.intercept('GET', '**/api/v2/profile', \x7b",
        "    body: \x7b name: 'Test User' \x7d",
        "  \x7d).as('getUser');",
        "\x7d;",
        "",
        "it('should display mocked user name', () => \x7b",
        "  setupUserMock();",
        "  cy.visit('/playground/cy-util-repair');",
        "  cy.wait('@getUser');",
        "  cy.contains('Test User').should('be.visible');",
        "\x7d);"] }
  environment := .profileRepair
  supportedStyles := [.cypress]

/-- Defining Custom Commands. -/
def cyUtilCustomCmd : Scenario where
  id := "cy-util-custom-cmd"
  title := "Defining Custom Commands"
  category := .cypressUtils
  difficulty := .basic
  description :=
    "Implement a reusable custom command \"cy.resetDatabase()\" that makes a POST request to " ++
    "a cleanup endpoint to ensure a clean state before every test."
  learningObjectives := [
    "Using Cypress.Commands.add()",
    "Wrapping cy.request in custom commands",
    "Implementing global test hooks"]
  reference :=
    { playwright := some <| "\n".intercalate [
        "// In Playwright, we use a global setup or a test.beforeEach hook",
        "test.beforeEach(async (\x7b request \x7d) => \x7b",
        "  await request.post('/api/database/reset');",
        "\x7d);"]
      cypress := some <| "\n".intercalate [
        "Cypress.Commands.add('resetDatabase', () => \x7b",
        "  cy.request('POST', '/api/database/reset');",
        "\x7d);",
        "",
        "describe('Database Management', () => \x7b",
        "  beforeEach(() => \x7b",
        "    cy.resetDatabase();",
        "  \x7d);",
        "",
        "  it('starts with a fresh state', () => \x7b",
        "    cy.visit('/playground/cy-db-status');",
        "    cy.contains('Database: Ready').should('be.visible');",
        "  \x7d);",
        "\x7d);"] }
  environment := .databaseStatus
  supportedStyles := [.cypress]
  apiContract := some
    { method := "POST", endpoint := "/api/database/reset"
      expectedResponse := "200 OK - \x7b status: \"cleaned\" \x7d" }

/-- Repairing Brittle Selectors. -/
def maintBrittleSelectors : Scenario where
  id := "maint-brittle-selectors"
  title := "Repairing Brittle Selectors"
  category := .maintenance
  difficulty := .intermediate
  description :=
    "A recent UI update changed auto-generated class names, breaking the existing test. " ++
    "Refactor the brittle CSS selector to use a robust Playwright/Cypress locator."
  learningObjectives := [
    "Identifying brittle CSS selectors",
    "Implementing user-facing locators (getByRole, getByLabel)",
    "Improving test stability against UI style changes"]
  starter :=
    { playwright := some <| "\n".intercalate [
        "import \x7b test, expect \x7d from '@playwright/test';",
        "",
        "test('submit feedback form', async (\x7b page \x7d) => \x7b",
        "  await page.goto('/playground/feedback');",
        "  // FIX ME: This selector is brittle and fails after the UI update",
        "  await page.locator('.css-1x9a2-submit-feedback-btn-v2').click();",
        "  await expect(page.getByText('Thank you!')).toBeVisible();",
        "\x7d);"]
      cypress := some <| "\n".intercalate [
        "it('submit feedback form', () => \x7b",
        "  cy.visit('/playground/feedback');",
        "  // FIX ME: This selector is brittle",
        "  cy.get('.css-1x9a2-submit-feedback-btn-v2').click();",
        "  cy.contains('Thank you!').should('be.visible');",
        "\x7d);"] }
  reference :=
    { playwright := some <| "\n".intercalate [
        "test('submit feedback form', async (\x7b page \x7d) => \x7b",
        "  await page.goto('/playground/feedback');",
        "  await page.getByRole('button', \x7b name: 'Submit Feedback' \x7d).click();",
        "  await expect(page.getByText('Thank you!')).toBeVisible();",
        "\x7d);"]
      cypress := some <| "\n".intercalate [
        "it('submit feedback form', () => \x7b",
        "  cy.visit('/playground/feedback');",
        "  cy.contains('button', 'Submit Feedback').click();",
        "  cy.contains('Thank you!').should('be.visible');",
        "\x7d);"] }
  environment := .feedbackForm
  supportedStyles := [.playwright, .cypress]

/-- Fixing Flaky Async Waits. -/
def maintAsyncWait : Scenario where
  id := "maint-async-wait"
  title := "Fixing Flaky Async Waits"
  category := .maintenance
  difficulty := .intermediate
  description :=
    "The test fails because it tries to click a button that only appears after a random " ++
    "loading delay. Add proper waiting logic to handle the dynamic element."
  learningObjectives := [
    "Understanding automatic waiting in Playwright",
    "Handling dynamic elements in Cypress",
    "Eliminating fixed \"sleep\" or \"pause\" statements"]
  starter :=
    { playwright := some <| "\n".intercalate [
        "import \x7b test, expect \x7d from '@playwright/test';",
        "",
        "test('load and click secret button', async (\x7b page \x7d) => \x7b",
        "  await page.goto('/playground/async-loading');",
        "  // FIX ME: This fails because the button takes 2 seconds to appear",
        "  await page.getByRole('button', \x7b name: 'Reveal Secret' \x7d).click();",
        "  await expect(page.getByText('The secret code is 42')).toBeVisible();",
        "\x7d);"]
      cypress := some <| "\n".intercalate [
        "it('load and click secret button', () => \x7b",
        "  cy.visit('/playground/async-loading');",
        "  // FIX ME: This fails because Cypress default timeout might be too short",
        "  // or the element isn't guarded properly",
        "  cy.get('#reveal-btn').click();",
        "  cy.contains('The secret code is 42').should('be.visible');",
        "\x7d);"] }
  reference :=
    { playwright := some <| "\n".intercalate [
        "test('load and click secret button', async (\x7b page \x7d) => \x7b",
        "  await page.goto('/playground/async-loading');",
        "  // Playwright locators wait automatically, but if it was missing, we ensure it exists",
        "  const btn = page.getByRole('button', \x7b name: 'Reveal Secret' \x7d);",
        "  await btn.click();",
        "  await expect(page.getByText('The secret code is 42')).toBeVisible();",
        "\x7d);"]
      cypress := some <| "\n".intercalate [
        "it('load and click secret button', () => \x7b",
        "  cy.visit('/playground/async-loading');",
        "  // Increase timeout or rely on default assertions",
        "  cy.get('#reveal-btn', \x7b timeout: 5000 \x7d).should('be.visible').click();",
        "  cy.contains('The secret code is 42').should('be.visible');",
        "\x7d);"] }
  environment := .asyncLoading
  supportedStyles := [.playwright, .cypress]

/-- Updating Legacy Assertions. -/
def maintTextRegression : Scenario where
  id := "maint-text-regression"
  title := "Updating Legacy Assertions"
  category := .maintenance
  difficulty := .basic
  description :=
    "The product team rebranded \"Submit Order\" to \"Finalize Checkout\". Update the " ++
    "outdated test assertions to match the new UI copy."
  learningObjectives := [
    "Updating string-based assertions",
    "Syncing tests with UI copy changes",
    "Best practices for matching text"]
  starter :=
    { playwright := some <| "\n".intercalate [
        "import \x7b test, expect \x7d from '@playwright/test';",
        "",
        "test('complete checkout flow', async (\x7b page \x7d) => \x7b",
        "  await page.goto('/playground/checkout');",
        "  // FIX ME: The button text changed to \"Finalize Checkout\"",
        "  await page.getByRole('button', \x7b name: 'Submit Order' \x7d).click();",
        "  await expect(page.getByText('Order Complete')).toBeVisible();",
        "\x7d);"]
      cypress := some <| "\n".intercalate [
        "it('complete checkout flow', () => \x7b",
        "  cy.visit('/playground/checkout');",
        "  // FIX ME: Text is now \"Finalize Checkout\"",
        "  cy.contains('Submit Order').click();",
        "  cy.contains('Order Complete').should('be.visible');",
        "\x7d);"] }
  reference :=
    { playwright := some <| "\n".intercalate [
        "test('complete checkout flow', async (\x7b page \x7d) => \x7b",
        "  await page.goto('/playground/checkout');",
        "  await page.getByRole('button', \x7b name: 'Finalize Checkout' \x7d).click();",
        "  await expect(page.getByText('Checkout Successful')).toBeVisible();",
        "\x7d);"]
      cypress := some <| "\n".intercalate [
        "it('complete checkout flow', () => \x7b",
        "  cy.visit('/playground/checkout');",
        "  cy.contains('Finalize Checkout').click();",
        "  cy.contains('Checkout Successful').should('be.visible');",
        "\x7d);"] }
  environment := .checkout
  supportedStyles := [.playwright, .cypress]

end BrowserLab.Catalog.Builtin
