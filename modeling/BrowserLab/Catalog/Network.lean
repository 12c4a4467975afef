import BrowserLab.Catalog.Basic

/-!
# Scenarios on requests

Requests with keys and tokens, and answers that a test gives in place of the backend.
-/

namespace BrowserLab.Catalog.Builtin

/-- Secure Header-Based API Key Auth. -/
def apiKeyAuth : Scenario where
  id := "api-key-auth"
  title := "Secure Header-Based API Key Auth"
  category := .apiTesting
  difficulty := .intermediate
  description :=
    "Test an API endpoint that requires a custom security header for authentication."
  learningObjectives := [
    "Sending custom headers in API requests",
    "Validating unauthorized (401) responses when headers are missing",
    "Asserting on secure resource access with correct credentials"]
  reference :=
    { playwright := some <| "\n".intercalate [
        "import \x7b test, expect \x7d from '@playwright/test';",
        "",
        "test('should access protected resource with API key', async (\x7b request \x7d) => \x7b",
        "  const response = await request.get('/api/secure-data', \x7b",
        "    headers: \x7b",
        "      'x-api-key': 'top-secret-key-123'",
        "    \x7d",
        "  \x7d);",
        "",
        "  expect(response.status()).toBe(200);",
        "  const body = await response.json();",
        "  expect(body.secret).toBe('The password is \"blue-falcon\"');",
        "\x7d);"]
      cypress := some <| "\n".intercalate [
        "it('should access protected resource with API key', () => \x7b",
        "  cy.request(\x7b",
        "    method: 'GET',",
        "    url: '/api/secure-data',",
        "    headers: \x7b",
        "      'x-api-key': 'top-secret-key-123'",
        "    \x7d",
        "  \x7d).then((response) => \x7b",
        "    expect(response.status).to.eq(200);",
        "    expect(response.body.secret).to.contain('blue-falcon');",
        "  \x7d);",
        "\x7d);"] }
  environment := .apiConsole
  supportedStyles := [.playwright, .cypress]
  apiContract := some
    { method := "GET", endpoint := "/api/secure-data"
      requestBody := some "None"
      expectedResponse := "200 OK - \x7b secret: string \x7d (Requires \"x-api-key\" header)" }

/-- OAuth2 Token Exchange. -/
def apiOauthToken : Scenario where
  id := "api-oauth-token"
  title := "OAuth2 Token Exchange"
  category := .apiTesting
  difficulty := .intermediate
  description :=
    "Simulate an OAuth2 flow where you exchange an authorization code for an access token and " ++
    "validate the response metadata."
  learningObjectives := [
    "Handling POST requests with JSON payloads",
    "Validating sensitive response fields (tokens)",
    "Asserting status codes and header logic"]
  reference :=
    { playwright := some <| "\n".intercalate [
        "import \x7b test, expect \x7d from '@playwright/test';",
        "",
        "test('should exchange code for token', async (\x7b request \x7d) => \x7b",
        "  const response = await request.post('/api/auth/token', \x7b",
        "    data: \x7b",
        "      grant_type: 'authorization_code',",
        "      code: 'mock_code_123',",
        "      client_id: 'playwright-lab',",
        "      client_secret: 'secret-key'",
        "    \x7d",
        "  \x7d);",
        "",
        "  expect(response.status()).toBe(200);",
        "  const body = await response.json();",
        "",
        "  expect(body.access_token).toBeDefined();",
        "  expect(body.token_type).toBe('Bearer');",
        "  expect(body.expires_in).toBe(3600);",
        "\x7d);"]
      cypress := some <| "\n".intercalate [
        "it('should exchange code for token', () => \x7b",
        "  cy.request('POST', '/api/auth/token', \x7b",
        "    grant_type: 'authorization_code',",
        "    code: 'mock_code_123',",
        "    client_id: 'cypress-lab',",
        "    client_secret: 'secret-key'",
        "  \x7d).then((response) => \x7b",
        "    expect(response.status).to.eq(200);",
        "    expect(response.body.access_token).to.exist;",
        "    expect(response.body.token_type).to.eq('Bearer');",
        "  \x7d);",
        "\x7d);"] }
  environment := .apiConsole
  supportedStyles := [.playwright, .cypress]
  apiContract := some
    { method := "POST", endpoint := "/api/auth/token"
      requestBody := some ("\x7b\n  \"grant_type\": \"authorization_code\",\n" ++
        "  \"code\": \"string\",\n  \"client_id\": \"string\",\n" ++
        "  \"client_secret\": \"string\"\n\x7d")
      expectedResponse :=
        "200 OK - \x7b access_token: string, token_type: \"Bearer\", expires_in: 3600 \x7d" }

/-- REST API: GET Request. -/
def apiBasicGet : Scenario where
  id := "api-basic-get"
  title := "REST API: GET Request"
  category := .apiTesting
  difficulty := .basic
  description :=
    "Learn how to perform a simple GET request using Playwrights request context and validate " ++
    "the response payload."
  learningObjectives := [
    "Using request.get() for API calls",
    "Checking status code expectations",
    "Extracting and asserting JSON properties"]
  reference :=
    { playwright := some <| "\n".intercalate [
        "import \x7b test, expect \x7d from '@playwright/test';",
        "",
        "test('should fetch user details', async (\x7b request \x7d) => \x7b",
        "  const response = await request.get('/api/users/1');",
        "  expect(response.ok()).toBeTruthy();",
        "",
        "  const body = await response.json();",
        "  expect(body.name).toBe('John Doe');",
        "\x7d);"]
      cypress := some <| "\n".intercalate [
        "it('should fetch user details', () => \x7b",
        "  cy.request('GET', '/api/users/1').then((response) => \x7b",
        "    expect(response.status).to.eq(200);",
        "    expect(response.body.name).to.eq('John Doe');",
        "  \x7d);",
        "\x7d);"] }
  environment := .apiConsole
  supportedStyles := [.playwright, .cypress]
  apiContract := some
    { method := "GET", endpoint := "/api/users/:id"
      expectedResponse := "200 OK - \x7b id: number, name: string, email: string \x7d" }

/-- API Request Interception. -/
def advApiMocking : Scenario where
  id := "adv-api-mocking"
  title := "API Request Interception"
  category := .apiTesting
  difficulty := .advanced
  description :=
    "Intercept a real network request from the UI and provide a mock response to test " ++
    "specific client-side states like error handling."
  learningObjectives := [
    "Using page.route() for interception",
    "Providing fulfill/mock responses",
    "Testing UI error handling states"]
  reference :=
    { playwright := some <| "\n".intercalate [
        "import \x7b test, expect \x7d from '@playwright/test';",
        "",
        "test('should show error when API fails', async (\x7b page \x7d) => \x7b",
        "  await page.route('**/api/data', route => route.fulfill(\x7b",
        "    status: 500,",
        "    contentType: 'application/json',",
        "    body: JSON.stringify(\x7b error: 'Server exploded' \x7d)",
        "  \x7d));",
        "",
        "  await page.goto('/playground/api-mock');",
        "  await page.getByRole('button', \x7b name: 'Fetch Data' \x7d).click();",
        "  await expect(page.getByText('Error: Server exploded')).toBeVisible();",
        "\x7d);"]
      cypress := some <| "\n".intercalate [
        "it('should show error when API fails', () => \x7b",
        "  cy.intercept('GET', '**/api/data', \x7b",
        "    statusCode: 500,",
        "    body: \x7b error: 'Server exploded' \x7d",
        "  \x7d).as('getData');",
        "",
        "  cy.visit('/playground/api-mock');",
        "  cy.get('button').contains('Fetch Data').click();",
        "  await cy.wait('@getData');",
        "  cy.contains('Error: Server exploded').should('be.visible');",
        "\x7d);"] }
  environment := .apiMock
  supportedStyles := [.playwright, .cypress]
  apiContract := some
    { method := "GET", endpoint := "/api/data"
      expectedResponse := "200 OK - \x7b data: string \x7d (unless mocked to 500)" }

end BrowserLab.Catalog.Builtin
