import BrowserLab.Text.Case

/-!
# The two styles of writing a browser test

A test awaits each step on a page object, or it chains commands one behind the other.
-/

namespace BrowserLab

/-- A style of test code. -/
inductive Style where
  | playwright
  | cypress
  deriving DecidableEq, Repr, Inhabited

namespace Style

def all : List Style := [.playwright, .cypress]

/-- The name in documents and keys. -/
def name : Style → String
  | .playwright => "playwright"
  | .cypress => "cypress"

/-- The name shown to a reader. -/
def title : Style → String
  | .playwright => "Playwright"
  | .cypress => "Cypress"

/-- The file that an editor shows for test code of this style. -/
def specFile : Style → String
  | .playwright => "playwright.spec.ts"
  | .cypress => "cypress.cy.ts"

/-- The styles by name. -/
def byName : List (String × Style) := all.map fun s => (s.name, s)

/-- A style by its name or its abbreviation, in letters of any case. -/
def parse (text : String) : Except String Style :=
  match Text.asciiLower text with
  | "playwright" => .ok .playwright
  | "pw" => .ok .playwright
  | "cypress" => .ok .cypress
  | "cy" => .ok .cypress
  | other => .error ("unknown API style: " ++ other)

end Style

end BrowserLab
