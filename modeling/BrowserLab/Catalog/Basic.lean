import BrowserLab.Document
import BrowserLab.Environment
import BrowserLab.Error
import BrowserLab.Text.Blank

/-!
# Scenarios and catalogs

A scenario is one exercise: what is to be learned, the page it is done on, and the code to begin
with and to end with in each style.  A catalog is a list of scenarios with different names.
-/

namespace BrowserLab

/-- What a scenario is about. -/
inductive Category where
  | webUi
  | advancedSelectors
  | performance
  | accessibility
  | apiTesting
  | iframeTesting
  | maintenance
  | cypressUtils
  deriving DecidableEq, Repr, Inhabited

namespace Category

def all : List Category :=
  [.webUi, .advancedSelectors, .performance, .accessibility, .apiTesting, .iframeTesting,
    .maintenance, .cypressUtils]

/-- The name in documents. -/
def name : Category → String
  | .webUi => "web_ui"
  | .advancedSelectors => "advanced_selectors"
  | .performance => "performance"
  | .accessibility => "accessibility"
  | .apiTesting => "api_testing"
  | .iframeTesting => "iframe_testing"
  | .maintenance => "maintenance"
  | .cypressUtils => "cypress_utils"

/-- The name shown to a reader. -/
def title : Category → String
  | .webUi => "Web UI Fundamentals"
  | .advancedSelectors => "Advanced Selectors"
  | .performance => "Performance Testing"
  | .accessibility => "Accessibility Auditing"
  | .apiTesting => "API Testing"
  | .iframeTesting => "Iframe Testing"
  | .maintenance => "Test Maintenance & Debugging"
  | .cypressUtils => "Cypress Utility Patterns"

def byName : List (String × Category) := all.map fun c => (c.name, c)

/-- A category by its name, in letters of any case and with dashes or underscores. -/
def parse (text : String) : Except String Category :=
  let name := (Text.asciiLower text).map fun c => if c = '-' then '_' else c
  match Dict.get? byName name with
  | some c => .ok c
  | none => .error ("unknown category: " ++ name)

end Category

/-- How hard a scenario is. -/
inductive Difficulty where
  | basic
  | intermediate
  | advanced
  deriving DecidableEq, Repr, Inhabited

namespace Difficulty

def all : List Difficulty := [.basic, .intermediate, .advanced]

def name : Difficulty → String
  | .basic => "basic"
  | .intermediate => "intermediate"
  | .advanced => "advanced"

def title : Difficulty → String
  | .basic => "Basic"
  | .intermediate => "Intermediate"
  | .advanced => "Advanced"

def byName : List (String × Difficulty) := all.map fun d => (d.name, d)

end Difficulty

/-- A text for each style that has one. -/
structure StyleText where
  playwright : Option String := none
  cypress : Option String := none
  deriving DecidableEq, Repr, Inhabited

def StyleText.get? (t : StyleText) : Style → Option String
  | .playwright => t.playwright
  | .cypress => t.cypress

/-- What a scenario's endpoint expects and answers. -/
structure ApiContract where
  method : String
  endpoint : String
  requestBody : Option String := none
  expectedResponse : String
  deriving DecidableEq, Repr, Inhabited

/-- One exercise.  No supported style means that every style is supported. -/
structure Scenario where
  id : String
  title : String
  category : Category
  difficulty : Difficulty
  description : String
  learningObjectives : List String := []
  starter : StyleText := {}
  reference : StyleText
  environment : Environment
  supportedStyles : List Style := []
  apiContract : Option ApiContract := none
  deriving DecidableEq, Repr, Inhabited

namespace Scenario

def supports (s : Scenario) (style : Style) : Bool :=
  s.supportedStyles.isEmpty || s.supportedStyles.contains style

/-- The first supported style. -/
def defaultStyle (s : Scenario) : Style := s.supportedStyles.headD .playwright

/-- The preferred style if it is supported, otherwise the first supported one. -/
def resolveStyle (s : Scenario) (preferred : Style) : Style :=
  if s.supports preferred then preferred else s.defaultStyle

/-- The title in small letters, with dashes between its words. -/
def slug (s : Scenario) : String := "-".intercalate (Text.words (Text.lower s.title))

/-- Code that does nothing yet. -/
def skeleton (s : Scenario) : Style → String
  | .playwright =>
    "import \x7b test, expect \x7d from '@playwright/test';\n\ntest('" ++ s.slug ++
      "', async (\x7b page \x7d) => \x7b\n  // Your Playwright code here...\n  \n\x7d);"
  | .cypress =>
    "describe('" ++ s.title ++
      "', () => \x7b\n  it('should complete the exercise', () => \x7b\n" ++
      "    // Your code here...\n    \n  \x7d);\n\x7d);"

/-- The code to begin with. -/
def starterCode (s : Scenario) (style : Style) : String :=
  (s.starter.get? style).getD (s.skeleton style)

/-- The code to end with. -/
def referenceCode (s : Scenario) (style : Style) : String := (s.reference.get? style).getD ""

end Scenario

/-- Scenarios, at least one and no two with the same name. -/
structure Catalog where
  scenarios : List Scenario
  nonempty : scenarios ≠ []
  distinct : (scenarios.map Scenario.id).Nodup

namespace Catalog

/-- The first name that has occurred before it; `seen` holds the names before the list. -/
def duplicate? (seen : List String) : List String → Option String
  | [] => none
  | id :: rest => if id ∈ seen then some id else duplicate? (id :: seen) rest

/-- The catalog of a list of scenarios. -/
def ofList (scenarios : List Scenario) : Except LabError Catalog :=
  if hne : scenarios = [] then .error (.catalog .noScenarios)
  else if hnodup : (scenarios.map Scenario.id).Nodup then .ok ⟨scenarios, hne, hnodup⟩
  else .error (.catalog (.duplicate ((duplicate? [] (scenarios.map Scenario.id)).getD "")))

def size (c : Catalog) : Nat := c.scenarios.length

/-- The first scenario. -/
def first (c : Catalog) : Scenario := c.scenarios.head c.nonempty

/-- The scenario at a position; the first one, if there is none there. -/
def getD (c : Catalog) (i : Nat) : Scenario := c.scenarios.getD i c.first

def find? (c : Catalog) (id : String) : Option Scenario := c.scenarios.find? fun s => s.id = id

/-- Where the scenario with the name is. -/
def position? (c : Catalog) (id : String) : Option Nat :=
  c.scenarios.findIdx? fun s => s.id = id

/-- The scenario with the name. -/
def get (c : Catalog) (id : String) : Except LabError Scenario :=
  match c.find? id with
  | some s => .ok s
  | none => .error (.scenarioNotFound id)

/-- The scenarios of a category, if one is given, that support a style, if one is given. -/
def filter (c : Catalog) (category : Option Category) (style : Option Style) : List Scenario :=
  c.scenarios.filter fun s => category.all (s.category = ·) && style.all s.supports

end Catalog

end BrowserLab
