import BrowserLab.Catalog.Basic

/-!
# Catalogs as documents

Every field of a scenario is written, and what is absent is written as null.
-/

namespace BrowserLab

open Document

namespace StyleText

def toJson (t : StyleText) : Json :=
  .obj [("playwright", .ofOption .str t.playwright), ("cypress", .ofOption .str t.cypress)]

def ofDocument? {δ : Type} [Document δ] (d : δ) : Option StyleText := do
  let fields ← record? ["playwright", "cypress"] d
  let playwright ← optional fields "playwright" text?
  let cypress ← optional fields "cypress" text?
  return { playwright, cypress }

end StyleText

namespace ApiContract

def toJson (c : ApiContract) : Json :=
  .obj [("method", .str c.method), ("endpoint", .str c.endpoint),
    ("request_body", .ofOption .str c.requestBody), ("expected_response", .str c.expectedResponse)]

def ofDocument? {δ : Type} [Document δ] (d : δ) : Option ApiContract := do
  let fields ← record? ["method", "endpoint", "request_body", "expected_response"] d
  let method ← required fields "method" text?
  let endpoint ← required fields "endpoint" text?
  let requestBody ← optional fields "request_body" text?
  let expectedResponse ← required fields "expected_response" text?
  return { method, endpoint, requestBody, expectedResponse }

end ApiContract

namespace Scenario

def toJson (s : Scenario) : Json :=
  .obj [("id", .str s.id), ("title", .str s.title), ("category", .str s.category.name),
    ("difficulty", .str s.difficulty.name), ("description", .str s.description),
    ("learning_objectives", .arr (s.learningObjectives.map .str)),
    ("starter", s.starter.toJson), ("reference", s.reference.toJson),
    ("environment", .str s.environment.name),
    ("supported_styles", .arr (s.supportedStyles.map fun style => .str style.name)),
    ("api_contract", .ofOption ApiContract.toJson s.apiContract)]

def ofDocument? {δ : Type} [Document δ] (d : δ) : Option Scenario := do
  let fields ← record?
    ["id", "title", "category", "difficulty", "description", "learning_objectives", "starter",
      "reference", "environment", "supported_styles", "api_contract"] d
  let id ← required fields "id" text?
  let title ← required fields "title" text?
  let category ← required fields "category" (oneOf Category.byName)
  let difficulty ← required fields "difficulty" (oneOf Difficulty.byName)
  let description ← required fields "description" text?
  let learningObjectives ← withDefault fields "learning_objectives" [] (listOf text?)
  let starter ← withDefault fields "starter" {} StyleText.ofDocument?
  let reference ← required fields "reference" StyleText.ofDocument?
  let environment ← required fields "environment" (oneOf Environment.byName)
  let supportedStyles ← withDefault fields "supported_styles" [] (listOf (oneOf Style.byName))
  let apiContract ← optional fields "api_contract" ApiContract.ofDocument?
  return { id, title, category, difficulty, description, learningObjectives, starter, reference,
           environment, supportedStyles, apiContract }

end Scenario

/-- The scenarios of a catalog's document. -/
def Catalog.scenariosOfDocument? {δ : Type} [Document δ] (d : δ) : Option (List Scenario) := do
  let fields ← record? ["scenarios"] d
  required fields "scenarios" (listOf Scenario.ofDocument?)

end BrowserLab
