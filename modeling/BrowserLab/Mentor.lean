import BrowserLab.Catalog.Basic
import BrowserLab.Config
import BrowserLab.Json.Reader

/-!
# The mentor

A mentor answers questions and judges solutions.  It may fail, and then there are fixed answers, so
that whoever asks is always answered.
-/

namespace BrowserLab

/-- What a mentor says of a solution. -/
structure Validation where
  isCorrect : Bool
  feedback : String
  deriving DecidableEq, Repr, Inhabited

namespace Validation

def toJson (v : Validation) : Json :=
  .obj [("isCorrect", .bool v.isCorrect), ("feedback", .str v.feedback)]

def ofDocument? {δ : Type} [Document δ] (d : δ) : Option Validation := do
  let fields ← Document.record? ["isCorrect", "feedback"] d
  let isCorrect ← Document.required fields "isCorrect" Document.boolean?
  let feedback ← Document.required fields "feedback" Document.text?
  return { isCorrect, feedback }

/-- What is said of a solution when the mentor fails. -/
def unavailable : Validation := ⟨false, "Validation service is temporarily unavailable."⟩

/-- Three backticks, which a block of code stands between. -/
def fence : String := "\x60\x60\x60"

/-- What stands between fences, if the text begins and ends with one. -/
def unfenced (text : String) : String :=
  let opened := Text.dropStart? text (fence ++ "json") <|> Text.dropStart? text fence
  (opened.bind fun rest => Text.dropEnd? rest fence).getD text

/-- Reads what a mentor has answered: JSON, which may stand between fences. -/
def parse (text : String) : Except LabError Validation :=
  match Json.readRaw (Text.trim (unfenced (Text.trim text))) with
  | .ok j =>
    match ofDocument? j with
    | some v => .ok v
    | none => .error .json
  | .error _ => .error .json

end Validation

/-- What a mentor answers to a question, and what it says of a solution. -/
structure Mentor where
  hint : (question : String) → Style → (description : Option String) → Except LabError String
  validate : (code : String) → Scenario → Style → Except LabError Validation

/-- There is nobody to ask. -/
def LabError.noMentor : LabError := .serviceUnavailable "no mentor endpoint configured"

namespace Mentor

/-- The mentor that always fails. -/
def offline : Mentor := ⟨fun _ _ _ => .error .noMentor, fun _ _ _ => .error .noMentor⟩

/-- What is answered when the mentor fails. -/
def failedHint : String := "I'm sorry, I encountered an error while processing your request."

/-- What is answered when the mentor answers with nothing. -/
def emptyHint : String :=
  "I'm sorry, I couldn't generate a helpful response at this time."

/-- The mentor's answer or a fixed one. -/
def answer (m : Mentor) (question : String) (style : Style) (description : Option String) :
    String :=
  match m.hint question style description with
  | .ok text => if (Text.trim text).isEmpty then emptyHint else text
  | .error _ => failedHint

/-- What the mentor says of a solution, or that it is not to be had. -/
def judge (m : Mentor) (code : String) (scenario : Scenario) (style : Style) : Validation :=
  match m.validate code scenario style with
  | .ok v => v
  | .error _ => .unavailable

/-- How a question is put to a mentor. -/
def hintPrompt (question : String) (style : Style) (description : Option String) : String :=
  "You are a world-class " ++ style.title ++
    " automation expert. Help the user with their question about " ++ style.title ++ ".\n" ++
    "Context: The user is practicing on an app with the following scenario: " ++
    description.getD "General Learning" ++ ".\n\n" ++
    "User Question: " ++ question ++ "\n\n" ++
    "Provide clear, concise code snippets for " ++ style.title ++
    " and explanations. Use Markdown formatting."

/-- How a solution is put to a mentor. -/
def validationPrompt (code : String) (scenario : Scenario) (style : Style) : String :=
  let tool := style.title
  "ACT AS A CODE REVIEWER FOR " ++ Text.upper tool ++ ".\n" ++
    "Challenge: " ++ scenario.title ++ "\n" ++
    "Tool: " ++ tool ++ "\n" ++
    "Description: " ++ scenario.description ++ "\n" ++
    "Objectives: " ++ ", ".intercalate scenario.learningObjectives ++ "\n" ++
    "Reference " ++ tool ++ " Snippet: " ++ scenario.referenceCode style ++ "\n\n" ++
    "User's Attempt (" ++ tool ++ "):\n" ++
    Validation.fence ++ "typescript\n" ++ code ++ "\n" ++ Validation.fence ++ "\n\n" ++
    "Review the user's attempt specifically using " ++ tool ++ " syntax.\n" ++
    "1. Is it functionally correct for " ++ tool ++ "?\n" ++
    "2. Does it meet all objectives?\n" ++
    "3. Give 2 constructive tips for improvement if needed.\n\n" ++
    "Your output must be JSON with the fields isCorrect (boolean) and feedback (markdown string)."

end Mentor

/-- The address of the mentor without slashes at its end. -/
def MentorConfig.address (c : MentorConfig) : Except LabError String :=
  match c.endpoint with
  | some endpoint =>
    .ok (String.ofList (endpoint.toList.reverse.dropWhile (· = '/')).reverse)
  | none => .error .noMentor

end BrowserLab
