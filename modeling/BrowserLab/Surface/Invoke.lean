import BrowserLab.Surface.Command

/-!
# Handles

What a script finds on a handle: the value of a property, or what a method does.
-/

namespace BrowserLab.Surface

open Script

/-- The value of a property; every other name is that of a method. -/
def property? (h : Handle) (key : String) : Option Value :=
  match h with
  | .page frame =>
    if !frame.isRoot then none
    else if key == "accessibility" then some (.handle .accessibility)
    else if key == "request" then some (.handle .request)
    else none
  | .expectation _ => if chainWords.contains key then some (.handle h) else none
  | .cypress =>
    if key == "Commands" then some (.handle .commands)
    else if key == "version" then some (.string "13.0.0")
    else none
  | .element _ =>
    if key == "length" then some (.number 1.0)
    else if key == "0" then some (.handle h)
    else none
  | _ => none

/-- What a method of a handle does. -/
def answerCall (h : Handle) (method : String) (args : List Value) : Eval Reply :=
  match h with
  | .page frame => pageMethod frame method args
  | .locator l => locatorMethod l method args
  | .route glob => routeMethod glob method args
  | .request => requestMethod method args
  | .response r => responseMethod r method
  | .accessibility => accessibilityMethod method
  | .expectation subject => expectMethod subject method args
  | .cy => commandMethod method args
  | .chain t subject => chainMethod t subject method args
  | .element t => elementMethod t method args
  | .alias => if method == "as" then return .value (.handle .cy) else fallback .alias method args
  | .cypress =>
    if method == "env" then return .value .undefined else fallback .cypress method args
  | .commands => commandsMethod method args

/-- Calls a method of a handle. -/
def invoke (h : Handle) (method : String) (args : List Value) : Eval Reply := do
  Eval.modifyBrowser fun b => { b with calls := (h, method) :: b.calls }
  answerCall h method args

end BrowserLab.Surface
