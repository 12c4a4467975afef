import BrowserLab.Surface.Request

/-!
# The page

The page and its frames, the locators found on them, routes and the accessibility tree.  A method
that acts on the page announces its event first and then waits for the page to respond.
-/

namespace BrowserLab.Surface

open Script

/-- The event of doing something to the element. -/
def locatorEvent (l : Locator) (kind : Event.Kind) : Event where
  kind := kind
  selector := l.selector
  label := l.label
  value := l.text
  frame := l.frame

/-- The selector of something within the element. -/
def scopedSelector (l : Locator) (selector : String) : String := within l.selector selector " >> "

/-- The selector of a test identifier. -/
def testIdSelector (id : String) : String := "[data-testid=\"" ++ id ++ "\"]"

/-- Announces an event and waits. -/
def act (e : Event) (delay : Latency → Nat) : Eval Reply := do
  Eval.emit e
  let latency ← Eval.browser (·.latency)
  Eval.pause (delay latency)
  return .value .undefined

/-- The accessible name of a query by role. -/
def roleName (args : List Value) : Eval String := do
  match ← textOption? (argument args 1) "name" with
  | some name => return name
  | none => textArgument args 0

/-- The option that is chosen: a text, the first of a list, or what an object names. -/
def choiceTo (h : Heap) : Nat → Value → String
  | 0, _ => ""
  | depth + 1, v =>
    match v with
    | .array ref =>
      match (h.array ref)[0]? with
      | some first => choiceTo h depth first
      | none => ""
    | .object _ =>
      match h.option? v "value" <|> h.option? v "label" with
      | some w => h.display w
      | none => ""
    | .undefined => ""
    | .null => ""
    | v => h.display v

/-- Puts a file into the element. -/
def upload (l : Locator) (files : Value) : Eval Reply := do
  let name ← Eval.heap fun h => uploadName h files "name" "file.txt"
  act { locatorEvent l .upload with value := some name } Latency.upload

/-- A locator as a reply. -/
def found (l : Locator) : Eval Reply := return .value (.handle (.locator l))

/-- The methods that click an element. -/
def clicks : List String := ["click", "dblclick", "check", "uncheck", "tap"]

/-- The methods that put text into an element. -/
def fills : List String := ["fill", "type", "pressSequentially"]

/-- The methods of a locator that do nothing here. -/
def locatorIdle : List String :=
  ["hover", "waitFor", "scrollIntoViewIfNeeded", "focus", "blur", "press", "clear"]

/-- What is dragged to is named by its selector, its label or its text. -/
def dragEvent (l : Locator) (goal : Value) : Event :=
  match goal with
  | .handle (.locator g) =>
    { locatorEvent l .drag with value := g.selector <|> g.label <|> g.text }
  | _ => locatorEvent l .drag

/-- The element narrowed to those that contain a text. -/
def withText (l : Locator) (text : String) : Locator :=
  { l with selector := some (l.selector.getD "*" ++ ":has-text(\"" ++ text ++ "\")") }

/-- One of several elements. -/
def nth (l : Locator) (index : String) : Locator :=
  { l with selector := some (l.selector.getD "*" ++ " >> nth=" ++ index) }

/-- A method of a locator. -/
def locatorMethod (l : Locator) (method : String) (args : List Value) : Eval Reply := do
  if clicks.contains method then act (locatorEvent l .click) Latency.interaction
  else if fills.contains method then
    let text ← textArgument args 0
    act { locatorEvent l .fill with value := some text } Latency.interaction
  else if locatorIdle.contains method then return .value .undefined
  else
    match method with
    | "selectOption" =>
      let choice ← Eval.heap fun h => choiceTo h h.depth (argument args 0)
      act { locatorEvent l .select with value := some choice } Latency.interaction
    | "dragTo" => act (dragEvent l (argument args 0)) Latency.drag
    | "setInputFiles" => upload l (argument args 0)
    | "toBeVisible" =>
      Eval.emit (locatorEvent l .assertVisible)
      return .value (.bool true)
    | "locator" =>
      let selector := scopedSelector l (← textArgument args 0)
      found { frame := l.frame, selector := some selector }
    | "getByLabel" => byLabel (← textArgument args 0)
    | "getByPlaceholder" => byLabel (← textArgument args 0)
    | "getByTitle" => byLabel (← textArgument args 0)
    | "getByRole" => byLabel (← roleName args)
    | "getByText" =>
      let text ← textArgument args 0
      found { frame := l.frame, selector := l.selector, text := some text }
    | "getByTestId" =>
      let selector := scopedSelector l (testIdSelector (← textArgument args 0))
      found { frame := l.frame, selector := some selector }
    | "filter" =>
      match ← textOption? (argument args 0) "hasText" with
      | some text => found (withText l text)
      | none => found l
    | "first" => found (nth l "0")
    | "last" => found (nth l "-1")
    | "nth" => found (nth l (← Eval.display (argument args 0)))
    | "frameLocator" =>
      let selector := scopedSelector l (← textArgument args 0)
      return .value (.handle (.page (l.frame.child selector)))
    | "textContent" => return .value (.string ((l.text <|> l.label).getD ""))
    | "innerText" => return .value (.string ((l.text <|> l.label).getD ""))
    | "inputValue" => return .value (.string "")
    | "getAttribute" => return .value .null
    | "isVisible" => return .value (.bool true)
    | "isEnabled" => return .value (.bool true)
    | "count" => return .value (.number 1.0)
    | _ => fallback (.locator l) method args
where
  byLabel (label : String) : Eval Reply :=
    found { frame := l.frame, selector := l.selector, label := some label }

/-- The methods of a page that do nothing here. -/
def pageIdle : List String :=
  ["waitForRequest", "waitForLoadState", "waitForSelector", "waitForURL", "screenshot", "pause",
    "reload", "setViewportSize", "close", "bringToFront"]

/-- The methods of a page that act on the element of a selector. -/
def pageActions : List String := ["click", "dblclick", "check", "fill", "type", "selectOption"]

/-- Waits as long as asked for. -/
def waitFor (milliseconds : Float) : Eval Reply := do
  if milliseconds > 0.0 && !milliseconds.isInf then Eval.pause (Number.toNat64 milliseconds)
  return .value .undefined

/-- A method of a page or a frame. -/
def pageMethod (frame : FramePath) (method : String) (args : List Value) : Eval Reply := do
  if pageIdle.contains method then return .value .undefined
  else if pageActions.contains method then
    let selector ← textArgument args 0
    locatorMethod { frame, selector := some selector } method (args.drop 1)
  else
    match method with
    | "goto" =>
      let url ← textArgument args 0
      Eval.modifyBrowser fun b => { b with url := some url }
      act { kind := .navigate, value := some url } Latency.navigate
    | "frameLocator" => return .value (.handle (.page (frame.child (← textArgument args 0))))
    | "frame" => return .value (.handle (.page (frame.child (← textArgument args 0))))
    | "locator" =>
      let selector ← textArgument args 0
      found { frame, selector := some selector }
    | "getByLabel" => byLabel (← textArgument args 0)
    | "getByPlaceholder" => byLabel (← textArgument args 0)
    | "getByTitle" => byLabel (← textArgument args 0)
    | "getByAltText" => byLabel (← textArgument args 0)
    | "getByRole" => byLabel (← roleName args)
    | "getByText" =>
      let text ← textArgument args 0
      found { frame, text := some text }
    | "getByTestId" =>
      let id ← textArgument args 0
      found { frame, selector := some (testIdSelector id) }
    | "route" =>
      let glob ← textArgument args 0
      let handler := argument args 1
      if handler.isCallable then
        return .callback handler [.handle (.route glob)] .undefined
      else Eval.typeError "route() requires a handler function"
    | "setInputFiles" =>
      let selector ← textArgument args 0
      upload { frame, selector := some selector } (argument args 1)
    | "waitForTimeout" => waitFor (← Eval.number (argument args 0))
    | "waitForResponse" =>
      match argument args 0 with
      | .string url => return .value (.handle (.response (← lookup url)))
      | _ => return .value .undefined
    | "url" => return .value (.string ((← Eval.browser (·.url)).getD "about:blank"))
    | "title" => return .value (.string "Automation Lab Playground")
    | "isVisible" => return .value (.bool true)
    | _ => fallback (.page frame) method args
where
  byLabel (label : String) : Eval Reply := found { frame, label := some label }

/-- Sets up an interception and announces it. -/
def register (i : Interception) : Eval Unit := do
  Eval.modifyBrowser fun b => { b with interceptions := b.interceptions ++ [i] }
  Eval.emit { kind := .routeIntercept, value := some i.glob, interception := some i }

/-- The body that a value makes. -/
def bodyOf (v : Option Value) : Eval Json := do
  match v with
  | some v => return (← Eval.json v).decoded
  | none => return .null

/-- A method of a route. -/
def routeMethod (glob method : String) (args : List Value) : Eval Reply := do
  match method with
  | "fulfill" =>
    let spec := argument args 0
    let status ← statusOption spec "status"
    let body ← bodyOf ((← Eval.option? spec "body") <|> (← Eval.option? spec "json"))
    register { glob, method := none, response := ⟨status, body⟩ }
    return .value .undefined
  | "continue" => return .value .undefined
  | "abort" => return .value .undefined
  | "fallback" => return .value .undefined
  | "request" => return .value (← Eval.newObject [("url", .string glob)])
  | _ => fallback (.route glob) method args

/-- The accessibility tree. -/
def accessibilityTree : Json :=
  .obj [
    ("children", .arr [
      .obj [("name", .str "Order Quantity"), ("role", .str "text")],
      .obj [("name", .str "Order Quantity"), ("role", .str "spinbutton"), ("value", .str "1")],
      .obj [("disabled", .bool false), ("name", .str "Submit Order"), ("role", .str "button")]]),
    ("name", .str "Semantic UI Preview"),
    ("role", .str "WebArea")]

/-- A method of the accessibility tree. -/
def accessibilityMethod (method : String) : Eval Reply := do
  match method with
  | "snapshot" =>
    Eval.emit { kind := .accessibilitySnapshot }
    return .value (← Eval.ofJson accessibilityTree)
  | _ => fallback .accessibility method []

/-- The words that only make an expectation read like a sentence. -/
def chainWords : List String :=
  ["not", "to", "be", "been", "is", "that", "which", "and", "has", "have", "with", "at", "of",
    "same", "but", "does", "deep", "nested", "own", "ordered", "any", "all", "itself", "exist",
    "ok", "true", "false", "null", "undefined", "NaN", "empty", "resolves", "rejects", "visible"]

/-- The event of an expectation about an element. -/
def expectationEvent? (l : Locator) (method text : String) : Option Event :=
  match method with
  | "toBeVisible" => some (locatorEvent l .assertVisible)
  | "toHaveValue" => some { locatorEvent l .assertValue with value := some text }
  | "toContainText" => some { locatorEvent l .assertText with value := some text }
  | "toHaveText" => some { locatorEvent l .assertText with value := some text }
  | _ => none

/-- A method of an expectation: it always holds, and of elements it is announced. -/
def expectMethod (subject : Value) (method : String) (args : List Value) : Eval Reply := do
  match subject with
  | .handle (.locator l) =>
    let text ← textArgument args 0
    match expectationEvent? l method text with
    | some e => Eval.emit e
    | none => pure ()
  | _ => pure ()
  return .value (.handle (.expectation subject))

end BrowserLab.Surface
