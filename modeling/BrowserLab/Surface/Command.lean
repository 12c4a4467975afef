import BrowserLab.Surface.Page

/-!
# Commands

Chains of commands: each one acts on the element that the chain has come to, or moves on to another
element, and returns a chain.  A chain hands its subject to callbacks.
-/

namespace BrowserLab.Surface

open Script

/-- The event of doing something to the element. -/
def targetEvent (t : Target) (kind : Event.Kind) : Event where
  kind := kind
  selector := t.selector
  frame := t.frame

/-- The event of a click, which carries the text that the element was found by. -/
def clickEvent (t : Target) : Event := { targetEvent t .click with value := t.text }

/-- The selector of the element with its text in it. -/
def qualified (t : Target) : Option String :=
  match t.selector, t.text with
  | some s, some text => some (s ++ ":contains(\"" ++ text ++ "\")")
  | none, some text => some (":contains(\"" ++ text ++ "\")")
  | s, none => s

/-- The document in the frame that the element is. -/
def enterFrame (t : Target) : Target :=
  match t.selector with
  | some s => { frame := t.frame.child s }
  | none => { frame := t.frame }

/-- An element found within another by a selector. -/
def descendant (t : Target) (selector : String) : Target :=
  { frame := t.frame, selector := some (within (qualified t) selector " ") }

/-- One of the elements found. -/
def nthTarget (t : Target) (index : String) : Target :=
  { frame := t.frame, selector := some ((qualified t).getD "*" ++ " >> nth=" ++ index) }

/-- A chain that has come to an element and hands it on. -/
def elementChain (t : Target) : Value := .handle (.chain t (.handle (.element t)))

/-- A chain that has come to no element and hands on a value. -/
def valueChain (v : Value) : Value := .handle (.chain {} v)

/-- The element found by a text, or by a selector and a text, within another. -/
def containsTarget (base : Target) (args : List Value) : Eval Target := do
  let (selector, text) ←
    match args with
    | selector :: text :: _ =>
      match text with
      | .object _ => pure (none, ← textArgument args 0)
      | .undefined => pure (none, ← textArgument args 0)
      | .null => pure (none, ← textArgument args 0)
      | text => pure (some (← Eval.display selector), ← Eval.display text)
    | _ => pure (none, ← textArgument args 0)
  let selector :=
    match qualified base, selector with
    | some outer, some inner => some (within (some outer) inner " ")
    | outer, inner => inner <|> outer
  return { frame := base.frame, selector, text := some text }

/-- The methods that an interception can be limited to. -/
def httpMethods : List String := ["GET", "POST", "PUT", "PATCH", "DELETE", "HEAD", "OPTIONS"]

/-- The members that describe an answer, as opposed to being its body. -/
def responseKeys : List String :=
  ["statusCode", "body", "headers", "fixture", "delay", "forceNetworkError"]

/-- The answer that a value describes.  Nothing, and a function, describe none. -/
def staticResponse? (v : Value) : Eval (Option Response) := do
  match v with
  | .undefined => return none
  | .null => return none
  | .object ref =>
    let members ← Eval.heap (·.object ref)
    if members.any fun (k, _) => responseKeys.contains k then
      let status ← statusOption v "statusCode"
      let body ← bodyOf (← Eval.option? v "body")
      return some ⟨status, body⟩
    else return some ⟨200, ← bodyOf (some v)⟩
  | v => if v.isCallable then return none else return some ⟨200, ← bodyOf (some v)⟩

/-- What an interception command is for: a method, an address and the value of the answer. -/
def interceptShape (args : List Value) : Eval (Option String × String × Value) := do
  match argument args 0, argument args 1 with
  | .string method, .string glob =>
    if httpMethods.contains (Text.asciiUpper method) then
      return (some (Text.asciiUpper method), glob, argument args 2)
    else return (none, method, .string glob)
  | .object ref, response =>
    let method ← textOption? (.object ref) "method"
    let url ← textOption? (.object ref) "url"
    return (method.map Text.asciiUpper, url.getD "", response)
  | glob, response => return (none, ← Eval.display glob, response)

/-- Sets up an interception; without an answer requests are only watched, which does nothing. -/
def intercept (args : List Value) : Eval Reply := do
  let (method, glob, value) ← interceptShape args
  match ← staticResponse? value with
  | some response => register { glob, method, response }
  | none => pure ()
  return .value (.handle .alias)

/-- The commands that do nothing here. -/
def idleCommands : List String :=
  ["wait", "on", "log", "injectAxe", "checkA11y", "viewport", "reload", "screenshot", "fixture",
    "clearCookies", "clearLocalStorage", "go", "stub", "spy", "clock", "tick", "task", "exec"]

/-- A command that a script has added, or nothing but `then`. -/
def customCommand (method : String) (args : List Value) : Eval Reply := do
  let commands ← Eval.browser (·.commands)
  match commands.get? method with
  | some callee => return .callback callee args .cy
  | none => fallback .cy method args

/-- A command at the beginning of a chain. -/
def commandMethod (method : String) (args : List Value) : Eval Reply := do
  match method with
  | "visit" =>
    let url ← textArgument args 0
    Eval.modifyBrowser fun b => { b with url := some url }
    Eval.emit { kind := .navigate, value := some url }
    return .value (.handle .cy)
  | "request" => return .value (← requestCommand args)
  | "get" =>
    let selector ← textArgument args 0
    return .value (elementChain { selector := some selector })
  | "contains" => return .value (elementChain (← containsTarget {} args))
  | "intercept" => intercept args
  | "wrap" =>
    match argument args 0 with
    | .handle (.element t) => return .value (elementChain t)
    | .handle (.chain t s) => return .value (.handle (.chain t s))
    | v => return .value (valueChain v)
  | "window" => return .value (valueChain (← Eval.newObject []))
  | "document" => return .value (valueChain (← Eval.newObject []))
  | "url" => return .value (valueChain (.string ((← Eval.browser (·.url)).getD "")))
  | "location" => return .value (valueChain (.string ((← Eval.browser (·.url)).getD "")))
  | _ =>
    if idleCommands.contains method then return .value (.handle .cy)
    else customCommand method args

/-- A member of a value, by its name or its position. -/
def memberOf (h : Heap) (v : Value) (name : String) : Option Value :=
  match v with
  | .object _ => h.field? v name
  | .array ref =>
    if name == "length" then some (.number (Float.ofNat (h.array ref).size))
    else (Number.readIndex? name).bind fun i => (h.array ref)[i]?
  | .string s => if name == "length" then some (.number (Float.ofNat s.length)) else none
  | _ => none

/-- The member of a member and so on, along names with points between them. -/
def walkPath (h : Heap) (v : Value) (path : String) : Value :=
  let names := (Text.split ['.'] path.toList).filter fun name => !name.isEmpty
  ((names.foldlM fun v name => memberOf h v (String.ofList name)) v).getD .undefined

/-- The commands that click. -/
def clickCommands : List String := ["click", "dblclick", "rightclick", "check", "uncheck"]

/-- The commands behind which the chain is as it was. -/
def idleLinks : List String :=
  ["as", "parent", "parents", "closest", "children", "siblings", "next", "prev", "trigger",
    "clear", "scrollIntoView", "focus", "blur", "wait", "debug", "log"]

/-- Calls a function with the subject, if one is given; otherwise the chain is as it was. -/
def callWithSubject (t : Target) (subject : Value) (args : List Value) (settle : Settle) :
    Eval Reply :=
  let callee := argument args 0
  if callee.isCallable then return .callback callee [subject] settle
  else return .value (.handle (.chain t subject))

/-- A command behind another one. -/
def chainMethod (t : Target) (subject : Value) (method : String) (args : List Value) :
    Eval Reply := do
  let same := Reply.value (.handle (.chain t subject))
  if clickCommands.contains method then
    Eval.emit (clickEvent t)
    return same
  else if idleLinks.contains method then return same
  else
    match method with
    | "type" =>
      let text ← textArgument args 0
      Eval.emit { targetEvent t .fill with value := some text }
      return same
    | "select" =>
      let text ← textArgument args 0
      Eval.emit { targetEvent t .select with value := some text }
      return same
    | "selectFile" =>
      let name ← Eval.heap fun h => uploadName h (argument args 0) "fileName" "file"
      Eval.emit { targetEvent t .upload with value := some name }
      return same
    | "drag" =>
      let text ← textArgument args 0
      let goal := if (argument args 0).isNullish then none else some text
      Eval.emit { targetEvent t .drag with value := goal }
      return same
    | "should" => callWithSubject t subject args (.sameChain t subject)
    | "and" => callWithSubject t subject args (.sameChain t subject)
    | "within" => callWithSubject t subject args (.sameChain t subject)
    | "then" => callWithSubject t subject args (.nextChain t subject)
    | "spread" => callWithSubject t subject args (.nextChain t subject)
    | "its" =>
      let path ← textArgument args 0
      match subject with
      | .handle (.element e) =>
        if Text.contains path "contentDocument" then
          return .value (elementChain (enterFrame e))
        else return .value (.handle (.chain t (← Eval.heap fun h => walkPath h subject path)))
      | _ => return .value (.handle (.chain t (← Eval.heap fun h => walkPath h subject path)))
    | "invoke" =>
      let name ← textArgument args 0
      match subject with
      | .handle (.element e) =>
        if name == "text" then return .value (.handle (.chain t (.string (e.text.getD ""))))
        else return same
      | _ => return same
    | "find" => return .value (elementChain (descendant t (← textArgument args 0)))
    | "contains" => return .value (elementChain (← containsTarget t args))
    | "eq" => return .value (elementChain (nthTarget t (← textArgument args 0)))
    | "first" => return .value (elementChain (nthTarget t "0"))
    | "last" => return .value (elementChain (nthTarget t "-1"))
    | _ => fallback (.chain t subject) method args

/-- A method of an element that was handed to a callback. -/
def elementMethod (t : Target) (method : String) (args : List Value) : Eval Reply := do
  match method with
  | "contents" => return .value (.handle (.element (enterFrame t)))
  | "find" => return .value (.handle (.element (descendant t (← textArgument args 0))))
  | "text" => return .value (.string (t.text.getD ""))
  | "val" => return .value (.string "")
  | "attr" => return .value .undefined
  | "prop" => return .value .undefined
  | "is" => return .value (.bool true)
  | "click" =>
    Eval.emit (clickEvent t)
    return .value (.handle (.element t))
  | _ => fallback (.element t) method args

/-- Adds a command of the script's own. -/
def addCommand (method : String) (args : List Value) : Eval Reply := do
  let name ← textArgument args 0
  match (args.drop 1).find? Value.isCallable with
  | some body =>
    Eval.modifyBrowser fun b => { b with commands := b.commands.insert name body }
    return .value .undefined
  | none =>
    Eval.typeError
      ("Cypress.Commands." ++ method ++ "('" ++ name ++ "') requires a function")

/-- A method of the list of commands. -/
def commandsMethod (method : String) (args : List Value) : Eval Reply :=
  if method == "add" || method == "overwrite" then addCommand method args
  else fallback .commands method args

end BrowserLab.Surface
