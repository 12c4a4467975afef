import BrowserLab.Json.Reader
import BrowserLab.Script.Reply
import BrowserLab.Text.Quoted

/-!
# Globals

The functions and objects that every script finds, and those that declare tests in each style.
-/

namespace BrowserLab.Script

/-- The last callable one of the values. -/
def lastCallable? (vs : List Value) : Option Value := vs.reverse.find? Value.isCallable

/-- The number `π`. -/
def pi : Float := 3.141592653589793

/-- Registers a test. -/
def registerTest (args : List Value) : Eval Reply := do
  match lastCallable? (args.drop 1) with
  | some callback =>
    modify fun m => { m with tests := callback :: m.tests }
    return .value .undefined
  | none =>
    let name ← Eval.display (argument args 0)
    Eval.typeError ("test('" ++ name ++ "') requires a callback function as its last argument")

/-- Calls the body of a group of tests. -/
def openGroup (args : List Value) : Eval Reply := do
  match lastCallable? args with
  | some body => return .callback body [] .undefined
  | none =>
    let name ← Eval.display (argument args 0)
    Eval.typeError ("describe('" ++ name ++ "') requires a callback function")

/-- Registers what is called before each test. -/
def registerHook (args : List Value) : Eval Reply := do
  match lastCallable? args with
  | some hook =>
    modify fun m => { m with hooks := m.hooks ++ [hook] }
    return .value .undefined
  | none => Eval.typeError "beforeEach() requires a callback function"

/-- What stands before a line of the console. -/
def LogLevel.mark : LogLevel → String
  | .log => ""
  | .info => ""
  | .warn => "[warn] "
  | .error => "[error] "

/-- Writes a line to the console. -/
def writeLine (level : LogLevel) (args : List Value) : Eval Value := do
  let h ← Eval.heap id
  let line := level.mark ++ " ".intercalate (args.map fun v => h.inspect id v)
  modify fun m => { m with console := line :: m.console }
  return .undefined

/-- The JSON text of a value, indented if a third argument is positive. -/
def stringify (args : List Value) : Eval Value := do
  let v := argument args 0
  match v with
  | .undefined => return .undefined
  | _ =>
    if v.isCallable then return .undefined
    else
      let j ← Eval.json v
      let indent ← Eval.number (argument args 2)
      return .string (if indent > 0.0 then j.pretty else j.compact)

/-- The value that a JSON text stands for. -/
def parseJson (args : List Value) : Eval Value := do
  let text ← Eval.display (argument args 0)
  match Json.read text with
  | .ok j => Eval.ofJson j
  | .error fault => Eval.syntaxError ("Unexpected token in JSON: " ++ fault.message)

/-- A function of numbers. -/
def mathFunction (f : MathFunction) (args : List Value) : Eval Value := do
  let x ← Eval.number (argument args 0)
  match f with
  | .floor => return .number (Number.floor x)
  | .ceil => return .number (Number.ceil x)
  | .round => return .number (Number.floor (x + 0.5))
  | .abs => return .number x.abs
  | .max =>
    let xs ← Eval.heap fun h => args.map h.number
    return .number (xs.foldl Number.greater (-Number.infinity))
  | .min =>
    let xs ← Eval.heap fun h => args.map h.number
    return .number (xs.foldl Number.lesser Number.infinity)
  | .random =>
    let x ← modifyGet fun m =>
      let (x, draws) := m.browser.draws.unit
      (x, { m with browser := { m.browser with draws := draws } })
    return .number x

/-- The members of an object, or the items of an array by position. -/
def entries (h : Heap) (v : Value) : List (String × Value) :=
  match v with
  | .object ref => h.object ref
  | .array ref => (h.array ref).toList.zipIdx.map fun (w, i) => (toString i, w)
  | _ => []

/-- An array of an array for each entry. -/
def entryPairs : List (String × Value) → Eval (List Value)
  | [] => return []
  | (k, v) :: rest => do
    let pair ← Eval.newArray #[.string k, v]
    let pairs ← entryPairs rest
    return pair :: pairs

/-- What a function that is there from the beginning does. -/
def callBuiltin (b : Builtin) (args : List Value) : Eval Reply := do
  let first := argument args 0
  match b with
  | .test => registerTest args
  | .describe => openGroup args
  | .beforeEach => registerHook args
  | .skip => return .value .undefined
  | .defineConfig => return .value first
  | .expect => return .value (.handle (.expectation first))
  | .console level => return .value (← writeLine level args)
  | .jsonStringify => return .value (← stringify args)
  | .jsonParse => return .value (← parseJson args)
  | .bufferFrom => return .value (.string (← Eval.display first))
  | .math f => return .value (← mathFunction f args)
  | .errorMaker name =>
    let message ←
      match first with
      | .undefined => pure ""
      | v => Eval.display v
    let e ← Eval.newObject [("name", .string name), ("message", .string message)]
    return .value e
  | .objectKeys =>
    let es ← Eval.heap fun h => entries h first
    return .value (← Eval.newArray (es.map fun (k, _) => Value.string k).toArray)
  | .objectValues =>
    let es ← Eval.heap fun h => entries h first
    return .value (← Eval.newArray (es.map Prod.snd).toArray)
  | .objectEntries =>
    let es ← Eval.heap fun h => entries h first
    let pairs ← entryPairs es
    return .value (← Eval.newArray pairs.toArray)
  | .isArray =>
    match first with
    | .array _ => return .value (.bool true)
    | _ => return .value (.bool false)
  | .stringOf =>
    if args.isEmpty then return .value (.string "")
    else return .value (.string (← Eval.display first))
  | .numberOf =>
    if args.isEmpty then return .value (.number 0.0)
    else return .value (.number (← Eval.number first))
  | .booleanOf => return .value (.bool first.truthy)
  | .promiseAll =>
    match first with
    | .array ref =>
      let items ← Eval.heap (·.array ref)
      return .value (← Eval.newArray items)
    | v => Eval.typeError (v.typeName ++ " is not iterable")
  | .promiseResolve => return .value first

/-- The objects whose members are functions that are there from the beginning. -/
def globalObjects : List (String × List (String × Value)) :=
  [("console",
      [("log", .builtin (.console .log)), ("info", .builtin (.console .info)),
        ("debug", .builtin (.console .log)), ("warn", .builtin (.console .warn)),
        ("error", .builtin (.console .error))]),
    ("JSON", [("stringify", .builtin .jsonStringify), ("parse", .builtin .jsonParse)]),
    ("Math",
      [("floor", .builtin (.math .floor)), ("ceil", .builtin (.math .ceil)),
        ("round", .builtin (.math .round)), ("abs", .builtin (.math .abs)),
        ("max", .builtin (.math .max)), ("min", .builtin (.math .min)),
        ("random", .builtin (.math .random)), ("PI", .number pi)]),
    ("Object",
      [("keys", .builtin .objectKeys), ("values", .builtin .objectValues),
        ("entries", .builtin .objectEntries)]),
    ("Array", [("isArray", .builtin .isArray)]),
    ("Buffer", [("from", .builtin .bufferFrom)]),
    ("Promise", [("all", .builtin .promiseAll), ("resolve", .builtin .promiseResolve)])]

/-- The globals that are functions or numbers. -/
def globalValues : List (String × Value) :=
  [("Error", .builtin (.errorMaker "Error")),
    ("TypeError", .builtin (.errorMaker "TypeError")),
    ("RangeError", .builtin (.errorMaker "RangeError")),
    ("String", .builtin .stringOf),
    ("Number", .builtin .numberOf),
    ("Boolean", .builtin .booleanOf),
    ("NaN", .number Number.nan),
    ("Infinity", .number Number.infinity),
    ("expect", .builtin .expect),
    ("defineConfig", .builtin .defineConfig)]

/-- What declares tests, and what drives the browser, in each style. -/
def styleValues : Style → List (String × Value)
  | .playwright =>
    [("test", .builtin .test), ("page", .handle (.page .root)), ("request", .handle .request)]
  | .cypress =>
    [("it", .builtin .test), ("specify", .builtin .test), ("describe", .builtin .describe),
      ("context", .builtin .describe), ("beforeEach", .builtin .beforeEach),
      ("cy", .handle .cy), ("Cypress", .handle .cypress)]

/-- Declares constants in a scope. -/
def declareAll (scope : Nat) (vs : List (String × Value)) (scopes : Scopes Value) : Scopes Value :=
  vs.foldl (fun scopes (name, v) => scopes.declare scope name v false) scopes

/-- The objects made in a heap. -/
def makeObjects (heap : Heap) :
    List (String × List (String × Value)) → List (String × Value) × Heap
  | [] => ([], heap)
  | (name, members) :: rest =>
    let (v, heap) := heap.newObject (Dict.ofPairs members)
    let (vs, heap) := makeObjects heap rest
    ((name, v) :: vs, heap)

/-- The scope of the globals. -/
def globalScope : Nat := 0

/-- A machine that has run nothing yet. -/
def Machine.start (browser : Browser) : Machine :=
  let (objects, heap) := makeObjects .empty globalObjects
  let (scope, scopes) := (Scopes.empty : Scopes Value).root
  { heap := heap
    scopes := declareAll scope (objects ++ globalValues ++ styleValues browser.style) scopes
    browser := browser }

end BrowserLab.Script
