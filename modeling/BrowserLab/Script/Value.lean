import BrowserLab.Event.Basic
import BrowserLab.Script.Scope
import BrowserLab.Script.Syntax

/-!
# Values

What a script computes with.  Arrays, objects and functions are references into the heap; two of
them are the same if they are one place of the heap.  Handles are the objects through which a script
drives the browser.
-/

namespace BrowserLab.Script

/-- How important a line of the console is. -/
inductive LogLevel where
  | log
  | info
  | warn
  | error
  deriving DecidableEq, Repr, Inhabited

inductive MathFunction where
  | floor
  | ceil
  | round
  | abs
  | max
  | min
  | random
  deriving DecidableEq, Repr, Inhabited

/-- Functions that are there from the beginning. -/
inductive Builtin where
  | test
  | describe
  | beforeEach
  | skip
  | defineConfig
  | expect
  | console (level : LogLevel)
  | jsonStringify
  | jsonParse
  | bufferFrom
  | math (f : MathFunction)
  | errorMaker (name : String)
  | objectKeys
  | objectValues
  | objectEntries
  | isArray
  | stringOf
  | numberOf
  | booleanOf
  | promiseAll
  | promiseResolve
  deriving DecidableEq, Repr, Inhabited

/-- A query for an element: by selector, by accessible name or by visible text. -/
structure Locator where
  frame : FramePath := .root
  selector : Option String := none
  label : Option String := none
  text : Option String := none
  deriving DecidableEq, Repr, Inhabited

/-- The element that a chain of commands has come to. -/
structure Target where
  frame : FramePath := .root
  selector : Option String := none
  text : Option String := none
  deriving DecidableEq, Repr, Inhabited

mutual

inductive Value where
  | undefined
  | null
  | bool (b : Bool)
  | number (x : Float)
  | string (s : String)
  | array (ref : Nat)
  | object (ref : Nat)
  | closure (ref : Nat)
  | builtin (b : Builtin)
  /-- A method that was looked up on a value. -/
  | method (this : Value) (name : String)
  | handle (h : Handle)

inductive Handle where
  /-- The page, or a frame of it. -/
  | page (frame : FramePath)
  | locator (l : Locator)
  | route (glob : String)
  | request
  | response (r : Response)
  | accessibility
  | expectation (subject : Value)
  | cy
  /-- A chain: the element it has come to, and what it hands to callbacks. -/
  | chain (target : Target) (subject : Value)
  | element (t : Target)
  | alias
  | cypress
  | commands

end

instance : Inhabited Value := ⟨.undefined⟩
instance : Inhabited Handle := ⟨.request⟩

/-- A function and the scope it was made in. -/
structure Closure where
  function : Function
  scope : Nat
  deriving Inhabited

/-- What a handle is called. -/
def Handle.typeName : Handle → String
  | .page frame => if frame.isRoot then "page" else "frame"
  | .locator _ => "locator"
  | .route _ => "route"
  | .request => "request"
  | .response _ => "response"
  | .accessibility => "accessibility"
  | .expectation _ => "expect"
  | .cy => "cy"
  | .chain _ _ => "chainable"
  | .element _ => "element"
  | .alias => "alias"
  | .cypress => "Cypress"
  | .commands => "Cypress.Commands"

namespace Value

def isNullish : Value → Bool
  | .undefined => true
  | .null => true
  | _ => false

def isCallable : Value → Bool
  | .closure _ => true
  | .builtin _ => true
  | .method _ _ => true
  | _ => false

/-- Does the value count as true? -/
def truthy : Value → Bool
  | .undefined => false
  | .null => false
  | .bool b => b
  | .number x => x != 0.0 && !x.isNaN
  | .string s => !s.isEmpty
  | _ => true

def typeName : Value → String
  | .undefined => "undefined"
  | .bool _ => "boolean"
  | .number _ => "number"
  | .string _ => "string"
  | .closure _ => "function"
  | .builtin _ => "function"
  | .method _ _ => "function"
  | _ => "object"

/-- Are the values the same?  A method or a handle is the same as no value. -/
def strictEquals : Value → Value → Bool
  | .undefined, .undefined => true
  | .null, .null => true
  | .bool a, .bool b => a == b
  | .number a, .number b => a == b
  | .string a, .string b => a == b
  | .array a, .array b => a == b
  | .object a, .object b => a == b
  | .closure a, .closure b => a == b
  | .builtin a, .builtin b => a == b
  | _, _ => false

/-- Are the values the same, not-a-number being the same as itself? -/
def sameValue (a b : Value) : Bool :=
  match a, b with
  | .number x, .number y => (x.isNaN && y.isNaN) || x == y
  | _, _ => strictEquals a b

end Value

end BrowserLab.Script
