import BrowserLab.Json.Basic
import BrowserLab.Text.Search

/-!
# Events

What a test does to the page is announced as events: a click on a selector, text put into a field,
a request with its answer.  An event carries all that a listener may want to know about it.
-/

namespace BrowserLab

/-- The frames from the outermost one to the one that holds the element, by their selectors. -/
structure FramePath where
  segments : List String
  deriving DecidableEq, Repr, Inhabited

namespace FramePath

/-- The page itself. -/
def root : FramePath := ⟨[]⟩

/-- A frame within this one. -/
def child (p : FramePath) (selector : String) : FramePath := ⟨p.segments ++ [selector]⟩

def isRoot (p : FramePath) : Bool := p.segments.isEmpty

def depth (p : FramePath) : Nat := p.segments.length

/-- The selector of the frame itself. -/
def innermost? (p : FramePath) : Option String := p.segments.getLast?

/-- Does a selector on the path contain the text? -/
def mentions (p : FramePath) (text : String) : Bool := p.segments.any (Text.contains · text)

def text (p : FramePath) : String := " > ".intercalate p.segments

end FramePath

/-- What the backend answers. -/
structure Response where
  status : Nat
  body : Json
  deriving Inhabited

/-- Is the answer not an error? -/
def Response.ok (r : Response) : Bool := r.status < 400

/-- An answer that is given in place of the backend's to requests that fit. -/
structure Interception where
  glob : String
  method : Option String
  response : Response
  deriving Inhabited

/-- A request and its answer. -/
structure Exchange where
  method : String
  url : String
  payload : Option Json
  status : Nat
  response : Json
  deriving Inhabited

/-- The method, which is read off the payload if it is blank. -/
def Exchange.effectiveMethod (x : Exchange) : String :=
  if x.method.isEmpty then (if x.payload.isSome then "POST" else "GET") else x.method

/-- Kinds of events. -/
inductive Event.Kind where
  | navigate
  | click
  | fill
  | select
  | upload
  | drag
  | routeIntercept
  | apiCall
  | assertVisible
  | assertValue
  | assertText
  | accessibilitySnapshot
  deriving DecidableEq, Repr, Inhabited

namespace Event.Kind

def all : List Event.Kind :=
  [.navigate, .click, .fill, .select, .upload, .drag, .routeIntercept, .apiCall, .assertVisible,
    .assertValue, .assertText, .accessibilitySnapshot]

/-- The name in documents. -/
def name : Event.Kind → String
  | .navigate => "navigate"
  | .click => "click"
  | .fill => "fill"
  | .select => "select"
  | .upload => "upload"
  | .drag => "drag"
  | .routeIntercept => "route-intercept"
  | .apiCall => "api-call"
  | .assertVisible => "assert-visible"
  | .assertValue => "assert-value"
  | .assertText => "assert-text"
  | .accessibilitySnapshot => "accessibility-snapshot"

/-- The label in a list of steps. -/
def label : Event.Kind → String
  | .navigate => "NAVIGATE"
  | .click => "CLICK"
  | .fill => "FILL"
  | .select => "SELECT"
  | .upload => "UPLOAD"
  | .drag => "DRAG"
  | .routeIntercept => "ROUTE"
  | .apiCall => "API_CALL"
  | .assertVisible => "EXPECT_VISIBLE"
  | .assertValue => "EXPECT_VALUE"
  | .assertText => "EXPECT_TEXT"
  | .accessibilitySnapshot => "A11Y_SNAPSHOT"

def isAssertion : Event.Kind → Bool
  | .assertVisible => true
  | .assertValue => true
  | .assertText => true
  | _ => false

def isNetwork : Event.Kind → Bool
  | .apiCall => true
  | .routeIntercept => true
  | _ => false

/-- The kinds by name. -/
def byName : List (String × Event.Kind) := all.map fun k => (k.name, k)

end Event.Kind

/-- One thing that a test did. -/
structure Event where
  kind : Event.Kind
  selector : Option String := none
  label : Option String := none
  value : Option String := none
  frame : FramePath := .root
  network : Option Exchange := none
  interception : Option Interception := none
  deriving Inhabited

namespace Event

/-- Is the element called `name`, by its label or by the text that was clicked? -/
def names (e : Event) (name : String) : Bool :=
  e.label = some name || (e.kind = .click && e.value = some name)

def selectorIs (e : Event) (selector : String) : Bool := e.selector = some selector

def selectorMentions (e : Event) (text : String) : Bool :=
  match e.selector with
  | some s => Text.contains s text
  | none => false

/-- The address of the request. -/
def endpoint? (e : Event) : Option String := e.network.map Exchange.url

end Event

end BrowserLab
