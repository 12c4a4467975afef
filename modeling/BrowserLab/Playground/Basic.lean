import BrowserLab.Backend
import BrowserLab.Environment

/-!
# Playgrounds

A playground is the state of the page that an exercise is solved on.  It hears the events of a run
and answers to those that its page would answer to.
-/

namespace BrowserLab

/-- A line of the page's network panel. -/
structure NetworkEntry where
  method : String
  url : String
  payload : Option Json
  status : Nat
  body : Json

/-- The state of a page.  `mounted` is the time in milliseconds at which it was opened. -/
structure Playground where
  kind : Environment
  mounted : Nat
  username : Option String := none
  password : Option String := none
  signedIn : Bool := false
  feedbackSubmitted : Bool := false
  secretRevealed : Bool := false
  checkoutComplete : Bool := false
  frameClicked : Bool := false
  nestedFrameClicked : Bool := false
  selection : Option String := none
  uploadedFile : Option String := none
  selectedItem : Option Nat := none
  viewedUser : Option String := none
  snapshots : Nat := 0
  databaseReady : Bool := false
  profileName : Option String := none
  profileStatus : Option Nat := none
  mock : Option Interception := none
  apiResponse : Option Response := none
  networkLog : List NetworkEntry := []
  interceptions : List Interception := []

namespace Playground

/-- A page that has just been opened. -/
def new (kind : Environment) (now : Nat) : Playground := { kind, mounted := now }

/-- The page of the same kind, opened anew. -/
def reset (p : Playground) (now : Nat) : Playground := new p.kind now

/-- How long the page keeps its button back, in milliseconds. -/
def revealDelay : Nat := 2500

/-- Is the page's button there by now? -/
def buttonRevealed (p : Playground) (now : Nat) : Bool := revealDelay ≤ now - p.mounted

/-- Adds a request of the page's own to the network panel. -/
def logFetch (p : Playground) (url : String) (r : Response) : Playground :=
  { p with networkLog := p.networkLog ++ [⟨"GET", url, none, r.status, r.body⟩] }

/-- The page asks the backend for its data. -/
def fetchData (p : Playground) : Playground :=
  let r :=
    match Backend.covering? "GET" "/api/data" p.interceptions with
    | some i => i.answer
    | none => ⟨200, .obj [("data", .str "Success! Loaded real data.")]⟩
  { p.logFetch "/api/data" r with apiResponse := some r }

/-- The page asks the backend for the profile, which only an interception can answer. -/
def fetchProfile (p : Playground) : Playground :=
  let r :=
    match p.interceptions.reverse.find? fun i => Text.contains i.glob "v2/profile" with
    | some i => i.answer
    | none => ⟨404, .obj [("error", .str "Endpoint not found")]⟩
  let name := if r.status = 200 then (r.body.get? "name").bind Json.text? else none
  { p.logFetch "/api/v2/profile" r with profileStatus := some r.status, profileName := name }

/-- A click. -/
def click (p : Playground) (e : Event) : Playground :=
  let button := e.selectorIs "button"
  match p.kind with
  | .advancedSelectors =>
    if e.selectorMentions "nth-child(3)" || e.selectorMentions "nth=2" then
      { p with selectedItem := some 3 }
    else p
  | .tableData =>
    if e.names "View" || e.value = some "Charlie" then { p with viewedUser := some "Charlie" }
    else p
  | .apiMock => if e.names "Fetch Data" || button then p.fetchData else p
  | .feedbackForm =>
    if e.names "Submit Feedback" || button then { p with feedbackSubmitted := true } else p
  | .asyncLoading =>
    if e.names "Reveal Secret" || e.selectorIs "#reveal-btn" then { p with secretRevealed := true }
    else p
  | .checkout =>
    if e.names "Finalize Checkout" || button then { p with checkoutComplete := true } else p
  | .iframeTesting =>
    let inside := e.frame.innermost? = some "#my-iframe" || e.selectorMentions "my-iframe"
    if inside && (e.names "Click Me" || e.selectorMentions "button") then
      { p with frameClicked := true }
    else p
  | .nestedIframes =>
    if e.frame.mentions "inner-iframe" && (e.names "Submit Inner" || e.selectorMentions "button")
    then { p with nestedFrameClicked := true }
    else p
  | .login =>
    let submit := e.names "Sign In" || e.selectorIs "button[type=\"submit\"]" || button
    if submit && p.username.isSome && p.password.isSome then { p with signedIn := true } else p
  | _ => p

/-- Text put into a field. -/
def fill (p : Playground) (e : Event) : Playground :=
  if p.kind ≠ .login then p
  else
    let value := e.value.getD ""
    if e.names "Password" || e.selectorMentions "pass" then { p with password := some value }
    else if e.names "Username" || e.selectorMentions "user" || e.selectorMentions "email" then
      { p with username := some value }
    else p

/-- The method shown for a request, which is read off the payload if it is blank. -/
def methodOf (x : Exchange) : String :=
  match x.method.isEmpty, x.payload.isSome with
  | false, _ => x.method
  | true, true => "POST"
  | true, false => "GET"

/-- A request made by the test. -/
def request (p : Playground) (e : Event) : Playground :=
  match e.network with
  | none => p
  | some x =>
    let ready := p.databaseReady ||
      (p.kind = .databaseStatus && Text.contains x.url "/api/database/reset")
    { p with
      databaseReady := ready
      networkLog :=
        p.networkLog ++ [⟨methodOf x, x.url, x.payload, x.status, x.response⟩] }

/-- An interception set up by the test. -/
def intercept (p : Playground) (e : Event) : Playground :=
  match e.interception with
  | none => p
  | some i => { p with interceptions := p.interceptions ++ [i], mock := some i }

/-- What an event does to the page. -/
def hear (p : Playground) (e : Event) : Playground :=
  match e.kind with
  | .click => p.click e
  | .fill => p.fill e
  | .select => if p.kind = .dropdowns then { p with selection := e.value } else p
  | .upload => if p.kind = .fileUpload then { p with uploadedFile := e.value } else p
  | .routeIntercept => p.intercept e
  | .apiCall => p.request e
  | .navigate => if p.kind = .profileRepair then p.fetchProfile else p
  | .accessibilitySnapshot =>
    if p.kind = .accessibilityTree then { p with snapshots := p.snapshots + 1 } else p
  | _ => p

end Playground

end BrowserLab
