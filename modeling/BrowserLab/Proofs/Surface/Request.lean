import BrowserLab.Proofs.Backend
import BrowserLab.Proofs.Surface.Atomic

/-!
# What requests of a script are answered

A request is put together from the arguments of a call, which leaves the machine as it is, and is
then answered, by the interception that covers it if there is one.

* `Looks` says that a computation only looks at the heap.
* `Heap.request?`: the request that a call makes.
* `runOn_exchange`: what is answered and announced.
* `exists_runOn_invoke`: a call that makes a request makes this one.
-/

namespace BrowserLab.Script

variable {α β : Type} {m : Machine} {out : Surface.Outgoing} {i : Interception}

/-! ### Computations that only look at the heap -/

/-- The computation comes to a value that is read off the heap, and leaves the machine as it is. -/
def Looks (x : Eval α) : Prop := ∃ f : Heap → α, ∀ m, x.runOn m = (.ok (f m.heap), m)

namespace Looks

theorem pure (a : α) : Looks (pure a : Eval α) := ⟨fun _ => a, fun _ => rfl⟩

theorem heap (f : Heap → α) : Looks (Eval.heap f) := ⟨f, fun _ => rfl⟩

theorem bind {x : Eval α} {f : α → Eval β} (hx : Looks x) (hf : ∀ a, Looks (f a)) :
    Looks (x >>= f) := by
  obtain ⟨g, hg⟩ := hx
  choose k hk using hf
  refine ⟨fun h => k (g h) h, fun m => ?_⟩
  rw [Eval.runOn_bind_ok (hg m), hk]

end Looks

/-! ### Arguments -/

/-- The text of an argument; a missing or undefined one is empty. -/
def Heap.argumentText (h : Heap) (args : List Value) (i : Nat) : String :=
  match argument args i with
  | .undefined => ""
  | v => h.display v

theorem runOn_textArgument (args : List Value) (i : Nat) (m : Machine) :
    (Surface.textArgument args i).runOn m = (.ok (m.heap.argumentText args i), m) := by
  unfold Surface.textArgument Heap.argumentText
  cases argument args i <;> rfl

theorem runOn_option? (v : Value) (key : String) (m : Machine) :
    (Eval.option? v key).runOn m = (.ok (m.heap.option? v key), m) := rfl

theorem runOn_textOption? (v : Value) (key : String) (m : Machine) :
    (Surface.textOption? v key).runOn m =
      (.ok ((m.heap.option? v key).map m.heap.display), m) := by
  rw [Surface.textOption?, Eval.runOn_bind_ok (runOn_option? v key m)]
  cases m.heap.option? v key <;> rfl

/-- The payload that a value makes: none if there is no value, or only a nullish one. -/
def Heap.payload (h : Heap) (v : Option Value) : Option Json :=
  v.bind fun v => if v.isNullish then none else some (h.json v)

theorem runOn_payloadOf (v : Option Value) (m : Machine) :
    (Surface.payloadOf v).runOn m = (.ok (m.heap.payload v), m) := by
  unfold Surface.payloadOf Heap.payload
  cases v with
  | none => rfl
  | some v =>
    dsimp only [Option.bind_some]
    split <;> rfl

/-- The headers that a value makes. -/
def Heap.headers (h : Heap) (v : Option Value) : Dict Json :=
  match v.map h.json with
  | some (.obj members) => members
  | _ => []

theorem runOn_headersOf (v : Option Value) (m : Machine) :
    (Surface.headersOf v).runOn m = (.ok (m.heap.headers v), m) := by
  unfold Surface.headersOf Heap.headers
  cases v with
  | none => rfl
  | some v =>
    refine (Eval.runOn_bind_ok (a := m.heap.json v) rfl).trans ?_
    rw [Option.map_some]
    cases m.heap.json v <;> rfl

/-! ### Requests -/

/-- The method of the request that a method of the object for requests makes. -/
def Heap.verb (h : Heap) (method : String) (args : List Value) : String :=
  Text.asciiUpper
    (if method = "fetch" then ((h.option? (argument args 1) "method").map h.display).getD "GET"
    else method)

/-- The request that a method of the object for requests makes. -/
def Heap.methodRequest (h : Heap) (method : String) (args : List Value) : Surface.Outgoing where
  method := h.verb method args
  url := h.argumentText args 0
  payload := h.payload (h.option? (argument args 1) "data")
  headers := h.headers (h.option? (argument args 1) "headers")

/-- The request that a command makes: it is told by options, by a method and an address, or by an
address and a payload. -/
def Heap.commandRequest (h : Heap) (args : List Value) : Surface.Outgoing :=
  match argument args 0, argument args 1 with
  | .object ref, _ =>
    { method := Text.asciiUpper (((h.option? (.object ref) "method").map h.display).getD "GET")
      url := ((h.option? (.object ref) "url").map h.display).getD ""
      payload := h.payload (h.option? (.object ref) "body" <|> h.option? (.object ref) "data")
      headers := h.headers (h.option? (.object ref) "headers") }
  | .string method, .string url =>
    { method := Text.asciiUpper method, url, payload := h.payload (some (argument args 2)) }
  | address, .undefined => { method := "GET", url := h.display address }
  | address, body =>
    { method := "POST", url := h.display address, payload := h.payload (some body) }

/-- The request that a call makes, if it makes one. -/
def Heap.request? (h : Heap) (handle : Handle) (method : String) (args : List Value) :
    Option Surface.Outgoing :=
  match handle with
  | .request =>
    if method = "fetch" ∨ method ∈ Surface.verbs then some (h.methodRequest method args) else none
  | .cy => if method = "request" then some (h.commandRequest args) else none
  | _ => none

theorem Heap.isSome_request?_iff {h : Heap} {handle : Handle} {method : String}
    {args : List Value} : (h.request? handle method args).isSome ↔ handle.Requests method := by
  cases handle <;> simp [request?, Handle.Requests]

theorem Heap.commandRequest_of_undefined {h : Heap} {args : List Value}
    (hobject : ∀ ref, argument args 0 ≠ .object ref) (hbody : argument args 1 = .undefined) :
    h.commandRequest args = { method := "GET", url := h.display (argument args 0) } := by
  unfold commandRequest
  split
  · next haddress => exact absurd haddress (hobject _)
  · next hurl =>
    rw [hbody] at hurl
    cases hurl
  · rfl
  · next hundefined _ => exact absurd hbody hundefined

theorem Heap.commandRequest_of_body {h : Heap} {args : List Value}
    (hobject : ∀ ref, argument args 0 ≠ .object ref)
    (htexts : ∀ method url, argument args 0 = .string method → argument args 1 ≠ .string url)
    (hundefined : argument args 1 ≠ .undefined) :
    h.commandRequest args =
      { method := "POST", url := h.display (argument args 0)
        payload := h.payload (some (argument args 1)) } := by
  unfold commandRequest
  split
  · next haddress => exact absurd haddress (hobject _)
  · next haddress hurl => exact absurd hurl (htexts _ _ haddress)
  · next hbody _ => exact absurd hbody hundefined
  · rfl

/-- A command only looks at its arguments to find out what it requests. -/
theorem runOn_commandRequest (args : List Value) (m : Machine) :
    (Surface.commandRequest args).runOn m = (.ok (m.heap.commandRequest args), m) := by
  have hdisplay : (Eval.display (argument args 0)).runOn m =
      (.ok (m.heap.display (argument args 0)), m) := rfl
  unfold Surface.commandRequest
  split
  · next haddress =>
    rw [Eval.runOn_bind_ok (runOn_textOption? _ _ m), Eval.runOn_bind_ok (runOn_option? _ _ m),
      Eval.runOn_bind_ok (runOn_option? _ _ m), Eval.runOn_bind_ok (runOn_textOption? _ _ m),
      Eval.runOn_bind_ok (runOn_payloadOf _ m), Eval.runOn_bind_ok (runOn_option? _ _ m),
      Eval.runOn_bind_ok (runOn_headersOf _ m), Heap.commandRequest, haddress]
    rfl
  · next haddress hurl =>
    rw [Eval.runOn_bind_ok (runOn_payloadOf _ m), Heap.commandRequest, haddress, hurl]
    rfl
  · next hbody hobject =>
    rw [Heap.commandRequest_of_undefined hobject hbody, Eval.runOn_bind_ok hdisplay]
    rfl
  · next hobject hundefined htexts =>
    rw [Heap.commandRequest_of_body hobject htexts hundefined, Eval.runOn_bind_ok hdisplay,
      Eval.runOn_bind_ok (runOn_payloadOf _ m)]
    rfl

/-! ### Answers -/

theorem runOn_answer (out : Surface.Outgoing) (m : Machine) :
    (Surface.answer out).runOn m = (.ok (m.browser.respond out).1,
      { m with browser := { m.browser with draws := (m.browser.respond out).2 } }) := rfl

/-- A request is announced together with its answer. -/
theorem runOn_exchange (out : Surface.Outgoing) (m : Machine) :
    (Surface.exchange out).runOn m =
      (.ok (m.browser.respond out).1, { m with browser := m.browser.exchange out }) := rfl

/-- A request that an interception covers is answered by it, and no numbers are drawn. -/
theorem Browser.respond_of_covering {b : Browser}
    (h : Backend.covering? out.method out.url b.interceptions = some i) :
    b.respond out = (i.answer, b.draws) :=
  Backend.respond_of_covering h _ _ _

theorem runOn_lookup {url : String}
    (h : Backend.covering? "GET" url m.browser.interceptions = some i) :
    (Surface.lookup url).runOn m = (.ok i.answer, m) := by
  rw [Surface.lookup, runOn_answer, Browser.respond_of_covering h]

/-- A method of the object for requests makes the request that its arguments tell. -/
theorem runOn_requestMethod {method : String}
    (hmethod : method = "fetch" ∨ method ∈ Surface.verbs) (args : List Value) (m : Machine) :
    (Surface.requestMethod method args).runOn m =
      (.ok (.value (.handle (.response (m.browser.respond (m.heap.methodRequest method args)).1))),
        { m with browser := m.browser.exchange (m.heap.methodRequest method args) }) := by
  have hsend (verb : String) : (do
      let url ← Surface.textArgument args 0
      let payload ← Surface.payloadOf (← Eval.option? (argument args 1) "data")
      let headers ← Surface.headersOf (← Eval.option? (argument args 1) "headers")
      let r ← Surface.exchange { method := Text.asciiUpper verb, url, payload, headers }
      return Reply.value (.handle (.response r)) : Eval Reply).runOn m = (do
      let r ← Surface.exchange { m.heap.methodRequest method args with
        method := Text.asciiUpper verb }
      return Reply.value (.handle (.response r)) : Eval Reply).runOn m := by
    rw [Eval.runOn_bind_ok (runOn_textArgument args 0 m), Eval.runOn_bind_ok (runOn_option? _ _ m),
      Eval.runOn_bind_ok (runOn_payloadOf _ m), Eval.runOn_bind_ok (runOn_option? _ _ m),
      Eval.runOn_bind_ok (runOn_headersOf _ m)]
    rfl
  have hknown : (!Surface.verbs.contains method && method != "fetch") = false := by
    rcases hmethod with rfl | hverb
    · rfl
    · rw [List.contains_iff_mem.mpr hverb]
      rfl
  unfold Surface.requestMethod
  rw [hknown]
  by_cases hfetch : method = "fetch"
  · obtain rfl := hfetch
    exact (Eval.runOn_bind_ok (runOn_textOption? _ _ m)).trans (hsend _)
  · have hverb : m.heap.verb method args = Text.asciiUpper method := by
      rw [Heap.verb, if_neg hfetch]
    dsimp only
    rw [if_neg Bool.false_ne_true, if_neg (by simpa using hfetch),
      Eval.runOn_bind_ok (Eval.runOn_pure method m), hsend, Heap.methodRequest, hverb]
    rfl

/-- A requesting command makes the request that its arguments tell. -/
theorem exists_runOn_requestCommand (args : List Value) (m : Machine) :
    ∃ v heap, (Surface.requestCommand args).runOn m =
      (.ok v, { m with heap, browser := m.browser.exchange (m.heap.commandRequest args) }) := by
  rw [Surface.requestCommand, Eval.runOn_bind_ok (runOn_commandRequest args m),
    Eval.runOn_bind_ok (runOn_exchange _ m)]
  exact ⟨_, _, rfl⟩

/-! ### Calls -/

/-- The machine when a call has been noted. -/
def Machine.noted (m : Machine) (h : Handle) (method : String) : Machine :=
  { m with browser := { m.browser with calls := (h, method) :: m.browser.calls } }

theorem runOn_invoke (h : Handle) (method : String) (args : List Value) (m : Machine) :
    (Surface.invoke h method args).runOn m =
      (Surface.answerCall h method args).runOn (m.noted h method) := rfl

/-- A call that makes a request comes to a value, and does nothing else to the browser. -/
theorem exists_runOn_invoke {h : Handle} {method : String} {args : List Value}
    (hout : m.heap.request? h method args = some out) :
    ∃ v heap, (Surface.invoke h method args).runOn m =
      (.ok (.value v), { m with heap, browser := (m.noted h method).browser.exchange out }) := by
  unfold Heap.request? at hout
  split at hout
  · split at hout
    · next hmethod =>
      obtain rfl := Option.some.inj hout
      exact ⟨_, _, runOn_requestMethod hmethod args (m.noted .request method)⟩
    · cases hout
  · split at hout
    · next hmethod =>
      obtain rfl := hmethod
      obtain rfl := Option.some.inj hout
      obtain ⟨v, heap, hrun⟩ := exists_runOn_requestCommand args (m.noted .cy "request")
      exact ⟨v, heap, Eval.runOn_bind_ok hrun⟩
    · cases hout
  · cases hout

end BrowserLab.Script
