import BrowserLab.Proofs.Session.Valid
import BrowserLab.Proofs.Surface.Request

/-!
# The shapes of a requesting command

A command is told what to request by an address, by an address and a payload, by a method and an
address, or by an object with these as its members.  What tells the shapes apart are the types of
the first two arguments.

* `requests_told_apart`: the request that each shape makes.
* `text_sent_as_address`: a payload that is text is taken for the address.
-/

namespace BrowserLab

namespace Script

/-- The command makes the request: it comes to a value, and all that it does to the browser is to
announce the request with its answer. -/
def Machine.Sends (m : Machine) (args : List Value) (out : Surface.Outgoing) : Prop :=
  ∃ v heap, (Surface.invoke .cy "request" args).runOn m =
    (.ok (.value v), { m with heap, browser := (m.noted .cy "request").browser.exchange out })

theorem Machine.sends_commandRequest (m : Machine) (args : List Value) :
    m.Sends args (m.heap.commandRequest args) :=
  exists_runOn_invoke rfl

/-- The object describes a request by its members: by text, a method if there is one and an address,
and by any value, a payload if there is one. -/
structure Heap.Describes (h : Heap) (ref : Nat) (method : Option String) (url : String)
    (body : Option Value) : Prop where
  method : h.option? (.object ref) "method" = method.map .string
  url : h.option? (.object ref) "url" = some (.string url)
  body : (h.option? (.object ref) "body" <|> h.option? (.object ref) "data") = body
  headers : h.option? (.object ref) "headers" = none

theorem Heap.payload_of_some (h : Heap) {v : Value} (hv : v.isNullish = false) :
    h.payload (some v) = some (h.json v) := by
  rw [payload, Option.bind_some, hv]
  rfl

theorem Heap.not_nullish_of_option? {h : Heap} {v w : Value} {key : String}
    (hw : h.option? v key = some w) : w.isNullish = false := by
  unfold option? at hw
  split at hw
  · split at hw
    · cases hw
    · next hv =>
      obtain rfl := Option.some.inj hw
      exact eq_false_of_ne_true hv
  · cases hw

/-- What an object describes is never nullish. -/
theorem Heap.Describes.payload {h : Heap} {ref : Nat} {method : Option String} {url : String}
    {body : Option Value} (hd : h.Describes ref method url body) :
    h.payload (h.option? (.object ref) "body" <|> h.option? (.object ref) "data") =
      body.map h.json := by
  rw [hd.body]
  cases hbody : body with
  | none => rfl
  | some v =>
    rw [Option.map_some, h.payload_of_some]
    have hv := hd.body.trans hbody
    cases hfirst : h.option? (.object ref) "body" with
    | some w =>
      rw [hfirst] at hv
      obtain rfl : w = v := Option.some.inj hv
      exact not_nullish_of_option? hfirst
    | none =>
      rw [hfirst] at hv
      exact not_nullish_of_option? hv

/-- **The shapes of a requesting command are told apart.**  An address alone is requested with `GET`,
and with a payload that is no text with `POST`.  Of two texts the first one is the method, whatever
it says, and the second one is the address; a payload may come behind them.  An object makes the
request that it describes, which is the same. -/
theorem requests_told_apart (m : Machine) :
    (∀ url, m.Sends [.string url] { method := "GET", url }) ∧
      (∀ url body, body.isNullish = false → (∀ text, body ≠ .string text) →
        m.Sends [.string url, body]
          { method := "POST", url, payload := some (m.heap.json body) }) ∧
      (∀ text url, m.Sends [.string text, .string url] { method := Text.asciiUpper text, url }) ∧
      (∀ text url body, body.isNullish = false →
        m.Sends [.string text, .string url, body]
          { method := Text.asciiUpper text, url, payload := some (m.heap.json body) }) ∧
      ∀ ref method url body, m.heap.Describes ref method url body →
        m.Sends [.object ref]
          { method := Text.asciiUpper (method.getD "GET"), url, payload := body.map m.heap.json } := by
  refine ⟨fun url => m.sends_commandRequest _, fun url body hbody htext => ?_,
    fun text url => m.sends_commandRequest _, fun text url body hbody => ?_,
    fun ref method url body hd => ?_⟩
  · have hsent : m.heap.commandRequest [.string url, body] =
        { method := "POST", url, payload := some (m.heap.json body) } := by
      rw [← m.heap.payload_of_some hbody]
      refine Heap.commandRequest_of_body (fun _ haddress => ?_) (fun _ text _ => htext text)
        fun (hmissing : body = .undefined) => ?_
      · cases haddress
      · rw [hmissing] at hbody
        cases hbody
    exact hsent ▸ m.sends_commandRequest _
  · rw [← m.heap.payload_of_some hbody]
    exact m.sends_commandRequest _
  · have hsent : m.heap.commandRequest [.object ref] =
        { method := Text.asciiUpper (method.getD "GET"), url,
          payload := body.map m.heap.json } := by
      have hmethod : (method.map Value.string).map m.heap.display = method := by
        cases method <;> rfl
      rw [← hd.payload]
      show Surface.Outgoing.mk _ _ _ _ = _
      rw [hd.method, hd.url, hd.headers, hmethod]
      rfl
    exact hsent ▸ m.sends_commandRequest _

end Script

namespace Session

open Script

/-- An object, and the texts and the value that it holds, make one request. -/
theorem requests_told_apart_described :
    let s := ((new .builtin (.standard "lab") .zeros .zeros).select "adv-api-mocking").2
    let members : Dict Value :=
      [("body", .bool true), ("method", .string "put"), ("url", .string "/api/items")]
    let m : Machine :=
      { Machine.start s.begin.2.browser with heap := (Heap.empty.newObject members).2 }
    ∃ out, m.Sends [.object 0] out ∧
      m.Sends [.string "put", .string "/api/items", .bool true] out ∧ out.method = "PUT" := by
  intro s members m
  obtain ⟨-, -, -, hplaced, hdescribed⟩ := requests_told_apart m
  have hobject : m.heap.Describes 0 (some "put") "/api/items" (some (.bool true)) :=
    ⟨rfl, rfl, rfl, rfl⟩
  exact ⟨_, hdescribed 0 _ _ _ hobject, hplaced "put" _ _ rfl, by decide +kernel⟩

/-- An address is taken for the method, and the payload behind it for the address. -/
theorem text_sent_as_address :
    let s := ((new .builtin (.standard "lab") .zeros .zeros).select "adv-api-mocking").2
    Text.asciiUpper "/api/secure-data" ∉ Surface.httpMethods ∧
      (s.runWith 100 "cy.request('/api/secure-data', 'hello')").1.steps.map
        (·.network.map fun x => (x.method, x.url, x.payload.isSome)) =
          [some ("/API/SECURE-DATA", "hello", false)] := by
  intro s
  exact ⟨by decide +kernel, by decide +kernel⟩

end Session

end BrowserLab
