import BrowserLab.Proofs.Script.Json.Shown
import BrowserLab.Proofs.Session.Intercept
import BrowserLab.Proofs.Surface.Request

/-!
# The bodies that interceptions serve

A body is given to an interception as a value.  Its JSON form is decoded when the interception is
set up, and what is kept is decoded again whenever a request is answered with it.

* `Interception.AnswersWith` says that all who ask are answered alike by an interception, and
  `answersWith_answer` what.
* `GivesBody`: which calls set up an interception, and which value is its body.
* `bodies_decoded_twice`: what is served of this value.
-/

namespace BrowserLab

open Script

/-! ### Who is answered by an interception -/

namespace Script

variable {m : Machine} {i : Interception} {args : List Value}

theorem Heap.field?_newObject (h : Heap) (members : Dict Value) (key : String) :
    (h.newObject members).2.field? (h.newObject members).1 key = members.get? key := by
  show Dict.get? ((h.objects.push members).getD h.objects.size []) key = _
  simp

/-- The subject that a requesting command hands on has a body that is made of that of the answer. -/
theorem runOn_requestCommand (m : Machine) (args : List Value)
    (h : Backend.covering? (m.heap.commandRequest args).method (m.heap.commandRequest args).url
      m.browser.interceptions = some i) :
    ∃ subject after, (Surface.requestCommand args).runOn m =
        (.ok (.handle (.chain {} subject)), after) ∧
      after.heap.field? subject "body" = some (m.heap.ofJson i.answer.body).1 ∧
      (m.heap.ofJson i.answer.body).2.Extends after.heap := by
  rw [Surface.requestCommand, Eval.runOn_bind_ok (runOn_commandRequest args m),
    Eval.runOn_bind_ok (runOn_exchange _ m), Browser.respond_of_covering h]
  refine ⟨_, _, rfl, ?_, ?_⟩
  · refine (Heap.field?_newObject _ _ "body").trans ?_
    simp [Dict.ofPairs, Dict.insertAll, Dict.get?_insert]
  · exact (Heap.Extends.newObject _ _).trans (.newObject _ _)

theorem pageMethod_waitForResponse (frame : FramePath) (url : String) (args : List Value) :
    Surface.pageMethod frame "waitForResponse" (.string url :: args) = (do
      let r ← Surface.lookup url
      return Reply.value (.handle (.response r))) := by
  unfold Surface.pageMethod
  rw [if_neg (by decide), if_neg (by decide)]
  rfl

end Script

open Surface in
/-- All who make a request that the interception covers are answered `r`: the methods of the object
for requests, requesting commands, a page that is asked for a response, and the page of the exercise
on interceptions, which hears of the interception by its event. -/
structure Interception.AnswersWith (i : Interception) (r : Response) : Prop where
  heard : ∀ page : Playground, (page.hear i.event).interceptions = page.interceptions ++ [i]
  request : ∀ {m : Machine} {method : String} {args : List Value},
    method = "fetch" ∨ method ∈ verbs →
      Backend.covering? (m.heap.verb method args) (m.heap.argumentText args 0)
        m.browser.interceptions = some i →
        ((invoke .request method args).runOn m).1 = .ok (.value (.handle (.response r)))
  command : ∀ (m : Machine) (args : List Value), ∃ out,
    (commandRequest args).runOn m = (.ok out, m) ∧
      (Backend.covering? out.method out.url m.browser.interceptions = some i →
        ∃ subject after, (invoke .cy "request" args).runOn m =
            (.ok (.value (.handle (.chain {} subject))), after) ∧
          after.heap.field? subject "body" = some (m.heap.ofJson r.body).1 ∧
          (m.heap.ofJson r.body).2.Extends after.heap)
  lookup : ∀ {m : Machine} {frame : FramePath} {url : String} {args : List Value},
    Backend.covering? "GET" url m.browser.interceptions = some i →
      ((invoke (.page frame) "waitForResponse" (.string url :: args)).runOn m).1 =
        .ok (.value (.handle (.response r)))
  fetch : ∀ {page : Playground} {e : Event}, page.Fetches e →
    Backend.covering? "GET" "/api/data" page.interceptions = some i →
      (page.hear e).apiResponse = some r

theorem Interception.answersWith_answer (i : Interception) : i.AnswersWith i.answer where
  heard page := page.hear_interceptions i.event
  request {m method args} hmethod hi := by
    have hanswer : (m.noted .request method).browser.respond (m.heap.methodRequest method args) =
        (i.answer, m.browser.draws) := Browser.respond_of_covering hi
    exact (congrArg Prod.fst (runOn_requestMethod hmethod args (m.noted .request method))).trans
      (congrArg (fun r : Response × Draws => Except.ok (Reply.value (.handle (.response r.1))))
        hanswer)
  command m args := by
    refine ⟨m.heap.commandRequest args, runOn_commandRequest args m, fun hi => ?_⟩
    obtain ⟨subject, after, hrun, hbody⟩ :=
      runOn_requestCommand (m.noted .cy "request") args hi
    refine ⟨subject, after, ?_, hbody⟩
    rw [runOn_invoke, Surface.answerCall]
    exact Eval.runOn_bind_ok hrun
  lookup {m frame url args} hi := by
    have hanswer := runOn_lookup (m := m.noted (.page frame) "waitForResponse") hi
    rw [runOn_invoke, Surface.answerCall, pageMethod_waitForResponse, Eval.runOn_bind_ok hanswer]
    rfl
  fetch {page e} he hi := by
    rw [(page.hear_apiResponse e).1 he, Playground.dataAnswer, hi]

/-! ### Giving a body -/

namespace Script

variable {m : Machine}

/-- The body that a route is fulfilled with, as text or as JSON; null if there is none. -/
def Heap.fulfilledBody (h : Heap) (spec : Value) : Value :=
  ((h.option? spec "body") <|> (h.option? spec "json")).getD .null

/-- The argument of an intercepting command that describes the answer. -/
def answerArgument (args : List Value) : Value :=
  match argument args 0, argument args 1 with
  | .string method, .string glob =>
    if Surface.httpMethods.contains (Text.asciiUpper method) then argument args 2 else .string glob
  | _, v => v

/-- The body of the answer that a value describes.  Nothing, and a function, describe no answer; an
object may describe one by its members, and the body is then one of them, or null; any other value
is the body itself. -/
def Heap.staticBody? (h : Heap) (v : Value) : Option Value :=
  match v with
  | .object ref =>
    if (h.object ref).any fun (k, _) => Surface.responseKeys.contains k then
      some ((h.option? v "body").getD .null)
    else some v
  | v => if v.isNullish || v.isCallable then none else some v

/-- The call sets up an interception, with a value for its body. -/
inductive GivesBody (h : Heap) : Handle → String → List Value → Value → Prop
  | fulfill (glob : String) (args : List Value) :
      GivesBody h (.route glob) "fulfill" args (h.fulfilledBody (argument args 0))
  | intercept {args : List Value} {b : Value}
      (hb : h.staticBody? (answerArgument args) = some b) : GivesBody h .cy "intercept" args b

/-- The body that is kept is the JSON form of what was given, decoded. -/
theorem runOn_bodyOf (v : Option Value) (m : Machine) :
    (Surface.bodyOf v).runOn m = (.ok (m.heap.json (v.getD .null)).decoded, m) := by
  cases v <;> rfl

theorem looks_statusOption (v : Value) (key : String) : Looks (Surface.statusOption v key) := by
  unfold Surface.statusOption
  refine (Looks.heap _).bind fun w => ?_
  cases w with
  | none => exact .pure _
  | some w => exact (Looks.heap _).bind fun _ => .pure _

theorem runOn_fulfill (glob : String) (args : List Value) (m : Machine) :
    ∃ status, (Surface.routeMethod glob "fulfill" args).runOn m = (.ok (.value .undefined),
      { m with browser := m.browser.register ⟨glob, none,
        status, (m.heap.json (m.heap.fulfilledBody (argument args 0))).decoded⟩ }) := by
  obtain ⟨status, hstatus⟩ := looks_statusOption (argument args 0) "status"
  refine ⟨status m.heap, ?_⟩
  refine (Eval.runOn_bind_ok (hstatus m)).trans ?_
  rw [Eval.runOn_bind_ok (runOn_option? _ _ m), Eval.runOn_bind_ok (runOn_option? _ _ m),
    Eval.runOn_bind_ok (runOn_bodyOf _ m)]
  rfl

theorem runOn_interceptShape (args : List Value) (m : Machine) :
    ∃ method glob, (Surface.interceptShape args).runOn m =
      (.ok (method, glob, answerArgument args), m) := by
  unfold Surface.interceptShape answerArgument
  generalize argument args 0 = address
  generalize argument args 1 = v
  cases address with
  | object ref =>
    have hmethod := runOn_textOption? (.object ref) "method" m
    have hurl := runOn_textOption? (.object ref) "url" m
    exact ⟨_, _, (Eval.runOn_bind_ok hmethod).trans ((Eval.runOn_bind_ok hurl).trans rfl)⟩
  | string method =>
    cases v with
    | string glob =>
      dsimp only
      split
      · exact ⟨_, _, rfl⟩
      · exact ⟨_, _, rfl⟩
    | _ => exact ⟨_, _, rfl⟩
  | _ => exact ⟨_, _, rfl⟩

theorem runOn_staticResponse? {v b : Value} (hb : m.heap.staticBody? v = some b) :
    ∃ status, (Surface.staticResponse? v).runOn m =
      (.ok (some ⟨status, (m.heap.json b).decoded⟩), m) := by
  have hplain (v : Value) :
      (do return some ⟨200, ← Surface.bodyOf (some v)⟩ : Eval (Option Response)).runOn m =
        (.ok (some ⟨200, (m.heap.json v).decoded⟩), m) := rfl
  unfold Heap.staticBody? at hb
  unfold Surface.staticResponse?
  cases v with
  | object ref =>
    have hmembers : (Eval.heap (·.object ref)).runOn m = (.ok (m.heap.object ref), m) := rfl
    rw [Eval.runOn_bind_ok hmembers]
    dsimp only at hb
    split at hb
    · next hkeys =>
      obtain rfl := Option.some.inj hb
      obtain ⟨status, hstatus⟩ := looks_statusOption (.object ref) "statusCode"
      refine ⟨status m.heap, ?_⟩
      rw [if_pos hkeys, Eval.runOn_bind_ok (hstatus m), Eval.runOn_bind_ok (runOn_option? _ _ m),
        Eval.runOn_bind_ok (runOn_bodyOf _ m)]
      rfl
    · next hkeys =>
      obtain rfl := Option.some.inj hb
      rw [if_neg hkeys]
      exact ⟨200, hplain _⟩
  | undefined => cases hb
  | null => cases hb
  | _ =>
    dsimp only at hb ⊢
    split at hb
    · cases hb
    · next hdata =>
      obtain rfl := Option.some.inj hb
      rw [if_neg fun hcallable => hdata (by rw [hcallable, Bool.or_true])]
      exact ⟨200, hplain _⟩

theorem runOn_intercept {args : List Value} {b : Value}
    (hb : m.heap.staticBody? (answerArgument args) = some b) :
    ∃ method glob status, (Surface.intercept args).runOn m = (.ok (.value (.handle .alias)),
      { m with browser := m.browser.register ⟨glob, method,
        status, (m.heap.json b).decoded⟩ }) := by
  obtain ⟨method, glob, hshape⟩ := runOn_interceptShape args m
  obtain ⟨status, hresponse⟩ := runOn_staticResponse? hb
  refine ⟨method, glob, status, ?_⟩
  rw [Surface.intercept, Eval.runOn_bind_ok hshape]
  exact Eval.runOn_bind_ok hresponse

end Script

/-! ### Decoding -/

theorem Json.decoded_of_not_text {j : Json}
    (h : ∀ text held, j = .str text → Json.read text ≠ .ok held) : j.decoded = j := by
  unfold decoded
  split
  · next text =>
    split
    · next held hread => exact absurd hread (h text held rfl)
    · rfl
  · rfl

theorem Script.Heap.json_string (h : Heap) (text : String) : h.json (.string text) = .str text :=
  rfl

/-- A value that is the same as a text or an integer is this text or integer. -/
theorem Json.eq_of_same {a b : Json} (hb : (∃ text, b = .str text) ∨ ∃ n, b = .int n)
    (h : a.same b = true) : a = b := by
  obtain ⟨text, rfl⟩ | ⟨n, rfl⟩ := hb
  · cases a with
    | str other => exact congrArg Json.str (eq_of_beq (by simpa [same] using h))
    | _ => simp [same] at h
  · cases a with
    | int other => exact congrArg Json.int (eq_of_beq (by simpa [same] using h))
    | _ => simp [same] at h

/-- **The body of an interception is decoded twice**, when it is set up and when it is served.  All
who ask are so answered alike, and as if it were decoded once, unless the body is text that holds
text that holds a JSON value again. -/
theorem Script.bodies_decoded_twice {m : Machine} {h : Handle} {method : String}
    {args : List Value} {b : Value} (hgives : GivesBody m.heap h method args b) :
    let kept := (m.heap.json b).decoded
    ∃ (i : Interception) (v : Value),
      (Surface.invoke h method args).runOn m =
        (.ok (.value v), { m with browser := (m.noted h method).browser.register i }) ∧
      i.AnswersWith ⟨i.response.status, kept.decoded⟩ ∧
      ((∀ text held, kept = .str text → Json.read text ≠ .ok held) → kept.decoded = kept) := by
  intro kept
  cases hgives with
  | fulfill glob args =>
    obtain ⟨status, hrun⟩ := runOn_fulfill glob args (m.noted (.route glob) "fulfill")
    exact ⟨_, _, hrun, Interception.answersWith_answer _, Json.decoded_of_not_text⟩
  | intercept hb =>
    obtain ⟨glob, allowed, status, hrun⟩ := runOn_intercept (m := m.noted .cy "intercept") hb
    exact ⟨_, _, hrun, Interception.answersWith_answer _, Json.decoded_of_not_text⟩

/-- A route is fulfilled with text that holds text that holds a number, and the number is served. -/
theorem Script.bodies_decoded_twice_number :
    let start : Machine := .start
      { style := .playwright, latency := .instant, clock := 0, draws := .zeros }
    let given := start.heap.newObject [("body", .string "\"42\"")]
    let m := { start with heap := given.2 }
    GivesBody m.heap (.route "/api/data") "fulfill" [given.1] (.string "\"42\"") ∧
      ∃ (i : Interception) (v : Value),
        (Surface.invoke (.route "/api/data") "fulfill" [given.1]).runOn m =
          (.ok (.value v),
            { m with browser := (m.noted (.route "/api/data") "fulfill").browser.register i }) ∧
        i.AnswersWith ⟨i.response.status, .int 42⟩ := by
  intro start given m
  have hgives : GivesBody m.heap (.route "/api/data") "fulfill" [given.1] (.string "\"42\"") :=
    .fulfill "/api/data" [given.1]
  obtain ⟨i, v, hrun, hanswers, -⟩ := bodies_decoded_twice hgives
  have honce : (Json.str "\"42\"").decoded = .str "42" :=
    Json.eq_of_same (.inl ⟨_, rfl⟩) (by decide +kernel)
  have htwice : (Json.str "42").decoded = .int 42 :=
    Json.eq_of_same (.inr ⟨_, rfl⟩) (by decide +kernel)
  rw [Heap.json_string, honce, htwice] at hanswers
  exact ⟨hgives, i, v, hrun, hanswers⟩

/-- The text that the decoded body is, holds a number, and the number is served. -/
theorem Session.body_decoded_again :
    let s := ((new .builtin (.standard "lab") .zeros .zeros).select "pw-trace-viewer").2
    (Json.str "\"42\"").decoded = .str "42" ∧
      (s.runWith 100 ("page.route('/api/data', r => r.fulfill(\x7b body: '\"42\"' \x7d)); " ++
        "const r = await request.get('/api/data'); console.log(typeof await r.json())")).1.console =
          ["number"] := by
  intro s
  exact ⟨Json.eq_of_same (.inl ⟨_, rfl⟩) (by decide +kernel), by decide +kernel⟩

end BrowserLab
