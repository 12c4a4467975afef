import BrowserLab.Proofs.Script.Does
import BrowserLab.Proofs.Surface.Admits
import BrowserLab.Surface.Invoke

/-!
# Calls of handles are atomic

The methods of handles read their arguments first, which leaves the browser still.  Every error of a
method comes before its one act: an event that is announced before any time passes, or a change of
the browser that announces none.

* `Atomic.answerCall`: the methods of all handles are atomic.
* `invoke_atomic`: what this means for the browser.
-/

namespace BrowserLab

/-- The event does not tell of a request. -/
def Event.Unasked (e : Event) : Prop := e.kind ≠ .apiCall

/-- The kinds of events of doing something to an element. -/
def Event.Kind.deeds : List Event.Kind := [.click, .fill, .select, .upload, .drag]

/-- What the event tells was done to an element, or is asserted of one, is so of an element in the
frame. -/
def Event.Framed (frame : FramePath) (e : Event) : Prop :=
  e.kind ∈ Event.Kind.deeds ∨ e.kind.isAssertion = true → e.frame = frame

/-- The event tells of no request, and of elements in the frame only. -/
def Event.UnaskedIn (frame : FramePath) (e : Event) : Prop := e.Unasked ∧ e.Framed frame

/-- The event tells that something was done to the element; a click tells the text by which the
element was found as well. -/
structure Event.Against (e : Event) (t : Script.Target) : Prop where
  kind : e.kind ∈ Event.Kind.deeds
  selector : e.selector = t.selector
  frame : e.frame = t.frame
  value : e.kind = .click → e.value = t.text

theorem Event.against_targetEvent (t : Script.Target) {kind : Event.Kind}
    (hkind : kind ∈ Event.Kind.deeds) (hclick : kind ≠ .click) (value : Option String) :
    Event.Against { Surface.targetEvent t kind with value := value } t :=
  ⟨hkind, rfl, rfl, fun h => absurd h hclick⟩

theorem Event.against_clickEvent (t : Script.Target) : (Surface.clickEvent t).Against t :=
  ⟨List.mem_cons_self, rfl, rfl, fun _ => rfl⟩

namespace Script

/-- The call makes a request. -/
def Handle.Requests (h : Handle) (method : String) : Prop :=
  match h with
  | .request => method = "fetch" ∨ method ∈ Surface.verbs
  | .cy => method = "request"
  | _ => False

/-- The call can announce the event. -/
def Handle.Announces (h : Handle) (method : String) (e : Event) : Prop :=
  match h with
  | .chain t _ => e.Against t
  | .element t => e.Against t
  | .cy => e.kind = .navigate ∨ e.kind = .routeIntercept ∨ e.kind = .apiCall ∧ h.Requests method
  | .request => e.kind = .apiCall ∧ h.Requests method
  | .expectation _ => e.kind.isAssertion = true
  | .page _ | .locator _ | .route _ | .accessibility => e.Unasked
  | .response _ | .alias | .cypress | .commands => False

/-- Only calls that make requests announce them. -/
theorem Handle.Announces.requests {h : Handle} {method : String} {e : Event}
    (hannounces : h.Announces method e) (he : e.kind = .apiCall) : h.Requests method := by
  have hdeed {t : Target} (hagainst : e.Against t) : False := by
    have hkind := hagainst.kind
    rw [he] at hkind
    exact absurd hkind (by decide)
  have hunasked (h : e.Unasked) : False := h he
  cases h with
  | chain t subject => exact (hdeed hannounces).elim
  | element t => exact (hdeed hannounces).elim
  | cy =>
    rcases hannounces with hnavigate | hroute | ⟨-, hrequests⟩
    · exact absurd (he.symm.trans hnavigate) (by decide)
    · exact absurd (he.symm.trans hroute) (by decide)
    · exact hrequests
  | request => exact hannounces.2
  | expectation subject =>
    have hassertion : e.kind.isAssertion = true := hannounces
    rw [he] at hassertion
    exact absurd hassertion (by decide)
  | page frame => exact (hunasked hannounces).elim
  | locator l => exact (hunasked hannounces).elim
  | route glob => exact (hunasked hannounces).elim
  | accessibility => exact (hunasked hannounces).elim
  | _ => exact False.elim hannounces

variable {α : Type} {may : Event → Prop} {mayFail : Bool} {move : Browser → Browser → Prop}

/-! ### Reading arguments -/

namespace Does

variable [Std.Refl move]

theorem textArgument (args : List Value) (i : Nat) :
    Does mayFail move (Surface.textArgument args i) := by
  unfold Surface.textArgument
  split
  · exact .pure _
  · exact display _

theorem textOption? (v : Value) (key : String) :
    Does mayFail move (Surface.textOption? v key) := by
  unfold Surface.textOption?
  refine (option? v key).bind fun w => ?_
  cases w with
  | none => exact .pure _
  | some w => exact (display w).bind fun _ => .pure _

theorem statusOption (v : Value) (key : String) :
    Does mayFail move (Surface.statusOption v key) := by
  unfold Surface.statusOption
  refine (option? v key).bind fun w => ?_
  cases w with
  | none => exact .pure _
  | some w => exact (heap _).bind fun _ => .pure _

theorem payloadOf (v : Option Value) : Does mayFail move (Surface.payloadOf v) := by
  unfold Surface.payloadOf
  cases v with
  | none => exact .pure _
  | some v =>
    dsimp only
    split
    · exact .pure _
    · exact (heap _).bind fun _ => .pure _

theorem headersOf (v : Option Value) : Does mayFail move (Surface.headersOf v) := by
  unfold Surface.headersOf
  cases v with
  | none => exact .pure _
  | some v =>
    refine (heap _).bind fun j => ?_
    split <;> exact .pure _

theorem bodyOf (v : Option Value) : Does mayFail move (Surface.bodyOf v) := by
  unfold Surface.bodyOf
  cases v with
  | none => exact .pure _
  | some v => exact (heap _).bind fun _ => .pure _

theorem roleName (args : List Value) : Does mayFail move (Surface.roleName args) := by
  unfold Surface.roleName
  refine (textOption? _ _).bind fun name => ?_
  cases name with
  | none => exact textArgument _ _
  | some name => exact .pure _

theorem commandRequest (args : List Value) : Does mayFail move (Surface.commandRequest args) := by
  unfold Surface.commandRequest
  split
  · refine (textOption? _ _).bind fun _ => (option? _ _).bind fun _ => ?_
    refine (option? _ _).bind fun _ => (textOption? _ _).bind fun _ => ?_
    refine (payloadOf _).bind fun _ => (option? _ _).bind fun _ => ?_
    exact (headersOf _).bind fun _ => .pure _
  · exact (payloadOf _).bind fun _ => .pure _
  · exact (display _).bind fun _ => .pure _
  · exact (display _).bind fun _ => (payloadOf _).bind fun _ => .pure _

theorem containsTarget (base : Target) (args : List Value) :
    Does mayFail move (Surface.containsTarget base args) := by
  unfold Surface.containsTarget
  split
  · split
    · exact (textArgument _ _).bind fun _ => .pure _
    · exact (textArgument _ _).bind fun _ => .pure _
    · exact (textArgument _ _).bind fun _ => .pure _
    · exact (display _).bind fun _ => (display _).bind fun _ => .pure _
  · exact (textArgument _ _).bind fun _ => .pure _

theorem staticResponse? (v : Value) : Does mayFail move (Surface.staticResponse? v) := by
  unfold Surface.staticResponse?
  split
  · exact .pure _
  · exact .pure _
  · refine (heap _).bind fun members => ?_
    split
    · refine (statusOption _ _).bind fun _ => (option? _ _).bind fun _ => ?_
      exact (bodyOf _).bind fun _ => .pure _
    · exact (bodyOf _).bind fun _ => .pure _
  · split
    · exact .pure _
    · exact (bodyOf _).bind fun _ => .pure _

theorem interceptShape (args : List Value) : Does mayFail move (Surface.interceptShape args) := by
  unfold Surface.interceptShape
  split
  · split <;> exact .pure _
  · exact (textOption? _ _).bind fun _ => (textOption? _ _).bind fun _ => .pure _
  · exact (display _).bind fun _ => .pure _

end Does

/-! ### What is left for all handles -/

namespace Atomic

theorem fallback (h : Handle) (method : String) (args : List Value) :
    Atomic may (Surface.fallback h method args) := by
  unfold Surface.fallback
  dsimp only
  cases args with
  | nil => exact .typeError _
  | cons callee rest =>
    dsimp only
    split
    · exact .pure _
    · exact .typeError _

end Atomic

/-! ### Acts -/

namespace Acts

theorem modifyBrowser {f : Browser → Browser} (hf : ∀ b : Browser, b.Moves may (f b)) :
    Acts may (Eval.modifyBrowser f) :=
  .acts fun m => ⟨_, f m.browser, rfl, hf m.browser⟩

theorem emit {e : Event} (he : may e) (hnone : e.interception = none) : Acts may (Eval.emit e) :=
  modifyBrowser fun _ => .told he hnone 0

/-- The event comes first, and the page takes its time for it afterwards. -/
theorem act {e : Event} (he : may e) (hnone : e.interception = none) (delay : Latency → Nat) :
    Acts may (Surface.act e delay) :=
  .acts fun m => ⟨_, _, rfl, .told he hnone (delay m.browser.latency)⟩

/-- A page is opened, which is one act with its event. -/
theorem visit (url : String) {x : Eval α} (hx : Acts may x) :
    Acts may (Eval.modifyBrowser (fun b => { b with url := some url }) >>= fun _ => x) := by
  intro m
  obtain ⟨r, heap, browser, hrun, hr⟩ :=
    hx { m with browser := { m.browser with url := some url } }
  refine ⟨r, heap, browser, hrun, ?_⟩
  match r, hr with
  | .ok a, hr => exact ⟨hr.style, hr.calls, hr.announced, hr.clock, hr.draws⟩
  | .error (.thrown _), hr => exact absurd hr.1 Bool.false_ne_true
  | .error .exhausted, hr => exact hr

theorem register (i : Interception) (hi : may i.event) : Acts may (Surface.register i) :=
  .acts fun m => ⟨_, m.browser.register i, rfl, rfl, rfl,
    ⟨[i.event], by simp, by simpa using hi, by simp [Browser.register], rfl⟩, Nat.le_refl _,
    ⟨0, rfl⟩⟩

theorem answer (out : Surface.Outgoing) : Acts may (Surface.answer out) :=
  .acts fun m => ⟨_, { m.browser with draws := (m.browser.respond out).2 }, rfl,
    .silent rfl rfl rfl rfl (Nat.le_refl _) (m.browser.exists_respond_draws out)⟩

/-- Drawing numbers for an answer announces nothing, so the request is the one event. -/
theorem exchange (out : Surface.Outgoing) (hout : ∀ r, may (out.event r)) :
    Acts may (Surface.exchange out) :=
  .acts fun m => ⟨_, m.browser.exchange out, rfl, rfl, rfl,
    ⟨[out.event (m.browser.respond out).1], by simp, by simpa using hout _,
      by simp [Browser.exchange], by simp [Browser.exchange, Surface.Outgoing.event]⟩,
    Nat.le_refl _, m.browser.exists_respond_draws out⟩

theorem waitFor (milliseconds : Float) : Acts may (Surface.waitFor milliseconds) := by
  unfold Surface.waitFor
  split
  · refine (modifyBrowser fun b => ?_).bindStill fun _ => .pure _
    exact .silent rfl rfl rfl rfl (Nat.le_add_right _ _) ⟨0, rfl⟩
  · exact .pure _

theorem upload (l : Locator) (files : Value) :
    Acts (Event.UnaskedIn l.frame) (Surface.upload l files) :=
  (Does.heap _).bind fun _ => act ⟨nofun, fun _ => rfl⟩ rfl _

end Acts

/-! ### Methods of the page -/

namespace Atomic

theorem dragTo (l : Locator) (goal : Value) :
    Atomic (Event.UnaskedIn l.frame) (Surface.act (Surface.dragEvent l goal) Latency.drag) := by
  unfold Surface.dragEvent
  split <;> exact (Acts.act ⟨nofun, fun _ => rfl⟩ rfl _).atomic

theorem found (l : Locator) : Atomic may (Surface.found l) := .pure _

theorem locatorMethod (l : Locator) (method : String) (args : List Value) :
    Atomic (Event.UnaskedIn l.frame) (Surface.locatorMethod l method args) := by
  have hlabel : Atomic (Event.UnaskedIn l.frame) (do
      let label ← Surface.textArgument args 0
      Surface.locatorMethod.byLabel l label) :=
    (Does.textArgument _ _).bind fun _ => found _
  unfold Surface.locatorMethod
  split
  · exact (Acts.act ⟨nofun, fun _ => rfl⟩ rfl _).atomic
  split
  · exact (Does.textArgument _ _).bind fun _ => (Acts.act ⟨nofun, fun _ => rfl⟩ rfl _).atomic
  split
  · exact .pure _
  split
  · exact (Does.heap _).bind fun _ => (Acts.act ⟨nofun, fun _ => rfl⟩ rfl _).atomic
  · exact dragTo _ _
  · exact (Acts.upload _ _).atomic
  · exact ((Acts.emit ⟨nofun, fun _ => rfl⟩ rfl).bindStill fun _ => .pure _).atomic
  · exact (Does.textArgument _ _).bind fun _ => found _
  · exact hlabel
  · exact hlabel
  · exact hlabel
  · exact (Does.roleName _).bind fun _ => found _
  · exact (Does.textArgument _ _).bind fun _ => found _
  · exact (Does.textArgument _ _).bind fun _ => found _
  · refine (Does.textOption? _ _).bind fun text => ?_
    cases text <;> exact found _
  · exact found _
  · exact found _
  · exact (Does.display _).bind fun _ => found _
  · exact (Does.textArgument _ _).bind fun _ => .pure _
  · exact .pure _
  · exact .pure _
  · exact .pure _
  · exact .pure _
  · exact .pure _
  · exact .pure _
  · exact .pure _
  · exact fallback _ _ _

theorem pageMethod (frame : FramePath) (method : String) (args : List Value) :
    Atomic (Event.UnaskedIn frame) (Surface.pageMethod frame method args) := by
  have hlabel : Atomic (Event.UnaskedIn frame) (do
      let label ← Surface.textArgument args 0
      Surface.pageMethod.byLabel frame label) :=
    (Does.textArgument _ _).bind fun _ => found _
  have hnavigate (url : String) :
      Event.UnaskedIn frame { kind := .navigate, value := some url } := by
    refine ⟨nofun, fun hkind => ?_⟩
    rcases hkind with hdeed | hassertion
    · exact absurd hdeed (by simp [Event.Kind.deeds])
    · cases hassertion
  unfold Surface.pageMethod
  split
  · exact .pure _
  split
  · exact (Does.textArgument _ _).bind fun _ => locatorMethod _ _ _
  split
  · exact (Does.textArgument _ _).bind fun url =>
      (Acts.visit url (Acts.act (hnavigate url) rfl _)).atomic
  · exact (Does.textArgument _ _).bind fun _ => .pure _
  · exact (Does.textArgument _ _).bind fun _ => .pure _
  · exact (Does.textArgument _ _).bind fun _ => found _
  · exact hlabel
  · exact hlabel
  · exact hlabel
  · exact hlabel
  · exact (Does.roleName _).bind fun _ => found _
  · exact (Does.textArgument _ _).bind fun _ => found _
  · exact (Does.textArgument _ _).bind fun _ => found _
  · refine (Does.textArgument _ _).bind fun glob => ?_
    dsimp only
    split
    · exact .pure _
    · exact .typeError _
  · exact (Does.textArgument _ _).bind fun _ => (Acts.upload _ _).atomic
  · exact (Does.heap _).bind fun _ => (Acts.waitFor _).atomic
  · split
    · exact ((Acts.answer _).bindStill fun _ => .pure _).atomic
    · exact .pure _
  · exact (Does.browser _).bind fun _ => .pure _
  · exact .pure _
  · exact .pure _
  · exact fallback _ _ _

theorem routeMethod (glob method : String) (args : List Value) :
    Atomic Event.Unasked (Surface.routeMethod glob method args) := by
  unfold Surface.routeMethod
  split
  · refine (Does.statusOption _ _).bind fun _ => (Does.option? _ _).bind fun _ => ?_
    refine (Does.option? _ _).bind fun _ => (Does.bodyOf _).bind fun _ => ?_
    exact ((Acts.register _ nofun).bindStill fun _ => .pure _).atomic
  · exact .pure _
  · exact .pure _
  · exact .pure _
  · exact (Does.newObject _).bind fun _ => .pure _
  · exact fallback _ _ _

theorem accessibilityMethod (method : String) :
    Atomic Event.Unasked (Surface.accessibilityMethod method) := by
  unfold Surface.accessibilityMethod
  split
  · refine ((Acts.emit nofun rfl).bindStill fun _ => ?_).atomic
    exact (Does.allocate _).bind fun _ => .pure _
  · exact fallback _ _ _

theorem isAssertion_expectationEvent {l : Locator} {method text : String} {e : Event}
    (he : Surface.expectationEvent? l method text = some e) :
    e.kind.isAssertion = true ∧ e.frame = l.frame ∧ e.interception = none := by
  unfold Surface.expectationEvent? at he
  split at he <;> cases he <;> exact ⟨rfl, rfl, rfl⟩

theorem expectMethod (subject : Value) (method : String) (args : List Value) :
    Atomic (fun e => e.kind.isAssertion = true ∧
      ∀ l, subject = .handle (.locator l) → e.frame = l.frame)
      (Surface.expectMethod subject method args) := by
  unfold Surface.expectMethod
  split
  · refine (Does.textArgument _ _).bind fun text => ?_
    split
    · next e he =>
      obtain ⟨hassertion, hframe, hnone⟩ := isAssertion_expectationEvent he
      refine ((Acts.emit ⟨hassertion, fun l hl => ?_⟩ hnone).bindStill fun _ => .pure _).atomic
      cases hl
      exact hframe
    · exact .pure _
  · exact .pure _

/-! ### Requests and answers -/

theorem requestMethod (method : String) (args : List Value) :
    Atomic (Handle.request.Announces method) (Surface.requestMethod method args) := by
  unfold Surface.requestMethod
  split
  · exact fallback _ _ _
  · next hknown =>
    have hrequests : method = "fetch" ∨ method ∈ Surface.verbs := by
      by_contra hnot
      obtain ⟨hfetch, hverb⟩ := not_or.mp hnot
      refine hknown ?_
      rw [Bool.and_eq_true, Bool.not_eq_true', ← Bool.not_eq_true, List.contains_iff_mem,
        bne_iff_ne]
      exact ⟨hverb, hfetch⟩
    have hsend (verb : String) :
        Atomic (Handle.request.Announces method) (do
          let url ← Surface.textArgument args 0
          let payload ← Surface.payloadOf (← Eval.option? (argument args 1) "data")
          let headers ← Surface.headersOf (← Eval.option? (argument args 1) "headers")
          let r ← Surface.exchange { method := Text.asciiUpper verb, url, payload, headers }
          return Reply.value (.handle (.response r))) := by
      refine (Does.textArgument _ _).bind fun _ => (Does.option? _ _).bind fun _ => ?_
      refine (Does.payloadOf _).bind fun _ => (Does.option? _ _).bind fun _ => ?_
      refine (Does.headersOf _).bind fun _ => ?_
      exact ((Acts.exchange _ fun _ => ⟨rfl, hrequests⟩).bindStill fun _ => .pure _).atomic
    dsimp only
    split
    · exact (Does.textOption? _ _).bind fun _ => hsend _
    · exact hsend _

theorem responseMethod (r : Response) (method : String) :
    Atomic may (Surface.responseMethod r method) := by
  unfold Surface.responseMethod
  split
  · exact .pure _
  · exact .pure _
  · exact .pure _
  · exact (Does.allocate _).bind fun _ => .pure _
  · exact .pure _
  · exact .pure _
  · exact (Does.newObject _).bind fun _ => .pure _
  · exact fallback _ _ _

/-! ### Commands -/

theorem requestCommand (args : List Value) :
    Acts (Handle.cy.Announces "request") (Surface.requestCommand args) := by
  unfold Surface.requestCommand
  refine (Does.commandRequest _).bind fun _ => ?_
  refine (Acts.exchange _ fun _ => .inr (.inr ⟨rfl, rfl⟩)).bindStill fun _ => ?_
  refine (Does.allocate _).bind fun _ => (Does.newObject _).bind fun _ => ?_
  exact (Does.newObject _).bind fun _ => .pure _

theorem intercept (method : String) (args : List Value) :
    Atomic (Handle.cy.Announces method) (Surface.intercept args) := by
  unfold Surface.intercept
  refine (Does.interceptShape _).bind fun ⟨limit, glob, value⟩ => ?_
  refine (Does.staticResponse? _).bind fun response => ?_
  cases response with
  | none => exact .pure _
  | some response =>
    exact ((Acts.register _ (.inr (.inl rfl))).bindStill fun _ => .pure _).atomic

theorem customCommand (method : String) (args : List Value) :
    Atomic may (Surface.customCommand method args) := by
  unfold Surface.customCommand
  refine (Does.browser _).bind fun commands => ?_
  split
  · exact .pure _
  · exact fallback _ _ _

theorem commandMethod (method : String) (args : List Value) :
    Atomic (Handle.cy.Announces method) (Surface.commandMethod method args) := by
  unfold Surface.commandMethod
  split
  · refine (Does.textArgument _ _).bind fun url => (Acts.visit url ?_).atomic
    exact (Acts.emit (.inl rfl) rfl).bindStill fun _ => .pure _
  · exact ((requestCommand _).bindStill fun _ => .pure _).atomic
  · exact (Does.textArgument _ _).bind fun _ => .pure _
  · exact (Does.containsTarget _ _).bind fun _ => .pure _
  · exact intercept _ _
  · split <;> exact .pure _
  · exact (Does.newObject _).bind fun _ => .pure _
  · exact (Does.newObject _).bind fun _ => .pure _
  · exact (Does.browser _).bind fun _ => .pure _
  · exact (Does.browser _).bind fun _ => .pure _
  · split
    · exact .pure _
    · exact customCommand _ _

theorem callWithSubject (t : Target) (subject : Value) (args : List Value) (settle : Settle) :
    Atomic may (Surface.callWithSubject t subject args settle) := by
  unfold Surface.callWithSubject
  dsimp only
  split <;> exact .pure _

theorem chainMethod (t : Target) (subject : Value) (method : String) (args : List Value) :
    Atomic (·.Against t) (Surface.chainMethod t subject method args) := by
  have hact {e : Event} (he : e.Against t) (hnone : e.interception = none) :
      Atomic (·.Against t) (do
        Eval.emit e
        return Reply.value (.handle (.chain t subject))) :=
    ((Acts.emit he hnone).bindStill fun _ => .pure _).atomic
  have hdeed (kind : Event.Kind) (hkind : kind ∈ Event.Kind.deeds) (hclick : kind ≠ .click)
      (value : Option String) : Atomic (·.Against t) (do
        Eval.emit { Surface.targetEvent t kind with value := value }
        return Reply.value (.handle (.chain t subject))) :=
    hact (Event.against_targetEvent t hkind hclick value) rfl
  unfold Surface.chainMethod
  dsimp only
  split
  · exact hact (Event.against_clickEvent t) rfl
  split
  · exact .pure _
  split
  · exact (Does.textArgument _ _).bind fun _ => hdeed .fill (by decide) (by decide) _
  · exact (Does.textArgument _ _).bind fun _ => hdeed .select (by decide) (by decide) _
  · exact (Does.heap _).bind fun _ => hdeed .upload (by decide) (by decide) _
  · exact (Does.textArgument _ _).bind fun _ => hdeed .drag (by decide) (by decide) _
  · exact callWithSubject _ _ _ _
  · exact callWithSubject _ _ _ _
  · exact callWithSubject _ _ _ _
  · exact callWithSubject _ _ _ _
  · exact callWithSubject _ _ _ _
  · refine (Does.textArgument _ _).bind fun path => ?_
    split
    · split
      · exact .pure _
      · exact (Does.heap _).bind fun _ => .pure _
    · exact (Does.heap _).bind fun _ => .pure _
  · refine (Does.textArgument _ _).bind fun name => ?_
    split
    · split <;> exact .pure _
    · exact .pure _
  · exact (Does.textArgument _ _).bind fun _ => .pure _
  · exact (Does.containsTarget _ _).bind fun _ => .pure _
  · exact (Does.textArgument _ _).bind fun _ => .pure _
  · exact .pure _
  · exact .pure _
  · exact fallback _ _ _

theorem elementMethod (t : Target) (method : String) (args : List Value) :
    Atomic (·.Against t) (Surface.elementMethod t method args) := by
  unfold Surface.elementMethod
  split
  · exact .pure _
  · exact (Does.textArgument _ _).bind fun _ => .pure _
  · exact .pure _
  · exact .pure _
  · exact .pure _
  · exact .pure _
  · exact .pure _
  · exact ((Acts.emit (Event.against_clickEvent t) rfl).bindStill fun _ => .pure _).atomic
  · exact fallback _ _ _

/-- A command is added only after its body has been found. -/
theorem addCommand (method : String) (args : List Value) :
    Atomic may (Surface.addCommand method args) := by
  unfold Surface.addCommand
  refine (Does.textArgument _ _).bind fun name => ?_
  split
  · refine ((Acts.modifyBrowser fun _ => ?_).bindStill fun _ => .pure _).atomic
    exact .silent rfl rfl rfl rfl (Nat.le_refl _) ⟨0, rfl⟩
  · exact .typeError _

theorem commandsMethod (method : String) (args : List Value) :
    Atomic may (Surface.commandsMethod method args) := by
  unfold Surface.commandsMethod
  split
  · exact addCommand _ _
  · exact fallback _ _ _

/-! ### Handles -/

theorem answerCall (h : Handle) (method : String) (args : List Value) :
    Atomic (h.Announces method) (Surface.answerCall h method args) := by
  cases h with
  | page frame => exact (pageMethod frame _ _).mono fun h => h.mono fun _ he => he.1
  | locator l => exact (locatorMethod l _ _).mono fun h => h.mono fun _ he => he.1
  | route glob => exact routeMethod _ _ _
  | request => exact requestMethod _ _
  | response r => exact responseMethod _ _
  | accessibility => exact accessibilityMethod _
  | expectation subject => exact (expectMethod _ _ _).mono fun h => h.mono fun _ he => he.1
  | cy => exact commandMethod _ _
  | chain t subject => exact chainMethod _ _ _ _
  | element t => exact elementMethod _ _ _
  | «alias» =>
    unfold Surface.answerCall
    dsimp only
    split
    · exact .pure _
    · exact fallback _ _ _
  | cypress =>
    unfold Surface.answerCall
    dsimp only
    split
    · exact .pure _
    · exact fallback _ _ _
  | commands => exact commandsMethod _ _

/-- Noting a call makes no difference to its method, so all of the call is atomic. -/
theorem invoke (h : Handle) (method : String) (args : List Value) (m : Machine) :
    ∃ r heap browser, (Surface.invoke h method args).runOn m = (r, { m with heap, browser }) ∧
      let noted := { m.browser with calls := (h, method) :: m.browser.calls }
      match r with
      | .ok _ => noted.Moves (h.Announces method) browser
      | .error (.thrown _) => noted = browser
      | .error .exhausted => False := by
  obtain ⟨r, heap, browser, hrun, hr⟩ := answerCall h method args
    { m with browser := { m.browser with calls := (h, method) :: m.browser.calls } }
  refine ⟨r, heap, browser, hrun, ?_⟩
  match r, hr with
  | .ok _, hr => exact hr
  | .error (.thrown _), hr => exact hr.2
  | .error .exhausted, hr => exact hr

/-- So it moves the browser once, if at all. -/
theorem invoke_moves (h : Handle) (method : String) (args : List Value) (m : Machine) :
    ∃ r heap browser, (Surface.invoke h method args).runOn m = (r, { m with heap, browser }) ∧
      Browser.Moves (h.Announces method)
        { m.browser with calls := (h, method) :: m.browser.calls } browser :=
  (answerCall h method args).moves
    { m with browser := { m.browser with calls := (h, method) :: m.browser.calls } }

end Atomic

/-- **Calls of handles are atomic.**  A call of any method of any handle announces one event at
most, at the time at which it was made, so before it lets any time pass.  If it does not come to a
value then because it has thrown one; it has announced nothing, and the browser is as it was but for
the note of the call: its page, its interceptions and its commands are the same. -/
theorem invoke_atomic (h : Handle) (method : String) (args : List Value) (m : Machine) :
    let after := (Surface.invoke h method args).runOn m
    (∃ announced : List Event, announced.length ≤ 1 ∧
      after.2.browser.timeline.toList =
        m.browser.timeline.toList ++ announced.map (m.browser.clock, ·)) ∧
    m.browser.clock ≤ after.2.browser.clock ∧
    ∀ stop, after.1 = .error stop →
      (∃ v, stop = .thrown v) ∧
        after.2.browser = { m.browser with calls := (h, method) :: m.browser.calls } := by
  obtain ⟨r, heap, browser, hrun, hr⟩ := Atomic.invoke h method args m
  rw [hrun]
  match r, hr with
  | .ok _, hr =>
    obtain ⟨es, hlength, -, htold, -⟩ := hr.announced
    exact ⟨⟨es, hlength, htold⟩, hr.clock, nofun⟩
  | .error (.thrown v), hr =>
    obtain rfl : _ = browser := hr
    refine ⟨⟨[], by simp, by simp⟩, Nat.le_refl _, fun stop hstop => ?_⟩
    cases hstop
    exact ⟨⟨v, rfl⟩, rfl⟩

end Script

end BrowserLab
