import BrowserLab.Proofs.Script.ComesTo
import BrowserLab.Proofs.Script.Yield

/-!
# Frames

Handles are built from one another: locators from a page, elements from a chain.  Each copies the
path of its frame from the one it was built from; only a few methods enter a frame, and put one
segment at the inner end of the path.

* `Gives`: what a computation comes to, when it leaves the commands of a script alone.
* `Made`: a value whose handles are in frames as told, or were passed in.
* `Gives.chainMethod` and the lemmas before it: what methods of handles in frames make.
* `frames_grow_by_one`: the frames of all handles that a call makes, and of all it announces.
-/

namespace BrowserLab.Script

variable {α β : Type} {P : α → Prop} {Q : β → Prop} {mayFail : Bool}

/-! ### What a computation gives -/

/-- The computation leaves the commands of the script alone, and what it comes to is so. -/
def Gives (Q : α → Prop) (x : Eval α) : Prop :=
  ∀ m, (x.runOn m).2.browser.commands = m.browser.commands ∧ ∀ a, (x.runOn m).1 = .ok a → Q a

namespace Gives

theorem pure {a : α} (ha : P a) : Gives P (pure a) :=
  fun _ => ⟨rfl, fun _ h => Except.ok.inj h ▸ ha⟩

theorem bind {x : Eval α} {f : α → Eval β} (hx : Gives P x) (hf : ∀ a, P a → Gives Q (f a)) :
    Gives Q (x >>= f) := by
  intro m
  obtain ⟨hcommands, hgives⟩ := hx m
  rw [Eval.runOn_bind]
  generalize x.runOn m = r at hcommands hgives
  obtain ⟨r, m'⟩ := r
  cases r with
  | error e => exact ⟨hcommands, nofun⟩
  | ok a =>
    obtain ⟨hcommands', hgives'⟩ := hf a (hgives a rfl) m'
    exact ⟨hcommands'.trans hcommands, hgives'⟩

theorem mono {x : Eval α} {P' : α → Prop} (hx : Gives P x) (hP : ∀ a, P a → P' a) : Gives P' x :=
  fun m => ⟨(hx m).1, fun a h => hP a ((hx m).2 a h)⟩

/-- What leaves the browser alone may come first. -/
theorem after {x : Eval α} {f : α → Eval β} (hx : Tame x) (hf : ∀ a, Gives Q (f a)) :
    Gives Q (x >>= f) := by
  refine bind (P := Anything) (fun m => ⟨?_, fun _ _ => trivial⟩) fun a _ => hf a
  obtain ⟨r, heap, browser, hrun, hr⟩ := hx m
  rw [hrun]
  match r, hr with
  | .ok _, hr => exact congrArg Browser.commands hr.symm
  | .error (.thrown _), hr => exact congrArg Browser.commands hr.2.symm
  | .error .exhausted, hr => exact hr.elim

/-- What fails gives nothing. -/
theorem typeError (message : String) : Gives P (Eval.typeError message : Eval α) :=
  fun _ => ⟨rfl, nofun⟩

theorem modifyBrowser {f : Browser → Browser} (hf : ∀ b, (f b).commands = b.commands) :
    Gives Anything (Eval.modifyBrowser f) :=
  fun m => ⟨hf m.browser, fun _ _ => trivial⟩

theorem visit (url : String) :
    Gives Anything (Eval.modifyBrowser fun b => { b with url := some url }) :=
  modifyBrowser fun _ => rfl

theorem emit (e : Event) : Gives Anything (Eval.emit e) := modifyBrowser fun _ => rfl

/-- An event, and a value behind it. -/
theorem emitThen (e : Event) {a : α} (ha : P a) : Gives P (Eval.emit e >>= fun _ => Pure.pure a) :=
  (emit e).bind fun _ _ => .pure ha

end Gives

/-! ### Frames of handles -/

/-- The path of the frame in which the handle is, if it is in one. -/
def Handle.frame? : Handle → Option FramePath
  | .page frame => some frame
  | .locator l => some l.frame
  | .expectation (.handle (.locator l)) => some l.frame
  | .chain t _ => some t.frame
  | .element t => some t.frame
  | _ => none

/-- No handle, and nothing that could hold one. -/
def Value.IsPlain : Value → Prop
  | .undefined | .null | .bool _ | .number _ | .string _ => True
  | _ => False

/-- A call makes a value: what was passed to it, or a plain one, or a handle.  The path of its frame,
if it has one, grows as told, and if it is a chain, then its subject is made so as well. -/
inductive Made (grows : FramePath → Prop) (passed : Value → Prop) : Value → Prop
  | passed {v : Value} (h : passed v) : Made grows passed v
  | plain {v : Value} (h : v.IsPlain) : Made grows passed v
  | handle {h : Handle} (frame : ∀ f, h.frame? = some f → grows f)
      (subject : ∀ t v, h = .chain t v → Made grows passed v) : Made grows passed (.handle h)

/-- What a reply makes.  To a callback it passes what it has made, and what the callback returns is
passed to it. -/
def Reply.Made (grows : FramePath → Prop) (passed : Value → Prop) : Reply → Prop
  | .value v => Script.Made grows passed v
  | .callback _ args settle =>
    (∀ v ∈ args, Script.Made grows passed v) ∧
      ∀ result, Script.Made grows (fun v => passed v ∨ v = result) (settle.apply result)

variable {grows : FramePath → Prop} {passed : Value → Prop}

namespace Made

theorem bare {h : Handle} (hframe : h.frame? = none) : Made grows passed (.handle h) := by
  refine .handle (fun f hf => ?_) ?_
  · rw [hframe] at hf
    cases hf
  · rintro t v rfl
    cases hframe

theorem page {f : FramePath} (hf : grows f) : Made grows passed (.handle (.page f)) :=
  .handle (fun _ h => Option.some.inj h ▸ hf) nofun

theorem locator {l : Locator} (hl : grows l.frame) : Made grows passed (.handle (.locator l)) :=
  .handle (fun _ h => Option.some.inj h ▸ hl) nofun

theorem element {t : Target} (ht : grows t.frame) : Made grows passed (.handle (.element t)) :=
  .handle (fun _ h => Option.some.inj h ▸ ht) nofun

theorem chain {t : Target} {v : Value} (ht : grows t.frame) (hv : Made grows passed v) :
    Made grows passed (.handle (.chain t v)) :=
  .handle (fun _ h => Option.some.inj h ▸ ht) fun _ _ h => (Handle.chain.inj h).2 ▸ hv

theorem elementChain {t : Target} (ht : grows t.frame) :
    Made grows passed (Surface.elementChain t) :=
  chain ht (element ht)

end Made

theorem Target.Finds.frame_eq {t found : Target} (h : t.Finds found) : found.frame = t.frame := by
  cases h with
  | within _ => rfl
  | among _ => rfl
  | containing frame _ _ => exact frame

namespace Gives

/-! ### Acting on elements -/

theorem fallback {h : Handle} (hh : Made grows passed (.handle h)) (method : String)
    (args : List Value) : Gives (Reply.Made grows passed) (Surface.fallback h method args) := by
  unfold Surface.fallback
  dsimp only
  cases args with
  | nil => exact typeError _
  | cons callee rest =>
    dsimp only
    split
    · exact .pure ⟨by simpa using hh, fun _ => .passed (.inr rfl)⟩
    · exact typeError _

theorem act (e : Event) (delay : Latency → Nat) :
    Gives (Reply.Made grows passed) (Surface.act e delay) := by
  unfold Surface.act
  refine (emit e).bind fun _ _ => .after (Does.browser _) fun latency => ?_
  exact (modifyBrowser fun _ => rfl).bind fun _ _ => .pure (.plain trivial)

theorem upload (l : Locator) (files : Value) :
    Gives (Reply.Made grows passed) (Surface.upload l files) :=
  .after (Does.heap _) fun _ => act _ _

/-! ### The page -/

theorem found {l : Locator} (hl : grows l.frame) :
    Gives (Reply.Made grows passed) (Surface.found l) :=
  .pure (.locator hl)

theorem locatorMethod {l : Locator} (hl : grows l.frame) {method : String}
    (henter : method = "frameLocator" → ∀ selector, grows (l.frame.child selector))
    (args : List Value) :
    Gives (Reply.Made grows passed) (Surface.locatorMethod l method args) := by
  have hlabel : Gives (Reply.Made grows passed) (do
      let label ← Surface.textArgument args 0
      Surface.locatorMethod.byLabel l label) :=
    .after (Does.textArgument _ _) fun _ => found hl
  unfold Surface.locatorMethod
  split
  · exact act _ _
  split
  · exact .after (Does.textArgument _ _) fun _ => act _ _
  split
  · exact .pure (.plain trivial)
  split
  · exact .after (Does.heap _) fun _ => act _ _
  · exact act _ _
  · exact upload _ _
  · exact .emitThen _ (.plain trivial)
  · exact .after (Does.textArgument _ _) fun _ => found hl
  · exact hlabel
  · exact hlabel
  · exact hlabel
  · exact .after (Does.roleName _) fun _ => found hl
  · exact .after (Does.textArgument _ _) fun _ => found hl
  · exact .after (Does.textArgument _ _) fun _ => found hl
  · refine .after (Does.textOption? _ _) fun text => ?_
    cases text <;> exact found hl
  · exact found hl
  · exact found hl
  · exact .after (Does.display _) fun _ => found hl
  · exact .after (Does.textArgument _ _) fun _ => .pure (.page (henter rfl _))
  · exact .pure (.plain trivial)
  · exact .pure (.plain trivial)
  · exact .pure (.plain trivial)
  · exact .pure (.plain trivial)
  · exact .pure (.plain trivial)
  · exact .pure (.plain trivial)
  · exact .pure (.plain trivial)
  · exact fallback (.locator hl) _ _

theorem waitFor (milliseconds : Float) :
    Gives (Reply.Made grows passed) (Surface.waitFor milliseconds) := by
  unfold Surface.waitFor
  split
  · exact (modifyBrowser fun _ => rfl).bind fun _ _ => .pure (.plain trivial)
  · exact .pure (.plain trivial)

theorem answer (out : Surface.Outgoing) : Gives Anything (Surface.answer out) :=
  fun _ => ⟨rfl, fun _ _ => trivial⟩

theorem pageMethod {frame : FramePath} (hframe : grows frame) {method : String}
    (henter : method = "frameLocator" ∨ method = "frame" → ∀ selector, grows (frame.child selector))
    (args : List Value) :
    Gives (Reply.Made grows passed) (Surface.pageMethod frame method args) := by
  have hlabel : Gives (Reply.Made grows passed) (do
      let label ← Surface.textArgument args 0
      Surface.pageMethod.byLabel frame label) :=
    .after (Does.textArgument _ _) fun _ => found hframe
  unfold Surface.pageMethod
  split
  · exact .pure (.plain trivial)
  split
  · exact .after (Does.textArgument _ _) fun _ =>
      locatorMethod (l := { frame, selector := some _ }) hframe (fun h => henter (.inl h)) _
  split
  · exact .after (Does.textArgument _ _) fun url => (visit url).bind fun _ _ => act _ _
  · exact .after (Does.textArgument _ _) fun _ => .pure (.page (henter (.inl rfl) _))
  · exact .after (Does.textArgument _ _) fun _ => .pure (.page (henter (.inr rfl) _))
  · exact .after (Does.textArgument _ _) fun _ => found hframe
  · exact hlabel
  · exact hlabel
  · exact hlabel
  · exact hlabel
  · exact .after (Does.roleName _) fun _ => found hframe
  · exact .after (Does.textArgument _ _) fun _ => found hframe
  · exact .after (Does.textArgument _ _) fun _ => found hframe
  · refine .after (Does.textArgument _ _) fun glob => ?_
    dsimp only
    split
    · exact .pure ⟨by simpa using Made.bare rfl, fun _ => .plain trivial⟩
    · exact typeError _
  · exact .after (Does.textArgument _ _) fun _ => upload _ _
  · exact .after (Does.number _) fun _ => waitFor _
  · split
    · exact (answer _).bind fun _ _ => .pure (.bare rfl)
    · exact .pure (.plain trivial)
  · exact .after (Does.browser _) fun _ => .pure (.plain trivial)
  · exact .pure (.plain trivial)
  · exact .pure (.plain trivial)
  · exact fallback (.page hframe) _ _

theorem expectMethod {subject : Value} (hself : Made grows passed (.handle (.expectation subject)))
    (method : String) (args : List Value) :
    Gives (Reply.Made grows passed) (Surface.expectMethod subject method args) := by
  unfold Surface.expectMethod
  split
  · refine .after (Does.textArgument _ _) fun text => ?_
    split
    · exact .emitThen _ hself
    · exact .pure hself
  · exact .pure hself

/-! ### Chains and elements -/

theorem callWithSubject {t : Target} (ht : grows t.frame) {subject : Value}
    (hsubject : passed subject) (args : List Value) {settle : Settle}
    (hsettle : ∀ result, Made grows (fun v => passed v ∨ v = result) (settle.apply result)) :
    Gives (Reply.Made grows passed) (Surface.callWithSubject t subject args settle) := by
  unfold Surface.callWithSubject
  dsimp only
  split
  · exact .pure ⟨by simpa using Made.passed hsubject, hsettle⟩
  · exact .pure (.chain ht (.passed hsubject))

theorem made_nextChain {t : Target} (ht : grows t.frame) {subject : Value}
    (hsubject : passed subject) (result : Value) :
    Made grows (fun v => passed v ∨ v = result) ((Settle.nextChain t subject).apply result) := by
  unfold Settle.apply
  dsimp only
  split
  · exact .passed (.inr rfl)
  · exact .chain ht (.passed (.inl hsubject))
  · exact .chain ht (.passed (.inl hsubject))
  · exact .chain ht (.passed (.inr rfl))

theorem containsTarget (base : Target) (args : List Value) :
    Gives (fun found => found.frame = base.frame) (Surface.containsTarget base args) := by
  intro m
  obtain ⟨found, hfinds, hrun⟩ := exists_runOn_containsTarget base args m
  rw [hrun]
  exact ⟨rfl, fun a h => Except.ok.inj h ▸ hfinds.frame_eq⟩

theorem chainMethod {t : Target} (ht : grows t.frame) {subject : Value}
    (hsubject : passed subject) {method : String}
    (henter : method = "its" → ∀ e, subject = .handle (.element e) →
      grows (Surface.enterFrame e).frame)
    (hfound : method = "its" → ∀ v, passed v) (args : List Value) :
    Gives (Reply.Made grows passed) (Surface.chainMethod t subject method args) := by
  have hsame : Reply.Made grows passed (.value (.handle (.chain t subject))) :=
    .chain ht (.passed hsubject)
  have hsameChain (result : Value) :
      Made grows (fun v => passed v ∨ v = result) ((Settle.sameChain t subject).apply result) :=
    .chain ht (.passed (.inl hsubject))
  unfold Surface.chainMethod
  dsimp only
  split
  · exact .emitThen _ hsame
  split
  · exact .pure hsame
  split
  · exact .after (Does.textArgument _ _) fun _ => .emitThen _ hsame
  · exact .after (Does.textArgument _ _) fun _ => .emitThen _ hsame
  · exact .after (Does.heap _) fun _ => .emitThen _ hsame
  · exact .after (Does.textArgument _ _) fun _ => .emitThen _ hsame
  · exact callWithSubject ht hsubject _ hsameChain
  · exact callWithSubject ht hsubject _ hsameChain
  · exact callWithSubject ht hsubject _ hsameChain
  · exact callWithSubject ht hsubject _ (made_nextChain ht hsubject)
  · exact callWithSubject ht hsubject _ (made_nextChain ht hsubject)
  · refine .after (Does.textArgument _ _) fun path => ?_
    split
    · split
      · exact .pure (.elementChain (henter rfl _ rfl))
      · exact .after (Does.heap _) fun _ => .pure (.chain ht (.passed (hfound rfl _)))
    · exact .after (Does.heap _) fun _ => .pure (.chain ht (.passed (hfound rfl _)))
  · refine .after (Does.textArgument _ _) fun name => ?_
    split
    · split
      · exact .pure (.chain ht (.plain trivial))
      · exact .pure hsame
    · exact .pure hsame
  · exact .after (Does.textArgument _ _) fun _ => .pure (.elementChain ht)
  · exact (containsTarget _ _).bind fun found hframe =>
      .pure (.elementChain (hframe.symm ▸ ht))
  · exact .after (Does.textArgument _ _) fun _ => .pure (.elementChain ht)
  · exact .pure (.elementChain ht)
  · exact .pure (.elementChain ht)
  · exact fallback hsame _ _

theorem elementMethod {t : Target} (ht : grows t.frame) {method : String}
    (henter : method = "contents" → grows (Surface.enterFrame t).frame) (args : List Value) :
    Gives (Reply.Made grows passed) (Surface.elementMethod t method args) := by
  unfold Surface.elementMethod
  split
  · exact .pure (.element (henter rfl))
  · exact .after (Does.textArgument _ _) fun _ => .pure (.element ht)
  · exact .pure (.plain trivial)
  · exact .pure (.plain trivial)
  · exact .pure (.plain trivial)
  · exact .pure (.plain trivial)
  · exact .pure (.plain trivial)
  · exact .emitThen _ (.element ht)
  · exact fallback (.element ht) _ _

end Gives

/-! ### Calls -/

/-- The methods that can enter a frame. -/
def entering : List String := ["frame", "frameLocator", "its", "contents"]

/-- The path is the same, or the method can enter a frame, and has put one segment at its inner
end. -/
def Grows (frame : FramePath) (method : String) (f : FramePath) : Prop :=
  f = frame ∨ method ∈ entering ∧ ∃ selector, f = frame.child selector

theorem grows_enterFrame (t : Target) {method : String} (h : method ∈ entering) :
    Grows t.frame method (Surface.enterFrame t).frame := by
  unfold Surface.enterFrame
  cases t.selector with
  | none => exact .inl rfl
  | some selector => exact .inr ⟨h, selector, rfl⟩

/-- The element whose document a call goes on with, in the frame that the element is. -/
def Handle.entered? (method path : String) : Handle → Option Target
  | .chain _ (.handle (.element e)) =>
    if method = "its" ∧ Text.contains path "contentDocument" = true then some e else none
  | .element t => if method = "contents" then some t else none
  | _ => none

theorem entered?_chain (t : Target) (subject : Value) {method : String} (hits : method ≠ "its")
    (path : String) : (Handle.chain t subject).entered? method path = none := by
  unfold Handle.entered?
  split
  · exact if_neg fun h => hits h.1
  · rename_i h
    cases h
  · rfl

/-- What a chain passes on: what is found in its subject, which is the subject itself along no
path. -/
def Handle.Passes (h : Heap) : Handle → Value → Prop
  | .chain _ subject, v => ∃ path, v = Surface.walkPath h subject path
  | _, _ => False

/-- A chain goes on with what is found in its subject, unless it enters a frame. -/
theorem runOn_its (t : Target) (subject : Value) (args : List Value) (m : Machine) :
    (Surface.chainMethod t subject "its" args).runOn m =
      (.ok (.value
        (match Handle.entered? "its" (m.heap.argumentText args 0) (.chain t subject) with
        | some e => Surface.elementChain (Surface.enterFrame e)
        | none => .handle (.chain t
          (Surface.walkPath m.heap subject (m.heap.argumentText args 0))))), m) := by
  refine (Eval.runOn_bind_ok (runOn_textArgument args 0 m)).trans ?_
  cases subject with
  | handle hd =>
    cases hd with
    | element e =>
      by_cases henters : Text.contains (m.heap.argumentText args 0) "contentDocument" = true
      · rw [Handle.entered?, if_pos ⟨rfl, henters⟩]
        dsimp only
        rw [if_pos henters]
        rfl
      · rw [Handle.entered?, if_neg fun h => henters h.2]
        dsimp only
        rw [if_neg henters]
        rfl
    | _ => rfl
  | _ => rfl

/-- Events of elements are about elements in the frame of the handle. -/
theorem framed_answerCall {h : Handle} {frame : FramePath} (hframe : h.frame? = some frame)
    (method : String) (args : List Value) :
    Atomic (Event.Framed frame) (Surface.answerCall h method args) := by
  unfold Handle.frame? at hframe
  split at hframe <;> cases hframe
  · exact (Atomic.pageMethod frame method args).mono fun h => h.mono fun _ he => he.2
  · exact (Atomic.locatorMethod _ method args).mono fun h => h.mono fun _ he => he.2
  · rename_i l
    exact (Atomic.expectMethod (.handle (.locator l)) method args).mono fun h =>
      h.mono fun _ he _ => he.2 l rfl
  · exact (Atomic.chainMethod _ _ method args).mono fun h => h.mono fun _ he _ => he.frame
  · exact (Atomic.elementMethod _ method args).mono fun h => h.mono fun _ he _ => he.frame

/-- Going on from the subject of a chain stays in the frame of the chain, or enters one that is in the
frame of an element. -/
theorem made_its (t : Target) (subject : Value) (args : List Value) (m : Machine) {reply : Reply}
    (hreply : ((Surface.answerCall (.chain t subject) "its" args).runOn m).1 = .ok reply) :
    let entered := Handle.entered? "its" (m.heap.argumentText args 0) (.chain t subject)
    reply.Made (Grows ((entered.map (·.frame)).getD t.frame) "its")
      (Handle.Passes m.heap (.chain t subject)) := by
  intro entered
  have hrun : (Surface.answerCall (.chain t subject) "its" args).runOn m = _ :=
    runOn_its t subject args m
  rw [hrun] at hreply
  cases hreply
  show Made _ _ _
  cases hentered : Handle.entered? "its" (m.heap.argumentText args 0) (.chain t subject) with
  | some e =>
    rw [show entered = some e from hentered]
    exact .elementChain (grows_enterFrame e (by decide))
  | none =>
    rw [show entered = none from hentered]
    exact .chain (.inl rfl) (.passed ⟨_, rfl⟩)

/-- What a call of a handle in a frame makes. -/
theorem made_answerCall {h : Handle} {frame : FramePath} (hframe : h.frame? = some frame)
    (method : String) (args : List Value) (m : Machine) :
    let entered := h.entered? method (m.heap.argumentText args 0)
    ∀ reply, ((Surface.answerCall h method args).runOn m).1 = .ok reply →
      reply.Made (Grows ((entered.map (·.frame)).getD frame) method) (h.Passes m.heap) := by
  intro entered reply hreply
  have hsame : Grows frame method frame := .inl rfl
  unfold Handle.frame? at hframe
  split at hframe <;> cases hframe
  · refine (Gives.pageMethod hsame (fun h selector => .inr ⟨?_, selector, rfl⟩) args m).2 _ hreply
    rcases h with rfl | rfl <;> decide
  · refine (Gives.locatorMethod hsame (fun h selector => .inr ⟨?_, selector, rfl⟩) args m).2 _
      hreply
    exact h ▸ by decide
  · refine (Gives.expectMethod (.handle (fun _ h => ?_) nofun) method args m).2 _ hreply
    exact Option.some.inj h ▸ hsame
  · rename_i t subject
    by_cases hits : method = "its"
    · subst hits
      exact made_its t subject args m hreply
    · have hentered : entered = none := entered?_chain t subject hits _
      rw [hentered]
      exact (Gives.chainMethod hsame ⟨"", rfl⟩ (fun h => absurd h hits) (fun h => absurd h hits)
        args m).2 _ hreply
  · rename_i t
    have hown : (entered.map (·.frame)).getD t.frame = t.frame := by
      show ((if method = "contents" then some t else none).map (·.frame)).getD t.frame = t.frame
      split <;> rfl
    rw [hown]
    have henters (h : method = "contents") : Grows t.frame method (Surface.enterFrame t).frame :=
      grows_enterFrame t (by rw [h]; decide)
    exact (Gives.elementMethod hsame henters args m).2 _ hreply

/-- **Frame paths grow one segment at a time.**  When a method of a handle in a frame is called, each
handle that the call makes is in the same frame, or in one whose path has one more segment at its
inner end, and only some methods enter such a frame; if the call goes on with the document of an
element, then that is so of the frame in which the element is.  All other handles have been passed
to the call.  What it announces of something done to elements, or asserted of them, is about
elements in the frame of the handle.  The commands that begin chains at elements begin them on the
page. -/
theorem frames_grow_by_one {h : Handle} {frame : FramePath} (hframe : h.frame? = some frame)
    (method : String) (args : List Value) (m : Machine) :
    let after := (Surface.invoke h method args).runOn m
    let entered := h.entered? method (m.heap.argumentText args 0)
    (∀ reply, after.1 = .ok reply →
      reply.Made (Grows ((entered.map (·.frame)).getD frame) method) (h.Passes m.heap)) ∧
      (∃ told : List Event, (∀ e ∈ told, e.Framed frame) ∧
        after.2.browser.timeline.toList =
          m.browser.timeline.toList ++ told.map (m.browser.clock, ·)) ∧
      ∀ command ∈ ["get", "contains"], ∃ found : Target, found.frame = .root ∧
        (Surface.invoke .cy command args).runOn m =
          (.ok (.value (Surface.elementChain found)), m.noted .cy command) := by
  intro after entered
  refine ⟨made_answerCall hframe method args (m.noted h method), ?_, ?_⟩
  · obtain ⟨r, heap, browser, hrun, hmoves⟩ :=
      (framed_answerCall hframe method args).moves (m.noted h method)
    obtain ⟨told, -, htold, htimeline, -⟩ := hmoves.announced
    refine ⟨told, htold, ?_⟩
    show ((Surface.answerCall h method args).runOn (m.noted h method)).2.browser.timeline.toList = _
    rw [hrun]
    exact htimeline
  · intro command hcommand
    simp only [List.mem_cons, List.not_mem_nil, or_false] at hcommand
    rcases hcommand with rfl | rfl
    · have htext := runOn_textArgument args 0 (m.noted .cy "get")
      exact ⟨_, rfl, Eval.runOn_bind_ok htext⟩
    · obtain ⟨found, hfinds, hrun⟩ := exists_runOn_containsTarget {} args (m.noted .cy "contains")
      exact ⟨found, hfinds.frame_eq, Eval.runOn_bind_ok hrun⟩

/-- A frame within a frame of the page. -/
theorem frames_grow_by_one_nested :
    let m := Machine.start (.unused .playwright)
    let outer : FramePath := ⟨["#outer"]⟩
    ∃ reply, ((Surface.invoke (.page outer) "frameLocator" [.string "#inner"]).runOn m).1 =
        .ok reply ∧
      reply.Made (Grows outer "frameLocator") (Handle.Passes m.heap (.page outer)) ∧
      reply = .value (.handle (.page ⟨["#outer", "#inner"]⟩)) := by
  intro m outer
  exact ⟨_, rfl, (frames_grow_by_one (h := .page outer) rfl "frameLocator" [.string "#inner"] m).1 _
    rfl, rfl⟩

end BrowserLab.Script
