import BrowserLab.Proofs.Script.Evaluation
import BrowserLab.Proofs.Script.Passage

/-!
# The evaluator is watched

A `Watch` says which machines are fine, by the handles that they hold and by their browsers, and
which ones are excused: along a passage, so for good.  `Guards W c Q x` says two things of a
computation.  It leads along the passage, whatever it is given.  And if `c` holds, it takes fine
machines to fine ones with a result as `Q` tells, unless it ends on one that is excused.

What is known of the values that a computation works with is part of `c`, since nothing is known of
them any more once a machine is excused.

* `Guards.bind`, `Guards.attempt`: this is kept by the ways in which computations are put together.
* `Guards.of`: it is so for what leads along the passage and keeps handles and browsers.
* `Watched.all`: with every fuel evaluation guards whatever properties, draws and calls of handles
  keep up.
* `Led.all`: so evaluation leads along every passage.
-/

namespace BrowserLab.Script

/-- What machines are watched for. -/
structure Watch where
  passage : Passage
  handles : Handle → Prop
  browser : Browser → Prop
  excused : Machine → Prop
  lasting : ∀ {m m' : Machine}, passage m m' → excused m → excused m'

namespace Watch

variable (W : Watch)

/-- A browser that is as it should be, next to itself. -/
def link : Link := .endless fun b b' => b' = b ∧ W.browser b

/-- The machine holds handles, and has a browser, as it should. -/
structure Fine (m : Machine) : Prop where
  held : m.All W.handles
  browser : W.browser m.browser

variable {W}

theorem Fine.alike {m : Machine} (h : W.Fine m) : Alike W.handles W.link m m :=
  ⟨rfl, h.held, rfl, h.browser⟩

end Watch

section Definitions

variable (W : Watch) (c : Prop)

/-- The computation leads along the passage; and if `c` holds, it keeps machines fine unless they
are excused. -/
structure Guards {α : Type} (Q : α → Prop) (x : Eval α) : Prop where
  leads : Leads W.passage x
  keeps : c → ∀ m, W.Fine m →
    W.excused (x.runOn m).2 ∨ Sound W.handles Q (x.runOn m).1 ∧ W.Fine (x.runOn m).2

end Definitions

variable {W : Watch} {c : Prop} {α β : Type} {Q : α → Prop} {x : Eval α}

namespace Guards

theorem of (hlead : Leads W.passage x) (hkeep : c → Keeps W.handles W.link Q x) :
    Guards W c Q x := by
  refine ⟨hlead, fun hc m hm => .inr ?_⟩
  have hend := (hkeep hc).alike m m hm.alike
  generalize x.runOn m = r at hend
  cases hend with
  | ok ha h => exact ⟨ha, h.held, h.browsers.2⟩
  | thrown hv h => exact ⟨hv, h.held, h.browsers.2⟩
  | exhausted h => exact ⟨trivial, h.held, h.browsers.2⟩
  | spent h => exact h.spent.elim

theorem imp {c' : Prop} (hx : Guards W c Q x) (h : c' → c) : Guards W c' Q x :=
  ⟨hx.leads, fun hc => hx.keeps (h hc)⟩

theorem bind {Q' : β → Prop} {f : α → Eval β} (hx : Guards W c Q x)
    (hf : ∀ a, Guards W (c ∧ Q a) Q' (f a)) : Guards W c Q' (x >>= f) := by
  refine ⟨hx.leads.bind fun a => (hf a).leads, fun hc m hm => ?_⟩
  have hend := hx.keeps hc m hm
  rw [Eval.runOn_bind]
  generalize x.runOn m = r at hend
  match r, hend with
  | (.ok a, m'), .inl hexcused => exact .inl (W.lasting ((hf a).leads m') hexcused)
  | (.ok a, m'), .inr ⟨ha, hm'⟩ => exact (hf a).keeps ⟨hc, ha⟩ m' hm'
  | (.error e, m'), .inl hexcused => exact .inl hexcused
  | (.error e, m'), .inr ⟨he, hm'⟩ => exact .inr ⟨he.error, hm'⟩

theorem attempt (hx : Guards W c Q x) :
    Guards W c (Follows.Attempted W.handles Q) (Eval.attempt x) := by
  refine ⟨hx.leads.attempt, fun hc m hm => ?_⟩
  have hend := hx.keeps hc m hm
  rw [Eval.runOn_attempt]
  generalize x.runOn m = r at hend
  match r, hend with
  | (.ok a, m'), hend => exact hend
  | (.error (.thrown v), m'), hend => exact hend
  | (.error .exhausted, m'), hend => exact hend

theorem openScope (parent : Nat) : Guards W c Anything (Eval.openScope parent) :=
  of (.openScope parent) fun _ => .openScope parent

end Guards

/-- What machines are watched for outlasts properties, draws and calls of handles. -/
structure Watch.Lasts (W : Watch) : Prop where
  suits : Suits W.handles W.link
  invoke : ∀ {c : Prop} {h : Handle} {args : List Value}, (c → h.All W.handles) →
    (c → AllValues W.handles args) → ∀ method,
      Guards W c (Reply.All W.handles) (Surface.invoke h method args)

/-- With fuel `n` the evaluator guards what machines are watched for, if it is given handles as it
should be. -/
structure Watched (W : Watch) (n : Nat) : Prop where
  eval : ∀ {c} e scope, Guards W c (Value.All W.handles) (eval n e scope)
  evalTemplate : ∀ {c} parts scope, Guards W c Anything (evalTemplate n parts scope)
  evalElements : ∀ {c} items scope,
    Guards W c (AllValues W.handles) (evalElements n items scope)
  evalProperties : ∀ {c} properties scope,
    Guards W c (Dict.Holds (Value.All W.handles)) (evalProperties n properties scope)
  evalUnary : ∀ {c} op operand scope,
    Guards W c (Value.All W.handles) (evalUnary n op operand scope)
  assign : ∀ {c} target {v}, (c → v.All W.handles) → ∀ scope,
    Guards W c Anything (assign n target v scope)
  call : ∀ {c f args}, (c → f.All W.handles) → (c → AllValues W.handles args) →
    Guards W c (Value.All W.handles) (call n f args)
  settle : ∀ {c r}, (c → r.All W.handles) → Guards W c (Value.All W.handles) (settle n r)
  callClosure : ∀ {c} closure {args}, (c → AllValues W.handles args) →
    Guards W c (Value.All W.handles) (callClosure n closure args)
  bindParams : ∀ {c} params i {args}, (c → AllValues W.handles args) → ∀ scope,
    Guards W c Anything (bindParams n params i args scope)
  withDefault : ∀ {c v}, (c → v.All W.handles) → ∀ default scope,
    Guards W c (Value.All W.handles) (withDefault n v default scope)
  callMethod : ∀ {c this args}, (c → this.All W.handles) → (c → AllValues W.handles args) →
    ∀ name, Guards W c (Value.All W.handles) (callMethod n this name args)
  visitItems : ∀ {c} visit {callback items kept}, (c → callback.All W.handles) →
    (c → AllValues W.handles items) → (c → AllValues W.handles kept) → ∀ ref i,
      Guards W c (Value.All W.handles) (visitItems n visit callback ref items i kept)
  reduceArray : ∀ {c} ref {args}, (c → AllValues W.handles args) →
    Guards W c (Value.All W.handles) (reduceArray n ref args)
  reduceItems : ∀ {c callback items acc}, (c → callback.All W.handles) →
    (c → AllValues W.handles items) → (c → acc.All W.handles) → ∀ ref i,
      Guards W c (Value.All W.handles) (reduceItems n callback ref items i acc)
  bind : ∀ {c} pattern {v}, (c → v.All W.handles) → ∀ scope mutable,
    Guards W c Anything (bind n pattern v scope mutable)
  bindMembers : ∀ {c} bindings {v}, (c → v.All W.handles) → ∀ scope mutable,
    Guards W c Anything (bindMembers n bindings v scope mutable)
  bindItems : ∀ {c} items i {vs}, (c → AllValues W.handles vs) → ∀ scope mutable,
    Guards W c Anything (bindItems n items i vs scope mutable)
  exec : ∀ {c} s scope, Guards W c (Completion.All W.handles) (exec n s scope)
  execHandler : ∀ {c} param {thrown}, (c → thrown.All W.handles) → ∀ handler scope,
    Guards W c (Follows.Attempted W.handles (Completion.All W.handles))
      (execHandler n param thrown handler scope)
  execDeclarations : ∀ {c} declarations scope mutable,
    Guards W c Anything (execDeclarations n declarations scope mutable)
  execScoped : ∀ {c} s scope, Guards W c (Completion.All W.handles) (execScoped n s scope)
  execBlock : ∀ {c} body scope, Guards W c (Completion.All W.handles) (execBlock n body scope)
  execAll : ∀ {c} body scope, Guards W c (Completion.All W.handles) (execAll n body scope)
  execForOf : ∀ {c} pattern mutable body {items}, (c → AllValues W.handles items) → ∀ scope,
    Guards W c (Completion.All W.handles) (execForOf n pattern mutable body items scope)
  execFor : ∀ {c} test update body scope,
    Guards W c (Completion.All W.handles) (execFor n test update body scope)
  execWhile : ∀ {c} test body scope,
    Guards W c (Completion.All W.handles) (execWhile n test body scope)

/-- The judgement that a computation guards what machines are watched for. -/
def Watch.Lasts.guarding (hW : W.Lasts) : Judgement where
  handles := W.handles
  link := W.link
  suits := hW.suits
  Holds _ c Q x _ := Guards W c Q x
  imp hx h := hx.imp h
  exhausted := .of (.throw _) fun _ => Follows.exhausted
  bind hx hf := hx.bind hf
  attempt hx := hx.attempt
  tame hx hkeep := .of hx.leads hkeep
  step := .of .step fun _ => .step
  opening hf := (Guards.openScope _).bind fun inner => (hf inner).imp And.left
  lookup? scope name := .of (.lookup? scope name) fun _ => .lookup? scope name
  declare hv scope name mutable := .of (.declare scope name _ mutable) fun hc =>
    .declare (hv hc) scope name mutable
  assignName hv scope name := .of (.assignName scope name _) fun hc =>
    .assignName (hv hc) scope name
  callBuiltin hargs b := .of (.callBuiltin b _) fun hc => hW.suits.callBuiltin b (hargs hc)
  invoke hh hargs method := hW.invoke hh hargs method

/-- **Evaluation guards what machines are watched for**, with every fuel, if properties, draws and
calls of handles do. -/
theorem Watched.all (hW : W.Lasts) (n : Nat) : Watched W n := by
  have h : Walked hW.guarding n n := .all (Nat.le_refl n)
  exact {
    eval := h.eval (o := none)
    evalTemplate := h.evalTemplate (o := none)
    evalElements := h.evalElements (o := none)
    evalProperties := h.evalProperties (o := none)
    evalUnary := h.evalUnary (o := none)
    assign := h.assign (o := none)
    call := h.call (o := none)
    settle := h.settle (o := none)
    callClosure := h.callClosure (o := none)
    bindParams := h.bindParams
    withDefault := h.withDefault (o := none)
    callMethod := h.callMethod (o := none)
    visitItems := h.visitItems (o := none)
    reduceArray := h.reduceArray (o := none)
    reduceItems := h.reduceItems (o := none)
    bind := h.bind
    bindMembers := h.bindMembers
    bindItems := h.bindItems
    exec := h.exec
    execHandler := h.execHandler (o := none)
    execDeclarations := h.execDeclarations
    execScoped := h.execScoped
    execBlock := h.execBlock
    execAll := h.execAll
    execForOf := h.execForOf (o := none)
    execFor := h.execFor
    execWhile := h.execWhile }

/-! ### Passages -/

/-- Machines are watched for nothing but where they are led. -/
def Watch.along (T : Passage) : Watch where
  passage := T
  handles := anyHandle
  browser _ := False
  excused _ := False
  lasting _ := id

theorem Watch.lasts_along (T : Passage) : (Watch.along T).Lasts where
  suits :=
    { expectation := fun _ => trivial
      property := fun _ _ v _ => v.all_any
      random := ⟨fun _ _ h => h.browsers.2.elim, fun _ _ h => h.elim⟩ }
  invoke _ _ method := ⟨T.invoke _ method _, fun _ _ hm => hm.browser.elim⟩

/-- With fuel `n` the evaluator leads along a passage. -/
structure Led (T : Passage) (n : Nat) : Prop where
  eval : ∀ e scope, Leads T (eval n e scope)
  call : ∀ f args, Leads T (call n f args)
  execScoped : ∀ s scope, Leads T (execScoped n s scope)
  execBlock : ∀ body scope, Leads T (execBlock n body scope)

/-- **Evaluation leads along every passage**, with every fuel. -/
theorem Led.all {T : Passage} (n : Nat) : Led T n := by
  have h := Watched.all (Watch.lasts_along T) n
  have hcall (f : Value) (args : List Value) :
      Guards (Watch.along T) False (Value.All anyHandle) (Script.call n f args) :=
    h.call False.elim False.elim
  exact ⟨fun e scope => (h.eval (c := False) e scope).leads, fun f args => (hcall f args).leads,
    fun s scope => (h.execScoped (c := False) s scope).leads,
    fun body scope => (h.execBlock (c := False) body scope).leads⟩

end BrowserLab.Script
