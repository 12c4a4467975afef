import BrowserLab.Proofs.Script.Nearest
import BrowserLab.Proofs.Script.Run

/-!
# Where names are declared

What is executed in a scope declares names in that scope and in scopes that it opens, and in no
other; an expression declares names only in scopes that it opens.  All else that becomes of a
variable is that it is given another value, and this does not happen to constants.

* `Scopes.Confined`: what may have become of the variables of scopes.
* `DeclaresIn`: a computation declares names in a given scope, if in any that there are already.
* `Declaring.all`: all functions of the evaluator do so, with every fuel.
-/

namespace BrowserLab.Script

open Eval

namespace Scopes

variable {α : Type} {s s' s₁ s₂ s₃ : Scopes α} {o : Option Nat}

/-- A variable is what it was, or has been given another value, which is not done to a constant. -/
def Lasts (x x' : Option (Variable α)) : Prop :=
  x' = x ∨ ∃ v v', x = some ⟨v, true⟩ ∧ x' = some ⟨v', true⟩

theorem Lasts.trans {x x' x'' : Option (Variable α)} (h : Lasts x x') (h' : Lasts x' x'') :
    Lasts x x'' := by
  obtain rfl | ⟨v, v', rfl, rfl⟩ := h
  · exact h'
  · obtain rfl | ⟨_, v'', -, rfl⟩ := h'
    · exact .inr ⟨v, v', rfl, rfl⟩
    · exact .inr ⟨v, v'', rfl, rfl⟩

/-- All that has been declared in scopes that there were before has been declared in scope `o`. -/
structure Confined (o : Option Nat) (s s' : Scopes α) : Prop where
  size : s.frames.size ≤ s'.frames.size
  own : ∀ i name, i < s.frames.size → some i ≠ o → Lasts (s.own? i name) (s'.own? i name)

namespace Confined

theorem refl (s : Scopes α) : s.Confined o s := ⟨Nat.le_refl _, fun _ _ _ _ => .inl rfl⟩

theorem trans (h : Confined o s₁ s₂) (h' : Confined o s₂ s₃) : Confined o s₁ s₃ where
  size := Nat.le_trans h.size h'.size
  own i name hi hne :=
    (h.own i name hi hne).trans (h'.own i name (Nat.lt_of_lt_of_le hi h.size) hne)

theorem declare (s : Scopes α) (scope : Nat) (name : String) (v : α) (mutable : Bool) :
    s.Confined (some scope) (s.declare scope name v mutable) where
  size := Nat.le_of_eq (Array.size_modify ..).symm
  own i other _ hne := by
    refine .inl ?_
    rw [own?_declare, if_neg]
    rintro ⟨rfl, -⟩
    exact hne rfl

/-- To assign declares nothing, and is not done to constants. -/
theorem assign (s : Scopes α) (scope : Nat) (name : String) (v : α) :
    s.Confined o (s.assign scope name v).2 := by
  unfold Scopes.assign
  split
  · exact .refl s
  · rename_i holder x hfound
    split
    · rename_i hmutable
      refine ⟨Nat.le_of_eq (Array.size_modify ..).symm, fun i other _ _ => ?_⟩
      rw [own?_declare]
      split
      · rename_i hhere
        obtain ⟨rfl, rfl, -⟩ := hhere
        obtain ⟨value, mutable⟩ := x
        obtain rfl : mutable = true := hmutable
        exact .inr ⟨value, v, own?_of_findFrom hfound, rfl⟩
      · exact .inl rfl
    · exact .refl s

/-- What is declared in a scope that is opened is not declared in those that there were before. -/
theorem inner {parent : Nat} (h : Confined (some s.frames.size) (s.child parent).2 s') :
    Confined o s s' := by
  have hsize : (s.child parent).2.frames.size = s.frames.size + 1 := Array.size_push _
  refine ⟨?_, fun i name hi _ => ?_⟩
  · have hle := h.size
    omega
  · have hown := h.own i name (by omega) fun heq => absurd (Option.some.inj heq) (by omega)
    rwa [own?_child] at hown

end Confined

end Scopes

/-- However the computation ends, all that it has declared in scopes that there were before it has
declared in scope `o`. -/
def DeclaresIn (o : Option Nat) {α : Type} (x : Eval α) : Prop :=
  ∀ m : Machine, m.scopes.Confined o (x.runOn m).2.scopes

variable {o : Option Nat} {α β : Type} {n : Nat}

namespace DeclaresIn

/-! ### Putting computations together -/

/-- A computation that leaves the scopes as they are. -/
theorem same {x : Eval α} (hx : ∀ m, (x.runOn m).2.scopes = m.scopes) : DeclaresIn o x := by
  intro m
  rw [hx]
  exact .refl m.scopes

theorem tame {x : Eval α} (hx : Tame x) : DeclaresIn o x := by
  refine same fun m => ?_
  obtain ⟨r, heap, browser, hrun, -⟩ := hx m
  rw [hrun]

theorem pure (a : α) : DeclaresIn o (pure a : Eval α) := same fun _ => rfl

theorem throw (e : Stop) : DeclaresIn o (throw e : Eval α) := same fun _ => rfl

theorem bind {x : Eval α} {f : α → Eval β} (hx : DeclaresIn o x) (hf : ∀ a, DeclaresIn o (f a)) :
    DeclaresIn o (x >>= f) := by
  intro m
  have hconfined := hx m
  rw [Eval.runOn_bind]
  generalize x.runOn m = r at hconfined
  match r with
  | (.ok a, m') => exact hconfined.trans (hf a m')
  | (.error e, m') => exact hconfined

theorem attempt {x : Eval α} (hx : DeclaresIn o x) : DeclaresIn o (Eval.attempt x) := by
  intro m
  have hconfined := hx m
  rw [Eval.runOn_attempt]
  generalize x.runOn m = r at hconfined
  match r with
  | (.ok a, m') => exact hconfined
  | (.error (.thrown v), m') => exact hconfined
  | (.error .exhausted, m') => exact hconfined

/-- A scope is opened, and then names are declared in it. -/
theorem opening {parent : Nat} {f : Nat → Eval α} (hf : ∀ inner, DeclaresIn (some inner) (f inner)) :
    DeclaresIn o (openScope parent >>= f) := by
  intro m
  exact .inner (hf m.scopes.frames.size { m with scopes := (m.scopes.child parent).2 })

theorem step : DeclaresIn o Eval.step := by
  refine bind (same fun m => ?_) fun goesOn => ?_
  · show m.takeStep.2.scopes = m.scopes
    unfold Machine.takeStep
    split <;> rfl
  · cases goesOn with
    | true => exact pure ()
    | false => exact throw _

/-! ### Variables -/

theorem declare (scope : Nat) (name : String) (v : Value) (mutable : Bool) :
    DeclaresIn (some scope) (Eval.declare scope name v mutable) :=
  fun m => .declare m.scopes scope name v mutable

theorem assignName (scope : Nat) (name : String) (v : Value) :
    DeclaresIn o (Eval.assignName scope name v) := by
  refine bind (fun m => .assign m.scopes scope name v) fun failure => ?_
  cases failure with
  | none => exact pure ()
  | some e => exact tame (.raise _ _)

/-! ### Functions that are there from the beginning, and handles -/

theorem registerTest (args : List Value) : DeclaresIn o (registerTest args) := by
  unfold Script.registerTest
  split
  · exact (same fun _ => rfl).bind fun _ => pure _
  · exact (tame (.display _)).bind fun _ => tame (.typeError _)

theorem registerHook (args : List Value) : DeclaresIn o (registerHook args) := by
  unfold Script.registerHook
  split
  · exact (same fun _ => rfl).bind fun _ => pure _
  · exact tame (.typeError _)

theorem writeLine (level : LogLevel) (args : List Value) : DeclaresIn o (writeLine level args) :=
  (tame (.heap id)).bind fun _ => (same fun _ => rfl).bind fun _ => pure _

theorem draw (args : List Value) : DeclaresIn o (mathFunction .random args) :=
  (tame (.number _)).bind fun _ => (same fun _ => rfl).bind fun _ => pure _

theorem callBuiltin (b : Builtin) (args : List Value) : DeclaresIn o (callBuiltin b args) := by
  by_cases hb : b.Reaches
  · unfold Script.callBuiltin
    cases b with
    | test => exact registerTest args
    | beforeEach => exact registerHook args
    | console level => exact (writeLine level args).bind fun _ => pure _
    | math f =>
      cases f with
      | random => exact (draw args).bind fun _ => pure _
      | _ => exact hb.elim
    | _ => exact hb.elim
  · exact tame (.callBuiltin hb args)

theorem invoke (h : Handle) (method : String) (args : List Value) :
    DeclaresIn o (Surface.invoke h method args) := by
  refine same fun m => ?_
  obtain ⟨r, heap, browser, hrun, -⟩ := Atomic.invoke h method args m
  rw [hrun]

end DeclaresIn

/-- With fuel `n`, expressions and calls declare names only in scopes that they open, and what binds
names or is executed in a scope declares them there. -/
structure Declaring (n : Nat) : Prop where
  eval : ∀ {o} e scope, DeclaresIn o (eval n e scope)
  evalTemplate : ∀ {o} parts scope, DeclaresIn o (evalTemplate n parts scope)
  evalElements : ∀ {o} items scope, DeclaresIn o (evalElements n items scope)
  evalProperties : ∀ {o} properties scope, DeclaresIn o (evalProperties n properties scope)
  evalUnary : ∀ {o} op operand scope, DeclaresIn o (evalUnary n op operand scope)
  assign : ∀ {o} target v scope, DeclaresIn o (assign n target v scope)
  call : ∀ {o} f args, DeclaresIn o (call n f args)
  settle : ∀ {o} r, DeclaresIn o (settle n r)
  callClosure : ∀ {o} closure args, DeclaresIn o (callClosure n closure args)
  bindParams : ∀ params i args scope, DeclaresIn (some scope) (bindParams n params i args scope)
  withDefault : ∀ {o} v default scope, DeclaresIn o (withDefault n v default scope)
  callMethod : ∀ {o} this name args, DeclaresIn o (callMethod n this name args)
  visitItems : ∀ {o} visit callback ref items i kept,
    DeclaresIn o (visitItems n visit callback ref items i kept)
  reduceArray : ∀ {o} ref args, DeclaresIn o (reduceArray n ref args)
  reduceItems : ∀ {o} callback ref items i acc,
    DeclaresIn o (reduceItems n callback ref items i acc)
  bind : ∀ pattern v scope mutable, DeclaresIn (some scope) (bind n pattern v scope mutable)
  bindMembers : ∀ bindings v scope mutable,
    DeclaresIn (some scope) (bindMembers n bindings v scope mutable)
  bindItems : ∀ items i vs scope mutable,
    DeclaresIn (some scope) (bindItems n items i vs scope mutable)
  exec : ∀ s scope, DeclaresIn (some scope) (exec n s scope)
  execHandler : ∀ {o} param thrown handler scope,
    DeclaresIn o (execHandler n param thrown handler scope)
  execDeclarations : ∀ declarations scope mutable,
    DeclaresIn (some scope) (execDeclarations n declarations scope mutable)
  execScoped : ∀ s scope, DeclaresIn (some scope) (execScoped n s scope)
  execBlock : ∀ body scope, DeclaresIn (some scope) (execBlock n body scope)
  execAll : ∀ body scope, DeclaresIn (some scope) (execAll n body scope)
  execForOf : ∀ {o} pattern mutable body items scope,
    DeclaresIn o (execForOf n pattern mutable body items scope)
  execFor : ∀ test update body scope, DeclaresIn (some scope) (execFor n test update body scope)
  execWhile : ∀ test body scope, DeclaresIn (some scope) (execWhile n test body scope)

/-- The judgement that names are declared where they are bound. -/
def declaring : Judgement where
  handles := anyHandle
  -- any link would do, since nothing is said of browsers
  link := .same .playwright
  suits := (upholds_same .playwright).toSuits
  Holds o _ _ x _ := DeclaresIn o x
  imp hx _ := hx
  exhausted := .throw _
  bind hx hf := hx.bind hf
  attempt hx := hx.attempt
  tame hx _ := .tame hx
  step := .step
  opening hf := .opening hf
  lookup? _ _ := .same fun _ => rfl
  declare _ scope name mutable := .declare scope name _ mutable
  assignName _ scope name := .assignName scope name _
  callBuiltin _ b := .callBuiltin b _
  invoke _ _ method := .invoke _ method _

/-- **Names are declared where they are bound**, with every fuel. -/
theorem Declaring.all (n : Nat) : Declaring n := by
  have h : Walked declaring n n := .all (Nat.le_refl n)
  exact {
    eval := h.eval (c := False)
    evalTemplate := h.evalTemplate (c := False)
    evalElements := h.evalElements (c := False)
    evalProperties := h.evalProperties (c := False)
    evalUnary := h.evalUnary (c := False)
    assign := fun target _ => h.assign target False.elim
    call := fun _ _ => h.call False.elim False.elim
    settle := fun _ => h.settle False.elim
    callClosure := fun closure _ => h.callClosure closure False.elim
    bindParams := fun params i _ => h.bindParams params i False.elim
    withDefault := fun _ => h.withDefault False.elim
    callMethod := fun _ name _ => h.callMethod False.elim False.elim name
    visitItems := fun visit _ ref _ i _ =>
      h.visitItems visit False.elim False.elim False.elim ref i
    reduceArray := fun ref _ => h.reduceArray ref False.elim
    reduceItems := fun _ ref _ i _ => h.reduceItems False.elim False.elim False.elim ref i
    bind := fun pattern _ => h.bind pattern False.elim
    bindMembers := fun bindings _ => h.bindMembers bindings False.elim
    bindItems := fun items i _ => h.bindItems items i False.elim
    exec := h.exec (c := False)
    execHandler := fun param _ => h.execHandler param False.elim
    execDeclarations := h.execDeclarations (c := False)
    execScoped := h.execScoped (c := False)
    execBlock := h.execBlock (c := False)
    execAll := h.execAll (c := False)
    execForOf := fun pattern mutable body _ => h.execForOf pattern mutable body False.elim
    execFor := h.execFor (c := False)
    execWhile := h.execWhile (c := False) }

/-! ### Programs -/

theorem runs_declaring : declaring.Runs where
  style := .same fun _ => rfl
  hooks := .same fun _ => rfl
  takeTests := .same fun _ => rfl

/-- No run of a program declares anything in a scope that there was before. -/
theorem confined_runFor (steps : Option Nat) (fuel : Nat) (p : Program) (browser : Browser) :
    (Machine.start browser).scopes.Confined none (p.runFor steps fuel browser).2.scopes := by
  rw [runFor_eq_ofResult, Ending.snd_ofResult]
  generalize Machine.start browser = m
  have hdeclares : DeclaresIn none (runProgram fuel p) :=
    runs_declaring.runProgram (c := False) (Nat.le_refl fuel) p
  exact hdeclares { m with stepsLeft := steps }

end BrowserLab.Script
