import BrowserLab.Proofs.Script.Along
import BrowserLab.Proofs.Script.Tame

/-!
# Judgements on evaluation

What holds of every function of the evaluator is shown by one walk through all of them, and the walk
is the same whatever it is that is to be shown.  A `Judgement` is all that it has to be told.
`J.Holds o c Q x y` is what the judgement says of two computations that are put together in the same
way, with different fuel perhaps: if `c` holds, results are as `Q` tells; and names that are declared
in scopes that there were before are declared in scope `o`.  The other fields say that this holds of
what evaluation is put together from, and that it outlasts putting it together.

* `Judgement.tame`: what works on the heap only is judged by the handles that it keeps.
* `Judgement.afterStep`, `Judgement.hoist`: rules that follow from these.
* `Walked J n k`: the judgement holds of every function of the evaluator with fuels `n` and `k`.
-/

namespace BrowserLab.Script

/-- A statement about computations that outlasts putting them together. -/
structure Judgement where
  handles : Handle → Prop
  link : Link
  suits : Suits handles link
  Holds : {α : Type} → Option Nat → Prop → (α → Prop) → Eval α → Eval α → Prop
  imp : ∀ {α : Type} {o c c'} {Q : α → Prop} {x y : Eval α},
    Holds o c Q x y → (c' → c) → Holds o c' Q x y
  exhausted : ∀ {α : Type} {o c} {Q : α → Prop} {y : Eval α}, Holds o c Q Eval.exhausted y
  bind : ∀ {α β : Type} {o c} {Q : α → Prop} {Q' : β → Prop} {x y : Eval α} {f g : α → Eval β},
    Holds o c Q x y → (∀ a, Holds o (c ∧ Q a) Q' (f a) (g a)) → Holds o c Q' (x >>= f) (y >>= g)
  attempt : ∀ {α : Type} {o c} {Q : α → Prop} {x y : Eval α}, Holds o c Q x y →
    Holds o c (Follows.Attempted handles Q) (Eval.attempt x) (Eval.attempt y)
  tame : ∀ {α : Type} {o c} {Q : α → Prop} {x : Eval α},
    Tame x → (c → Keeps handles link Q x) → Holds o c Q x x
  step : ∀ {o c}, Holds o c Anything Eval.step Eval.step
  opening : ∀ {α : Type} {o c} {Q : α → Prop} {parent} {f g : Nat → Eval α},
    (∀ inner, Holds (some inner) c Q (f inner) (g inner)) →
      Holds o c Q (Eval.openScope parent >>= f) (Eval.openScope parent >>= g)
  lookup? : ∀ {o c} scope name,
    Holds o c (AllOption handles) (Eval.lookup? scope name) (Eval.lookup? scope name)
  declare : ∀ {c v}, (c → v.All handles) → ∀ scope name mutable, Holds (some scope) c Anything
    (Eval.declare scope name v mutable) (Eval.declare scope name v mutable)
  assignName : ∀ {o c v}, (c → v.All handles) → ∀ scope name,
    Holds o c Anything (Eval.assignName scope name v) (Eval.assignName scope name v)
  callBuiltin : ∀ {o c args}, (c → AllValues handles args) → ∀ b,
    Holds o c (Reply.All handles) (callBuiltin b args) (callBuiltin b args)
  invoke : ∀ {o c} {h : Handle} {args}, (c → h.All handles) → (c → AllValues handles args) →
    ∀ method, Holds o c (Reply.All handles) (Surface.invoke h method args)
      (Surface.invoke h method args)

namespace Judgement

variable (J : Judgement) {α : Type} {o : Option Nat} {c : Prop} {Q : α → Prop} {x y : Eval α}

/-- A step is taken before the computation. -/
theorem afterStep (hx : J.Holds o c Q x y) :
    J.Holds o c Q (Eval.step >>= fun _ => x) (Eval.step >>= fun _ => y) :=
  J.bind J.step fun _ => J.imp hx And.left

/-! ### Values and errors -/

theorem pure {a : α} (ha : c → Q a) : J.Holds o c Q (pure a) (pure a) :=
  J.tame (.pure a) fun hc => .pure (ha hc)

theorem throwValue {v : Value} (hv : c → v.All J.handles) :
    J.Holds o c Q (Eval.throwValue v) (Eval.throwValue v) :=
  J.tame (.throwValue v) fun hc => .throwValue (hv hc)

theorem resume {r : Except Value α} (hr : c → Follows.Attempted J.handles Q r) :
    J.Holds o c Q (Eval.resume r) (Eval.resume r) := by
  cases r with
  | ok a => exact J.pure hr
  | error v => exact J.throwValue hr

theorem typeError (message : String) :
    J.Holds o c Q (Eval.typeError message) (Eval.typeError message) :=
  J.tame (.typeError message) fun _ => .typeError message

theorem display (v : Value) : J.Holds o c Anything (Eval.display v) (Eval.display v) :=
  J.tame (.display v) fun _ => .display v

theorem number (v : Value) : J.Holds o c Anything (Eval.number v) (Eval.number v) :=
  J.tame (.number v) fun _ => .number v

/-! ### Working on the memory -/

theorem heap {f : Heap → α} (hf : ∀ h, h.All J.handles → Q (f h)) :
    J.Holds o c Q (Eval.heap f) (Eval.heap f) :=
  J.tame (.heap f) fun _ => .heap hf

theorem newObject {members : List (String × Value)}
    (hm : c → Dict.Holds (Value.All J.handles) members) :
    J.Holds o c (Value.All J.handles) (Eval.newObject members) (Eval.newObject members) :=
  J.tame (.newObject members) fun hc => .newObject (hm hc)

theorem closure (f : Function) (scope : Nat) :
    J.Holds o c (Value.All J.handles) (Eval.closure f scope) (Eval.closure f scope) :=
  J.tame (.allocate _) fun _ => .closure f scope

theorem iterate (v : Value) : J.Holds o c (AllValues J.handles) (iterate v) (iterate v) :=
  J.tame (.iterate v) fun _ => .iterate

theorem itemAt {vs : List Value} (hvs : c → AllValues J.handles vs) (i : Nat) (rest : Bool) :
    J.Holds o c (Value.All J.handles) (Eval.itemAt vs i rest) (Eval.itemAt vs i rest) :=
  J.tame (.itemAt vs i rest) fun hc => .itemAt (hvs hc) i rest

theorem getProperty {v : Value} (hv : c → v.All J.handles) (key : String) :
    J.Holds o c (Value.All J.handles) (getProperty v key) (getProperty v key) :=
  J.tame (.getProperty v key) fun hc => J.suits.getProperty (hv hc) key

theorem setProperty (v : Value) {new : Value} (hnew : c → new.All J.handles) (key : String) :
    J.Holds o c Anything (setProperty v key new) (setProperty v key new) :=
  J.tame (.setProperty v key new) fun hc => .setProperty key (hnew hc)

/-- The functions of a block are declared in its scope. -/
theorem hoist (scope : Nat) (body : List Stmt) :
    J.Holds (some scope) c Anything (Eval.hoist scope body) (Eval.hoist scope body) := by
  induction body generalizing c with
  | nil => exact J.pure fun _ => trivial
  | cons s rest ih =>
    cases s with
    | function f =>
      rw [Eval.hoist]
      cases f.name? with
      | none => exact ih
      | some name =>
        refine J.bind (J.closure f scope) fun v => ?_
        exact J.bind (J.declare And.right scope name true) fun _ => ih
    | _ => exact ih

end Judgement

/-- With fuels `n` and `k` the judgement holds of every function of the evaluator, if it is given
handles as it should be.  An expression declares names only in scopes that it opens, and what binds
names or is executed in a scope declares them there. -/
structure Walked (J : Judgement) (n k : Nat) : Prop where
  eval : ∀ {o c} e scope,
    J.Holds o c (Value.All J.handles) (eval n e scope) (eval k e scope)
  evalTemplate : ∀ {o c} parts scope,
    J.Holds o c Anything (evalTemplate n parts scope) (evalTemplate k parts scope)
  evalElements : ∀ {o c} items scope,
    J.Holds o c (AllValues J.handles) (evalElements n items scope) (evalElements k items scope)
  evalProperties : ∀ {o c} properties scope, J.Holds o c (Dict.Holds (Value.All J.handles))
    (evalProperties n properties scope) (evalProperties k properties scope)
  evalUnary : ∀ {o c} op operand scope, J.Holds o c (Value.All J.handles)
    (evalUnary n op operand scope) (evalUnary k op operand scope)
  assign : ∀ {o c} target {v}, (c → v.All J.handles) → ∀ scope,
    J.Holds o c Anything (assign n target v scope) (assign k target v scope)
  call : ∀ {o c f args}, (c → f.All J.handles) → (c → AllValues J.handles args) →
    J.Holds o c (Value.All J.handles) (call n f args) (call k f args)
  settle : ∀ {o c r}, (c → r.All J.handles) →
    J.Holds o c (Value.All J.handles) (settle n r) (settle k r)
  callClosure : ∀ {o c} closure {args}, (c → AllValues J.handles args) →
    J.Holds o c (Value.All J.handles) (callClosure n closure args) (callClosure k closure args)
  bindParams : ∀ {c} params i {args}, (c → AllValues J.handles args) → ∀ scope,
    J.Holds (some scope) c Anything
      (bindParams n params i args scope) (bindParams k params i args scope)
  withDefault : ∀ {o c v}, (c → v.All J.handles) → ∀ default scope,
    J.Holds o c (Value.All J.handles)
      (withDefault n v default scope) (withDefault k v default scope)
  callMethod : ∀ {o c this args}, (c → this.All J.handles) → (c → AllValues J.handles args) →
    ∀ name, J.Holds o c (Value.All J.handles)
      (callMethod n this name args) (callMethod k this name args)
  visitItems : ∀ {o c} visit {callback items kept}, (c → callback.All J.handles) →
    (c → AllValues J.handles items) → (c → AllValues J.handles kept) → ∀ ref i,
      J.Holds o c (Value.All J.handles) (visitItems n visit callback ref items i kept)
        (visitItems k visit callback ref items i kept)
  reduceArray : ∀ {o c} ref {args}, (c → AllValues J.handles args) →
    J.Holds o c (Value.All J.handles) (reduceArray n ref args) (reduceArray k ref args)
  reduceItems : ∀ {o c callback items acc}, (c → callback.All J.handles) →
    (c → AllValues J.handles items) → (c → acc.All J.handles) → ∀ ref i,
      J.Holds o c (Value.All J.handles)
        (reduceItems n callback ref items i acc) (reduceItems k callback ref items i acc)
  bind : ∀ {c} pattern {v}, (c → v.All J.handles) → ∀ scope mutable,
    J.Holds (some scope) c Anything (bind n pattern v scope mutable) (bind k pattern v scope mutable)
  bindMembers : ∀ {c} bindings {v}, (c → v.All J.handles) → ∀ scope mutable,
    J.Holds (some scope) c Anything
      (bindMembers n bindings v scope mutable) (bindMembers k bindings v scope mutable)
  bindItems : ∀ {c} items i {vs}, (c → AllValues J.handles vs) → ∀ scope mutable,
    J.Holds (some scope) c Anything
      (bindItems n items i vs scope mutable) (bindItems k items i vs scope mutable)
  exec : ∀ {c} s scope,
    J.Holds (some scope) c (Completion.All J.handles) (exec n s scope) (exec k s scope)
  execHandler : ∀ {o c} param {thrown}, (c → thrown.All J.handles) → ∀ handler scope,
    J.Holds o c (Follows.Attempted J.handles (Completion.All J.handles))
      (execHandler n param thrown handler scope) (execHandler k param thrown handler scope)
  execDeclarations : ∀ {c} declarations scope mutable, J.Holds (some scope) c Anything
    (execDeclarations n declarations scope mutable) (execDeclarations k declarations scope mutable)
  execScoped : ∀ {c} s scope,
    J.Holds (some scope) c (Completion.All J.handles) (execScoped n s scope) (execScoped k s scope)
  execBlock : ∀ {c} body scope, J.Holds (some scope) c (Completion.All J.handles)
    (execBlock n body scope) (execBlock k body scope)
  execAll : ∀ {c} body scope, J.Holds (some scope) c (Completion.All J.handles)
    (execAll n body scope) (execAll k body scope)
  execForOf : ∀ {o c} pattern mutable body {items}, (c → AllValues J.handles items) → ∀ scope,
    J.Holds o c (Completion.All J.handles) (execForOf n pattern mutable body items scope)
      (execForOf k pattern mutable body items scope)
  execFor : ∀ {c} test update body scope, J.Holds (some scope) c (Completion.All J.handles)
    (execFor n test update body scope) (execFor k test update body scope)
  execWhile : ∀ {c} test body scope, J.Holds (some scope) c (Completion.All J.handles)
    (execWhile n test body scope) (execWhile k test body scope)

variable {J : Judgement}

theorem Walked.zero (k : Nat) : Walked J 0 k where
  eval _ _ := by rw [Script.eval]; exact J.exhausted
  evalTemplate _ _ := by rw [Script.evalTemplate]; exact J.exhausted
  evalElements _ _ := by rw [Script.evalElements]; exact J.exhausted
  evalProperties _ _ := by rw [Script.evalProperties]; exact J.exhausted
  evalUnary _ _ _ := by rw [Script.evalUnary]; exact J.exhausted
  assign _ _ _ _ := by rw [Script.assign]; exact J.exhausted
  call _ _ := by rw [Script.call]; exact J.exhausted
  settle _ := by rw [Script.settle]; exact J.exhausted
  callClosure _ _ _ := by rw [Script.callClosure]; exact J.exhausted
  bindParams _ _ _ _ _ := by rw [Script.bindParams]; exact J.exhausted
  withDefault _ _ _ := by rw [Script.withDefault]; exact J.exhausted
  callMethod _ _ _ := by rw [Script.callMethod]; exact J.exhausted
  visitItems _ _ _ _ _ _ _ _ _ := by rw [Script.visitItems]; exact J.exhausted
  reduceArray _ _ _ := by rw [Script.reduceArray]; exact J.exhausted
  reduceItems _ _ _ _ _ := by rw [Script.reduceItems]; exact J.exhausted
  bind _ _ _ _ _ := by rw [Script.bind]; exact J.exhausted
  bindMembers _ _ _ _ _ := by rw [Script.bindMembers]; exact J.exhausted
  bindItems _ _ _ _ _ _ := by rw [Script.bindItems]; exact J.exhausted
  exec _ _ := by rw [Script.exec]; exact J.exhausted
  execHandler _ _ _ _ _ := by rw [Script.execHandler]; exact J.exhausted
  execDeclarations _ _ _ := by rw [Script.execDeclarations]; exact J.exhausted
  execScoped _ _ := by rw [Script.execScoped]; exact J.exhausted
  execBlock _ _ := by rw [Script.execBlock]; exact J.exhausted
  execAll _ _ := by rw [Script.execAll]; exact J.exhausted
  execForOf _ _ _ _ _ _ := by rw [Script.execForOf]; exact J.exhausted
  execFor _ _ _ _ := by rw [Script.execFor]; exact J.exhausted
  execWhile _ _ _ := by rw [Script.execWhile]; exact J.exhausted

end BrowserLab.Script
