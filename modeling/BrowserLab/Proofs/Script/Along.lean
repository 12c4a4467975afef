import BrowserLab.Proofs.Script.Global

/-!
# Evaluation with more fuel follows evaluation with less

`Along p R n k` says of every function of the evaluator that with fuel `k` it follows itself
with fuel `n`: from machines that differ in their browsers only, which are related by `R`, and that
hold handles as `p` tells, it comes to the same end, unless fuel `n` is not enough.  What these
functions do apart from calling each other keeps handles, whatever the browsers have in common.
-/

namespace BrowserLab.Script

/-- The value with which a statement returns is as `Value.All` tells. -/
def Completion.All (p : Handle → Prop) : Completion → Prop
  | .returned v => v.All p
  | _ => True

theorem Completion.all_leaves {p : Handle → Prop} {c c' : Completion} (hc : c.All p)
    (h : c.leaves? = some c') : c'.All p := by
  cases c with
  | returned v =>
    cases h
    exact hc
  | broke =>
    cases h
    exact trivial
  | _ => cases h

/-! ### What evaluation does apart from the recursion -/

namespace Keeps

variable {p : Handle → Prop} {R : Link}

theorem itemAt {vs : List Value} (hvs : AllValues p vs) (i : Nat) (rest : Bool) :
    Keeps p R (Value.All p) (Eval.itemAt vs i rest) := by
  unfold Eval.itemAt
  split
  · exact newArray (hvs.drop i)
  · exact pure (hvs.getD i)

theorem constructed {v : Value} (hv : v.All p) : Keeps p R (Value.All p) (Eval.constructed v) := by
  unfold Eval.constructed
  split
  · exact pure hv
  · exact pure hv
  · exact newObject Dict.holds_nil

theorem holds_remaining {h : Heap} (hh : h.All p) (v : Value) (bindings : List Binding) :
    Dict.Holds (Value.All p) (Eval.remaining h v bindings) := by
  unfold Eval.remaining
  split
  · exact (hh.object _).filter _
  · exact Dict.holds_nil

end Keeps

/-! ### All functions of the evaluator -/

/-- With fuel `k` the evaluator follows itself with fuel `n`. -/
structure Along (p : Handle → Prop) (R : Link) (n k : Nat) : Prop where
  eval : ∀ e scope, Follows p R (Value.All p) (eval n e scope) (eval k e scope)
  evalTemplate : ∀ parts scope,
    Follows p R Anything (evalTemplate n parts scope) (evalTemplate k parts scope)
  evalElements : ∀ items scope,
    Follows p R (AllValues p) (evalElements n items scope) (evalElements k items scope)
  evalProperties : ∀ properties scope, Follows p R (Dict.Holds (Value.All p))
    (evalProperties n properties scope) (evalProperties k properties scope)
  evalUnary : ∀ op operand scope, Follows p R (Value.All p)
    (evalUnary n op operand scope) (evalUnary k op operand scope)
  assign : ∀ target {v}, v.All p → ∀ scope,
    Follows p R Anything (assign n target v scope) (assign k target v scope)
  call : ∀ {f args}, f.All p → AllValues p args →
    Follows p R (Value.All p) (call n f args) (call k f args)
  settle : ∀ {r}, r.All p → Follows p R (Value.All p) (settle n r) (settle k r)
  callClosure : ∀ c {args}, AllValues p args →
    Follows p R (Value.All p) (callClosure n c args) (callClosure k c args)
  bindParams : ∀ params i {args}, AllValues p args → ∀ scope, Follows p R Anything
    (bindParams n params i args scope) (bindParams k params i args scope)
  withDefault : ∀ {v}, v.All p → ∀ default scope,
    Follows p R (Value.All p) (withDefault n v default scope) (withDefault k v default scope)
  callMethod : ∀ {this args}, this.All p → AllValues p args → ∀ name,
    Follows p R (Value.All p) (callMethod n this name args) (callMethod k this name args)
  visitItems : ∀ visit {callback items kept}, callback.All p → AllValues p items →
    AllValues p kept → ∀ ref i, Follows p R (Value.All p)
      (visitItems n visit callback ref items i kept) (visitItems k visit callback ref items i kept)
  reduceArray : ∀ ref {args}, AllValues p args →
    Follows p R (Value.All p) (reduceArray n ref args) (reduceArray k ref args)
  reduceItems : ∀ {callback items acc}, callback.All p → AllValues p items → acc.All p →
    ∀ ref i, Follows p R (Value.All p)
      (reduceItems n callback ref items i acc) (reduceItems k callback ref items i acc)
  bind : ∀ pattern {v}, v.All p → ∀ scope mutable, Follows p R Anything
    (bind n pattern v scope mutable) (bind k pattern v scope mutable)
  bindMembers : ∀ bindings {v}, v.All p → ∀ scope mutable, Follows p R Anything
    (bindMembers n bindings v scope mutable) (bindMembers k bindings v scope mutable)
  bindItems : ∀ items i {vs}, AllValues p vs → ∀ scope mutable, Follows p R Anything
    (bindItems n items i vs scope mutable) (bindItems k items i vs scope mutable)
  exec : ∀ s scope, Follows p R (Completion.All p) (exec n s scope) (exec k s scope)
  execHandler : ∀ param {thrown}, thrown.All p → ∀ handler scope,
    Follows p R (Follows.Attempted p (Completion.All p))
      (execHandler n param thrown handler scope) (execHandler k param thrown handler scope)
  execDeclarations : ∀ declarations scope mutable, Follows p R Anything
    (execDeclarations n declarations scope mutable) (execDeclarations k declarations scope mutable)
  execScoped : ∀ s scope,
    Follows p R (Completion.All p) (execScoped n s scope) (execScoped k s scope)
  execBlock : ∀ body scope,
    Follows p R (Completion.All p) (execBlock n body scope) (execBlock k body scope)
  execAll : ∀ body scope,
    Follows p R (Completion.All p) (execAll n body scope) (execAll k body scope)
  execForOf : ∀ pattern mutable body {items}, AllValues p items → ∀ scope,
    Follows p R (Completion.All p)
      (execForOf n pattern mutable body items scope) (execForOf k pattern mutable body items scope)
  execFor : ∀ test update body scope, Follows p R (Completion.All p)
    (execFor n test update body scope) (execFor k test update body scope)
  execWhile : ∀ test body scope, Follows p R (Completion.All p)
    (execWhile n test body scope) (execWhile k test body scope)

end BrowserLab.Script
