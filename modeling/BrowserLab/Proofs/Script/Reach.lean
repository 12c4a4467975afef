import BrowserLab.Proofs.Script.Run

/-!
# What a script can come to

A script goes from a value to others: from an array to its items, from an object to its members,
from a function to what the names in it mean, from a method to the value it was looked up on, and
from a handle to the value it holds.  `Machine.Reaches` is that relation, and `Machine.Holds` says where a
script can begin.

* `Machine.All.reaches`: if all values of a machine hold handles of one kind only, no others can be
  come to.
* `Upholds.lacks`: it stays so whatever is evaluated.
-/

namespace BrowserLab.Script

namespace Machine

/-- From the value a script can come to the handle. -/
inductive Reaches (m : Machine) : Value → Handle → Prop
  | here (h : Handle) : Reaches m (.handle h) h
  | subject {subject : Value} {h : Handle} (hs : Reaches m subject h) :
      Reaches m (.handle (.expectation subject)) h
  | yielded {target : Target} {subject : Value} {h : Handle} (hs : Reaches m subject h) :
      Reaches m (.handle (.chain target subject)) h
  | bound {this : Value} {name : String} {h : Handle} (ht : Reaches m this h) :
      Reaches m (.method this name) h
  | item {ref i : Nat} {v : Value} {h : Handle} (hi : (m.heap.array ref)[i]? = some v)
      (hv : Reaches m v h) : Reaches m (.array ref) h
  | member {ref : Nat} {key : String} {v : Value} {h : Handle}
      (hk : (m.heap.object ref).get? key = some v) (hv : Reaches m v h) : Reaches m (.object ref) h
  | captured {ref : Nat} {c : Closure} {name : String} {v : Value} {h : Handle}
      (hc : m.heap.closure? ref = some c) (hn : m.scopes.lookup c.scope name = some v)
      (hv : Reaches m v h) : Reaches m (.closure ref) h

/-- The value is in the memory: a script has made it, it is what a name means, or it is kept as a
test, a hook or a command. -/
inductive Holds (m : Machine) : Value → Prop
  | array (ref : Nat) : Holds m (.array ref)
  | object (ref : Nat) : Holds m (.object ref)
  | closure (ref : Nat) : Holds m (.closure ref)
  | variable {scope : Nat} {name : String} {v : Value} (h : m.scopes.lookup scope name = some v) :
      Holds m v
  | test {v : Value} (h : v ∈ m.tests) : Holds m v
  | hook {v : Value} (h : v ∈ m.hooks) : Holds m v
  | command {name : String} {v : Value} (h : (name, v) ∈ m.browser.commands) : Holds m v

variable {p : Handle → Prop} {m : Machine}

/-- What is held by a machine is as the machine is. -/
theorem All.holds (hm : m.All p) {v : Value} (h : m.Holds v) : v.All p := by
  cases h with
  | array ref => exact trivial
  | object ref => exact trivial
  | closure ref => exact trivial
  | «variable» h => exact hm.scopes.lookup h
  | test h => exact hm.tests v h
  | hook h => exact hm.hooks v h
  | command h => exact hm.commands _ h

/-- From what is as the machine is, a script comes to such handles only. -/
theorem All.reaches (hm : m.All p) {v : Value} {h : Handle} (hr : m.Reaches v h) (hv : v.All p) :
    p h := by
  induction hr with
  | here h => exact Handle.All.self hv
  | subject _ ih => exact ih hv.2
  | yielded _ ih => exact ih hv.2
  | bound _ ih => exact ih hv
  | item hi _ ih => exact ih (hm.heap.item hi)
  | member hk _ ih => exact ih ((hm.heap.object _).get? hk)
  | captured _ hn _ ih => exact ih (hm.scopes.lookup hn)

/-- No handle as `q` tells can be come to: not from the memory, and not from what the evaluation of
any expression would yield or throw, in any scope and for however long. -/
structure Lacks (m : Machine) (q : Handle → Prop) : Prop where
  held : ∀ {v : Value} {h : Handle}, m.Holds v → m.Reaches v h → ¬ q h
  yielded : ∀ {fuel scope : Nat} {e : Expr} {v : Value} {m' : Machine} {h : Handle},
    (eval fuel e scope).runOn m = (.ok v, m') → m'.Reaches v h → ¬ q h
  thrown : ∀ {fuel scope : Nat} {e : Expr} {v : Value} {m' : Machine} {h : Handle},
    (eval fuel e scope).runOn m = (.error (.thrown v), m') → m'.Reaches v h → ¬ q h

end Machine

variable {style : Style} {p q : Handle → Prop} {R : Link}

/-- If handles as `p` tells lead to no others, and none of them is as `q` tells, then a machine that
holds only such handles lacks those as `q` tells. -/
theorem Upholds.lacks (hU : Upholds style p R) (hpq : ∀ h, p h → ¬ q h) {m m' : Machine}
    (hm : Alike p R m m') (hspent : ∀ b, ¬ R.spent b) : m.Lacks q := by
  have hend (fuel : Nat) (e : Expr) (scope : Nat) :
      Sound p (Value.All p) ((eval fuel e scope).runOn m).1 ∧
        ((eval fuel e scope).runOn m).2.All p := by
    have h := ((hU.along (Nat.le_refl fuel)).eval e scope).alike m m' hm
    generalize (eval fuel e scope).runOn m = r at h ⊢
    generalize (eval fuel e scope).runOn m' = r' at h
    cases h with
    | ok ha h => exact ⟨ha, h.held⟩
    | thrown hv h => exact ⟨hv, h.held⟩
    | exhausted h => exact ⟨trivial, h.held⟩
    | spent h => exact absurd h.spent (hspent _)
  refine ⟨fun hv hr => ?_, fun {fuel scope e v m₁ h} hrun hr => ?_,
    fun {fuel scope e v m₁ h} hrun hr => ?_⟩
  · exact hpq _ (hm.held.reaches hr (hm.held.holds hv))
  · have hv := hend fuel e scope
    rw [hrun] at hv
    exact hpq _ (hv.2.reaches hr hv.1)
  · have hv := hend fuel e scope
    rw [hrun] at hv
    exact hpq _ (hv.2.reaches hr hv.1)

end BrowserLab.Script
