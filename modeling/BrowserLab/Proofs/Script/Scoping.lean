import BrowserLab.Proofs.Dict
import BrowserLab.Proofs.Script.ComesTo
import BrowserLab.Proofs.Script.Watched

/-!
# Variables that last

Scopes are never closed, and a name that has been declared in one stays declared there.  So what a
name means in a scope is settled by the scope that holds it, its holder, for the rest of the run,
unless a scope that lies nearer comes to declare the name as well.

* `Scopes.Extends.holder`: a name is held where it was, or nearer and only since then.
* `later_of_comesTo`, `Machine.Later.scopes`: whatever is evaluated, scopes are only extended.
-/

namespace BrowserLab.Script

open Eval

namespace Scopes

variable {α : Type} {s s' s₁ s₂ s₃ : Scopes α} {scope place n : Nat} {name : String} {v : α}
  {x : Variable α}

/-! ### Holders -/

/-- The variable of a name that the scope itself declares. -/
def own? (s : Scopes α) (scope : Nat) (name : String) : Option (Variable α) :=
  s.frames[scope]?.bind (·.bindings.get? name)

/-- The nearest scope that declares the name. -/
def holder? (s : Scopes α) (scope : Nat) (name : String) : Option Nat :=
  (s.find? scope name).map Prod.fst

theorem own?_of_findFrom (h : s.findFrom name n scope = some (place, x)) :
    s.own? place name = some x := by
  induction n generalizing scope with
  | zero => cases h
  | succ n ih =>
    rw [findFrom] at h
    cases hf : s.frames[scope]? with
    | none => simp [hf] at h
    | some f =>
      cases hx : f.bindings.get? name with
      | some y =>
        simp only [hf, hx] at h
        cases h
        rw [own?, hf, Option.bind_some, hx]
      | none =>
        cases hparent : f.parent with
        | none => simp [hf, hx, hparent] at h
        | some parent =>
          simp only [hf, hx, hparent] at h
          exact ih h

/-- To look at more scopes makes no difference once the name has been found. -/
theorem findFrom_add {r : Nat × Variable α} (k : Nat) (h : s.findFrom name n scope = some r) :
    s.findFrom name (n + k) scope = some r := by
  induction n generalizing scope with
  | zero => cases h
  | succ n ih =>
    rw [Nat.succ_add, findFrom]
    rw [findFrom] at h
    cases hf : s.frames[scope]? with
    | none => simp [hf] at h
    | some f =>
      cases hx : f.bindings.get? name with
      | some y => simpa [hf, hx] using h
      | none =>
        cases hparent : f.parent with
        | none => simp [hf, hx, hparent] at h
        | some parent =>
          simp only [hf, hx, hparent] at h ⊢
          exact ih h

/-- A name means the variable that its holder declares. -/
theorem lookup_eq_some_iff : s.lookup scope name = some v ↔
    ∃ holder mutable, s.holder? scope name = some holder ∧
      s.own? holder name = some ⟨v, mutable⟩ := by
  rw [lookup, holder?]
  cases hx : s.find? scope name with
  | none => simp
  | some found =>
    obtain ⟨holder, value, mutable⟩ := found
    have hvariable := own?_of_findFrom hx
    simp only [Option.map_some, Option.some.injEq]
    constructor
    · rintro rfl
      exact ⟨holder, mutable, rfl, hvariable⟩
    · rintro ⟨_, _, rfl, hx⟩
      exact congrArg Variable.value (Option.some.inj (hvariable.symm.trans hx))

/-- A scope holds the names that it declares. -/
theorem holder?_self (h : s.own? scope name = some x) : s.holder? scope name = some scope := by
  rw [own?] at h
  cases hf : s.frames[scope]? with
  | none => simp [hf] at h
  | some f =>
    rw [hf, Option.bind_some] at h
    simp [holder?, find?, findFrom, hf, h]

/-- A scope that has just been opened declares nothing. -/
theorem own?_child (s : Scopes α) (parent i : Nat) (name : String) :
    (s.child parent).2.own? i name = s.own? i name := by
  rw [own?, own?, child, push, Array.getElem?_push]
  split
  · next hi => simp [hi, Dict.get?]
  · rfl

/-- To assign to a name is to declare it once more where it is held, if that is allowed. -/
theorem assign_of_holder? (h : s.holder? scope name = some place)
    (hx : s.own? place name = some x) (hmutable : x.mutable = true) (v : α) :
    s.assign scope name v = (none, s.declare place name v true) := by
  rw [holder?, Option.map_eq_some_iff] at h
  obtain ⟨⟨_, y⟩, hfound, rfl⟩ := h
  obtain rfl : x = y := Option.some.inj (hx.symm.trans (own?_of_findFrom hfound))
  simp only [assign, hfound, hmutable, if_true]

theorem own?_declare (s : Scopes α) (scope i : Nat) (name other : String) (v : α)
    (mutable : Bool) : (s.declare scope name v mutable).own? i other =
      if scope = i ∧ name = other ∧ i < s.frames.size then some ⟨v, mutable⟩
      else s.own? i other := by
  rw [own?, own?, declare, Array.getElem?_modify]
  by_cases hi : scope = i
  · cases hf : s.frames[i]? with
    | none => simp [Array.getElem?_eq_none_iff.mp hf]
    | some f =>
      have hsize := (Array.getElem?_eq_some_iff.mp hf).1
      simp [hi, hsize, Dict.get?_insert]
  · simp [hi]

/-! ### Extension -/

/-- Scopes have been opened and names declared. -/
structure Extends (s s' : Scopes α) : Prop where
  frame : ∀ (i : Nat) f, s.frames[i]? = some f →
    ∃ f', s'.frames[i]? = some f' ∧ f'.parent = f.parent
  declared : ∀ i name, (s.own? i name).isSome → (s'.own? i name).isSome

namespace Extends

theorem refl (s : Scopes α) : s.Extends s := ⟨fun _ f h => ⟨f, h, rfl⟩, fun _ _ h => h⟩

theorem trans (h : s₁.Extends s₂) (h' : s₂.Extends s₃) : s₁.Extends s₃ where
  frame i f hf := by
    obtain ⟨f', hf', hparent⟩ := h.frame i f hf
    obtain ⟨f'', hf'', hparent'⟩ := h'.frame i f' hf'
    exact ⟨f'', hf'', hparent'.trans hparent⟩
  declared i name hdeclared := h'.declared i name (h.declared i name hdeclared)

/-- A scope has been opened. -/
theorem child (s : Scopes α) (parent : Nat) : s.Extends (s.child parent).2 := by
  refine ⟨fun i f hf => ⟨f, ?_, rfl⟩, fun i name h => by rwa [own?_child]⟩
  have hi : i ≠ s.frames.size := by
    rintro rfl
    simp at hf
  rw [Scopes.child, push, Array.getElem?_push, if_neg hi, hf]

/-- A name has been declared. -/
theorem declare (s : Scopes α) (scope : Nat) (name : String) (v : α) (mutable : Bool) :
    s.Extends (s.declare scope name v mutable) := by
  refine ⟨fun i f hf => ?_, fun i other h => ?_⟩
  · rw [Scopes.declare, Array.getElem?_modify, hf]
    split
    · exact ⟨_, rfl, rfl⟩
    · exact ⟨f, rfl, rfl⟩
  · rw [own?_declare]
    split
    · rfl
    · exact h

/-- From a scope outwards, a name is found where it was found before, or in a scope that has come to
declare it. -/
theorem findFrom (h : s.Extends s') (hfound : s.findFrom name n scope = some (place, x)) :
    ∃ place' x', s'.findFrom name n scope = some (place', x') ∧
      (place' = place ∨ s.own? place' name = none) := by
  induction n generalizing scope with
  | zero => cases hfound
  | succ n ih =>
    rw [Scopes.findFrom] at hfound ⊢
    cases hf : s.frames[scope]? with
    | none => simp [hf] at hfound
    | some f =>
      obtain ⟨f', hf', hparent⟩ := h.frame scope f hf
      have hdeclared := h.declared scope name
      rw [own?, own?, hf, hf', Option.bind_some, Option.bind_some] at hdeclared
      cases hx : f.bindings.get? name with
      | some y =>
        -- found at once, and found at once again
        simp only [hf, hx] at hfound
        obtain ⟨y', hy'⟩ := Option.isSome_iff_exists.mp (hdeclared (by rw [hx]; rfl))
        obtain rfl : scope = place := (Prod.mk.inj (Option.some.inj hfound)).1
        exact ⟨scope, y', by simp only [hf', hy'], .inl rfl⟩
      | none =>
        cases hx' : f'.bindings.get? name with
        | some y' =>
          exact ⟨scope, y', by simp only [hf', hx'], .inr (by rw [own?, hf, Option.bind_some, hx])⟩
        | none =>
          cases hp : f.parent with
          | none => simp [hf, hx, hp] at hfound
          | some parent =>
            simp only [hf, hx, hp] at hfound
            simp only [hf', hx', hparent, hp]
            exact ih hfound

/-- A name is held where it was held before, or by a scope that has come to declare it. -/
theorem holder (h : s.Extends s') (hheld : s.holder? scope name = some place) :
    ∃ place', s'.holder? scope name = some place' ∧
      (place' = place ∨ s.own? place' name = none) := by
  rw [holder?, Option.map_eq_some_iff] at hheld
  obtain ⟨⟨_, x⟩, hfound, rfl⟩ := hheld
  obtain ⟨place', x', hfound', hwhere⟩ := h.findFrom hfound
  exact ⟨place', by rw [holder?, find?, hfound', Option.map_some], hwhere⟩

end Extends

/-- In a scope that has just been opened a name is held where it is held around it. -/
theorem holder?_child (h : s.holder? scope name = some place) :
    (s.child scope).2.holder? s.frames.size name = some place := by
  rw [holder?, Option.map_eq_some_iff] at h
  obtain ⟨⟨_, x⟩, hfound, rfl⟩ := h
  have hsize : scope < s.frames.size := by
    rcases Nat.lt_or_ge scope s.frames.size with hlt | hge
    · exact hlt
    · simp [find?, findFrom, Array.getElem?_eq_none hge] at hfound
  -- what is newly held would have to be declared in the new scope, which declares nothing
  obtain ⟨place', x', hfound', hwhere⟩ := (Extends.child s scope).findFrom hfound
  have hvariable := own?_of_findFrom hfound'
  rw [own?_child] at hvariable
  obtain rfl : place' = _ := hwhere.resolve_right fun hnone => by cases hvariable.symm.trans hnone
  have hnew : (s.child scope).2.frames[s.frames.size]? = some ⟨[], some scope⟩ := by
    simp [child, push]
  have hmore := findFrom_add (s.frames.size - (scope + 1)) hfound'
  rw [Nat.add_sub_cancel' hsize] at hmore
  rw [holder?, find?, findFrom, hnew]
  simp only [Dict.get?, hmore, Option.map_some]

end Scopes

/-! ### Runs -/

theorem runOn_assignName {m : Machine} {scope place : Nat} {name : String} {x : Variable Value}
    (h : m.scopes.holder? scope name = some place) (hx : m.scopes.own? place name = some x)
    (hmutable : x.mutable = true) (v : Value) :
    (assignName scope name v).runOn m = (.ok (), m.declared place name v true) := by
  rw [assignName, runOn_bind, runOn_modifyGet, Scopes.assign_of_holder? h hx hmutable]
  rfl

/-- The machines that a run can come to later.  All that is done to scopes is to open one within
another and to declare a name, or to assign to it where it has been declared. -/
inductive Machine.Later (m : Machine) : Machine → Prop
  | now : m.Later m
  | opened {m₁ : Machine} (h : m.Later m₁) (parent : Nat) : m.Later (m₁.opened parent)
  | declared {m₁ : Machine} (h : m.Later m₁) (scope : Nat) (name : String) (v : Value)
      (mutable : Bool) : m.Later (m₁.declared scope name v mutable)
  | elsewhere {m₁ m₂ : Machine} (h : m.Later m₁) (hscopes : m₂.scopes = m₁.scopes) : m.Later m₂

namespace Machine.Later

variable {m m₁ m₂ m₃ : Machine}

theorem trans (h : m₁.Later m₂) (h' : m₂.Later m₃) : m₁.Later m₃ := by
  induction h' with
  | now => exact h
  | opened _ parent ih => exact ih.opened parent
  | declared _ scope name v mutable ih => exact ih.declared scope name v mutable
  | elsewhere _ hscopes ih => exact ih.elsewhere hscopes

theorem same (hscopes : m₂.scopes = m₁.scopes) : m₁.Later m₂ := .elsewhere .now hscopes

theorem scopes (h : m₁.Later m₂) : m₁.scopes.Extends m₂.scopes := by
  induction h with
  | now => exact .refl m₁.scopes
  | opened _ parent ih => exact ih.trans (.child _ parent)
  | declared _ scope name v mutable ih => exact ih.trans (.declare _ scope name v mutable)
  | elsewhere _ hscopes ih =>
    rw [hscopes]
    exact ih

end Machine.Later

/-- Whatever is evaluated, it comes to a later machine. -/
def goingOn : Passage where
  related := Machine.Later
  refl _ := .now
  trans := Machine.Later.trans
  heap _ _ := .same rfl
  opened _ parent := .opened .now parent
  declared _ scope name v mutable := .declared .now scope name v mutable
  counted _ _ := .same rfl
  written _ _ := .same rfl
  draw _ _ := .same rfl
  test _ _ := .same rfl
  hook _ _ := .same rfl
  invoke h method args m := by
    obtain ⟨r, heap, browser, hrun, -⟩ := Atomic.invoke h method args m
    rw [hrun]
    exact .same rfl

theorem later_of_comesTo {α : Type} {x : Nat → Eval α} {m m' : Machine} {r : Except Value α}
    (hx : ∀ n, Leads goingOn (x n)) (h : ComesTo x m r m') : m.Later m' := by
  obtain ⟨n, hn⟩ := h
  have hlead := (hx n).attempt m
  rwa [hn] at hlead

theorem later_of_eval {e : Expr} {scope : Nat} {m m' : Machine} {r : Except Value Value}
    (h : ComesTo (eval · e scope) m r m') : m.Later m' :=
  later_of_comesTo (fun n => (Led.all n).eval e scope) h

theorem later_of_execScoped {s : Stmt} {scope : Nat} {m m' : Machine}
    {r : Except Value Completion} (h : ComesTo (execScoped · s scope) m r m') : m.Later m' :=
  later_of_comesTo (fun n => (Led.all n).execScoped s scope) h

end BrowserLab.Script
