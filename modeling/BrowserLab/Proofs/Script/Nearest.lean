import BrowserLab.Proofs.Script.Scoping

/-!
# The nearest scope that declares a name

A scope lies in one that was opened before it, so scopes make up trees, and to look outwards from a
scope comes to an end.  What is seen from a scope is what the scopes declare that it lies in; the
nearest one counts, to look a name up as well as to assign to it.

* `find?_eq_some_iff`: what is found is what the nearest scope declares.
* `find?_congr`: what is seen from a scope depends on the scopes that it lies in.
* `find?_declare_of_own?`: to assign to a variable is seen wherever it is the nearest, and nowhere
  else.
-/

namespace BrowserLab.Script.Scopes

variable {α : Type} {s s' : Scopes α} {scope parent outer place i n k : Nat} {name other : String}
  {x : Variable α}

/-! ### Trees -/

/-- The scope that a scope lies in. -/
def parent? (s : Scopes α) (scope : Nat) : Option Nat := s.frames[scope]?.bind (·.parent)

/-- Every scope that lies in another was opened after it. -/
def Grown (s : Scopes α) : Prop := ∀ scope parent, s.parent? scope = some parent → parent < scope

theorem parent?_declare (s : Scopes α) (scope i : Nat) (name : String) (v : α) (mutable : Bool) :
    (s.declare scope name v mutable).parent? i = s.parent? i := by
  rw [parent?, parent?, declare, Array.getElem?_modify]
  cases s.frames[i]? with
  | none => split <;> rfl
  | some f => split <;> rfl

theorem lt_size_of_own? (h : s.own? scope name = some x) : scope < s.frames.size := by
  rcases Nat.lt_or_ge scope s.frames.size with hlt | hge
  · exact hlt
  · simp [own?, Array.getElem?_eq_none hge] at h

namespace Grown

theorem empty : (Scopes.empty : Scopes α).Grown := by
  intro scope parent h
  simp [parent?, Scopes.empty] at h

/-- A scope that is opened lies in none or in one that there is. -/
theorem push (hs : s.Grown) {outer : Option Nat} (houter : ∀ i, outer = some i → i < s.frames.size) :
    (s.push outer).2.Grown := by
  intro scope parent h
  rw [parent?, Scopes.push, Array.getElem?_push] at h
  split at h
  · next hscope =>
    rw [hscope]
    exact houter parent h
  · exact hs scope parent h

theorem root (hs : s.Grown) : s.root.2.Grown := hs.push nofun

theorem child (hs : s.Grown) (hparent : parent < s.frames.size) : (s.child parent).2.Grown := by
  refine hs.push ?_
  rintro _ ⟨⟩
  exact hparent

theorem declare (hs : s.Grown) (scope : Nat) (name : String) (v : α) (mutable : Bool) :
    (s.declare scope name v mutable).Grown := by
  intro i parent h
  rw [parent?_declare] at h
  exact hs i parent h

end Grown

/-- The scope is the outer one, or lies in it. -/
inductive Within (s : Scopes α) : Nat → Nat → Prop
  | here (scope : Nat) : Within s scope scope
  | outwards {scope parent outer : Nat} (hparent : s.parent? scope = some parent)
      (h : Within s parent outer) : Within s scope outer

namespace Within

theorem le (hs : s.Grown) (h : s.Within scope outer) : outer ≤ scope := by
  induction h with
  | here scope => exact Nat.le_refl scope
  | outwards hparent _ ih => exact Nat.le_trans ih (Nat.le_of_lt (hs _ _ hparent))

/-- A scope lies in none that lies in it. -/
theorem not_of_outer (hs : s.Grown) (h : s.Within scope outer) (hne : outer ≠ scope) :
    ¬ s.Within outer scope :=
  fun h' => hne (Nat.le_antisymm (h.le hs) (h'.le hs))

/-- A scope does not lie in one that lies in the same scope. -/
theorem not_of_sibling (hs : s.Grown) {sibling : Nat} (hparent : s.parent? sibling = s.parent? scope)
    (hne : sibling ≠ scope) : ¬ s.Within sibling scope := by
  rintro (_ | ⟨hsibling, h⟩)
  · exact hne rfl
  · have hlt := hs scope _ (hparent ▸ hsibling)
    exact absurd (h.le hs) (Nat.not_le_of_lt hlt)

end Within

/-! ### Looking outwards -/

theorem findFrom_succ (s : Scopes α) (name : String) (n scope : Nat) :
    s.findFrom name (n + 1) scope = match s.own? scope name with
      | some x => some (scope, x)
      | none => (s.parent? scope).bind (s.findFrom name n) := by
  rw [findFrom, own?, parent?]
  cases s.frames[scope]? with
  | none => rfl
  | some f =>
    dsimp only [Option.bind_some]
    cases f.bindings.get? name with
    | some x => rfl
    | none => cases f.parent <;> rfl

/-- There are not more scopes to look at than the number of the scope tells. -/
theorem findFrom_fuel (hs : s.Grown) (hn : scope < n) (hk : scope < k) :
    s.findFrom name n scope = s.findFrom name k scope := by
  induction n generalizing k scope with
  | zero => omega
  | succ n ih =>
    obtain ⟨k, rfl⟩ : ∃ k', k = k' + 1 := ⟨k - 1, by omega⟩
    rw [findFrom_succ, findFrom_succ]
    split
    · rfl
    · refine Option.bind_congr fun parent hparent => ?_
      have hlt := hs scope parent hparent
      exact ih (by omega) (by omega)

/-- What is found from a scope is what it declares, or else what is found from the scope that it
lies in. -/
theorem find?_eq (hs : s.Grown) (scope : Nat) (name : String) :
    s.find? scope name = match s.own? scope name with
      | some x => some (scope, x)
      | none => (s.parent? scope).bind (s.find? · name) := by
  rw [find?, findFrom_succ]
  split
  · rfl
  · refine Option.bind_congr fun parent hparent => ?_
    exact findFrom_fuel hs (hs scope parent hparent) (Nat.lt_succ_self parent)

/-- From the scope outwards, the first one that declares the name has this variable. -/
inductive Nearest (s : Scopes α) (name : String) : Nat → Nat → Variable α → Prop
  | own {scope : Nat} {x : Variable α} (hx : s.own? scope name = some x) :
      Nearest s name scope scope x
  | outer {scope parent place : Nat} {x : Variable α} (hnone : s.own? scope name = none)
      (hparent : s.parent? scope = some parent) (h : Nearest s name parent place x) :
      Nearest s name scope place x

theorem Nearest.own?_eq (h : s.Nearest name scope place x) : s.own? place name = some x := by
  induction h with
  | own hx => exact hx
  | outer _ _ _ ih => exact ih

/-- **What is found is what the nearest scope declares.** -/
theorem find?_eq_some_iff (hs : s.Grown) :
    s.find? scope name = some (place, x) ↔ s.Nearest name scope place x := by
  constructor
  · intro h
    induction scope using Nat.strongRecOn with
    | ind scope ih =>
      rw [find?_eq hs] at h
      split at h
      · next y hown =>
        cases h
        exact .own hown
      · next hnone =>
        obtain ⟨parent, hparent, h⟩ := Option.bind_eq_some_iff.mp h
        exact .outer hnone hparent (ih parent (hs scope parent hparent) h)
  · intro h
    induction h with
    | own hx => rw [find?_eq hs, hx]
    | outer hnone hparent _ ih => rw [find?_eq hs, hnone, hparent, Option.bind_some, ih]

theorem Nearest.unique (hs : s.Grown) {place' : Nat} {x' : Variable α}
    (h : s.Nearest name scope place x) (h' : s.Nearest name scope place' x') :
    place' = place ∧ x' = x := by
  have hsame := ((find?_eq_some_iff hs).mpr h').symm.trans ((find?_eq_some_iff hs).mpr h)
  exact Prod.mk.inj (Option.some.inj hsame)

/-- What a name means is what the nearest scope declares. -/
theorem lookup_eq_some_iff_nearest (hs : s.Grown) {v : α} : s.lookup scope name = some v ↔
    ∃ place mutable, s.Nearest name scope place ⟨v, mutable⟩ := by
  rw [lookup, Option.map_eq_some_iff]
  constructor
  · rintro ⟨⟨place, w, mutable⟩, hfound, rfl⟩
    exact ⟨place, mutable, (find?_eq_some_iff hs).mp hfound⟩
  · rintro ⟨place, mutable, h⟩
    exact ⟨_, (find?_eq_some_iff hs).mpr h, rfl⟩

/-- What is seen from a scope depends on the scopes that it lies in. -/
theorem find?_congr (hs : s.Grown) (hparent : ∀ i, s'.parent? i = s.parent? i)
    (hown : ∀ i, s.Within scope i → s'.own? i name = s.own? i name) :
    s'.find? scope name = s.find? scope name := by
  have hs' : s'.Grown := fun i parent h => hs i parent (hparent i ▸ h)
  induction scope using Nat.strongRecOn with
  | ind scope ih =>
    rw [find?_eq hs', find?_eq hs, hown scope (.here scope), hparent scope]
    split
    · rfl
    · refine Option.bind_congr fun parent hp => ?_
      exact ih parent (hs scope parent hp) fun i hi => hown i (.outwards hp hi)

/-- What is declared in a scope is not seen from scopes that do not lie in it. -/
theorem find?_declare_of_not_within (hs : s.Grown) {inner : Nat} (h : ¬ s.Within scope inner)
    (name other : String) (v : α) (mutable : Bool) :
    (s.declare inner name v mutable).find? scope other = s.find? scope other := by
  refine find?_congr hs (fun i => parent?_declare s inner i name v mutable) fun i hi => ?_
  rw [own?_declare, if_neg]
  rintro ⟨rfl, -⟩
  exact h hi

/-- A variable that is given another value has it wherever it is the nearest, and nothing else is
seen to change from anywhere. -/
theorem find?_declare_of_own? (hs : s.Grown) (hx : s.own? place name = some x) (v : α)
    (scope : Nat) (other : String) :
    (s.declare place name v true).find? scope other = (s.find? scope other).map fun found =>
      if place = found.1 ∧ name = other then (found.1, ⟨v, true⟩) else found := by
  have hsize := lt_size_of_own? hx
  induction scope using Nat.strongRecOn with
  | ind scope ih =>
    rw [find?_eq (hs.declare place name v true), find?_eq hs, parent?_declare, own?_declare]
    by_cases hhere : place = scope ∧ name = other
    · obtain ⟨rfl, rfl⟩ := hhere
      simp [hsize, hx]
    · rw [if_neg fun h => hhere ⟨h.1, h.2.1⟩]
      cases s.own? scope other with
      | some y => simp [hhere]
      | none =>
        dsimp only
        rw [Option.map_bind]
        refine Option.bind_congr fun parent hparent => ?_
        exact ih parent (hs scope parent hparent)

/-! ### Assigning -/

/-- The three ways in which it can turn out to assign: the nearest scope declares a variable, or a
constant, or there is none. -/
theorem assign_cases (hs : s.Grown) (scope : Nat) (name : String) (v : α) :
    (∃ place w, s.Nearest name scope place ⟨w, true⟩ ∧
      s.assign scope name v = (none, s.declare place name v true)) ∨
    (∃ place w, s.Nearest name scope place ⟨w, false⟩ ∧
      s.assign scope name v = (some .constant, s)) ∨
    (∀ place x, ¬ s.Nearest name scope place x) ∧
      s.assign scope name v = (some (.undeclared name), s) := by
  rw [assign]
  cases hfound : s.find? scope name with
  | none =>
    refine .inr (.inr ⟨fun place x h => ?_, rfl⟩)
    cases hfound.symm.trans ((find?_eq_some_iff hs).mpr h)
  | some found =>
    obtain ⟨place, w, mutable⟩ := found
    have hnearest := (find?_eq_some_iff hs).mp hfound
    cases mutable with
    | true => exact .inl ⟨place, w, hnearest, rfl⟩
    | false => exact .inr (.inl ⟨place, w, hnearest, rfl⟩)

end BrowserLab.Script.Scopes
