import BrowserLab.Proofs.Script.Declares

/-!
# Scopes are stacks of maps

What assigning and declaring do to scopes is said as a whole: which variables change, and what is
seen of that from every scope.  The globals are constants of a scope in which scripts declare
nothing, so they stay what they are.

* `Scopes.Rebound`: one variable has been given another value.
* `own?_start`: the names that the scope of the globals declares.
* `scopes_are_stacks`: what maintainers rely on when they pass scopes around.
-/

namespace BrowserLab.Script

namespace Scopes

variable {α : Type} {s : Scopes α} {scope place : Nat} {name : String} {x : Variable α}

/-- The variable of a name that scope `place` declares has been given a value.  This is seen from the
scopes for which it is the nearest one; every other variable, and what is seen of it, is as it was. -/
structure Rebound (s : Scopes α) (place : Nat) (name : String) (v : α) (s' : Scopes α) : Prop where
  own : s'.own? place name = some ⟨v, true⟩
  others : ∀ i other, (i = place → other ≠ name) → s'.own? i other = s.own? i other
  parents : ∀ i, s'.parent? i = s.parent? i
  seen : ∀ i x, s.Nearest name i place x → s'.lookup i name = some v
  unseen : ∀ i other, (other = name → ∀ x, ¬ s.Nearest name i place x) →
    s'.lookup i other = s.lookup i other

theorem rebound_declare (hs : s.Grown) (hx : s.own? place name = some x) (v : α) :
    s.Rebound place name v (s.declare place name v true) where
  own := by rw [own?_declare, if_pos ⟨rfl, rfl, lt_size_of_own? hx⟩]
  others i other hother := by
    rw [own?_declare, if_neg]
    rintro ⟨rfl, rfl, -⟩
    exact hother rfl rfl
  parents i := parent?_declare s place i name v true
  seen i y hy := by
    rw [lookup, find?_declare_of_own? hs hx, (find?_eq_some_iff hs).mpr hy]
    simp
  unseen i other hunseen := by
    rw [lookup, lookup, find?_declare_of_own? hs hx]
    cases hfound : s.find? i other with
    | none => rfl
    | some found =>
      obtain ⟨holder, y⟩ := found
      rw [Option.map_some, if_neg]
      rintro ⟨rfl, rfl⟩
      exact hunseen rfl y ((find?_eq_some_iff hs).mp hfound)

/-- A name can be assigned to just if the nearest scope declares it and not as a constant. -/
theorem fst_assign_eq_none_iff (hs : s.Grown) (v : α) :
    (s.assign scope name v).1 = none ↔ ∃ place w, s.Nearest name scope place ⟨w, true⟩ := by
  obtain ⟨place, w, hnearest, hassign⟩ | ⟨place, w, hnearest, hassign⟩ | ⟨hnone, hassign⟩ :=
    s.assign_cases hs scope name v
  · exact iff_of_true (by rw [hassign]) ⟨place, w, hnearest⟩
  · refine iff_of_false (by simp [hassign]) ?_
    rintro ⟨place', w', h⟩
    cases (hnearest.unique hs h).2
  · refine iff_of_false (by simp [hassign]) ?_
    rintro ⟨place, w, h⟩
    exact hnone place _ h

theorem rebound_assign (hs : s.Grown) {w : α} (h : s.Nearest name scope place ⟨w, true⟩) (v : α) :
    s.Rebound place name v (s.assign scope name v).2 := by
  obtain ⟨place', w', hnearest, hassign⟩ | ⟨place', w', hnearest, -⟩ | ⟨hnone, -⟩ :=
    s.assign_cases hs scope name v
  · obtain ⟨rfl, -⟩ := hnearest.unique hs h
    rw [hassign]
    exact rebound_declare hs h.own?_eq v
  · cases (hnearest.unique hs h).2
  · exact absurd h (hnone place _)

/-- To assign in vain changes nothing: the nearest scope declares a constant, or there is none. -/
theorem assign_in_vain (hs : s.Grown) (v : α) (e : AssignError) :
    (s.assign scope name v).1 = some e → (s.assign scope name v).2 = s ∧
      match e with
      | .constant => ∃ place w, s.Nearest name scope place ⟨w, false⟩
      | .undeclared other => other = name ∧ ∀ place x, ¬ s.Nearest name scope place x := by
  intro h
  obtain ⟨place, w, -, hassign⟩ | ⟨place, w, hnearest, hassign⟩ | ⟨hnone, hassign⟩ :=
    s.assign_cases hs scope name v
  · rw [hassign] at h
    cases h
  · rw [hassign] at h ⊢
    cases h
    exact ⟨rfl, place, w, hnearest⟩
  · rw [hassign] at h ⊢
    cases h
    exact ⟨rfl, rfl, hnone⟩

end Scopes

/-! ### Globals -/

/-- The names of the globals in a style. -/
def globalNames (style : Style) : List String :=
  globalObjects.map Prod.fst ++ globalValues.map Prod.fst ++ (styleValues style).map Prod.fst

theorem fst_makeObjects (heap : Heap) (objects : List (String × List (String × Value))) :
    (makeObjects heap objects).1.map Prod.fst = objects.map Prod.fst := by
  induction objects generalizing heap with
  | nil => rfl
  | cons entry rest ih => exact congrArg (entry.1 :: ·) (ih _)

/-- What has been declared together is declared, and constant. -/
theorem own?_declareAll {s : Scopes Value} {scope : Nat} (hscope : scope < s.frames.size)
    (hs : ∀ name x, s.own? scope name = some x → x.mutable = false) (vs : List (String × Value)) :
    (∀ name x, (declareAll scope vs s).own? scope name = some x → x.mutable = false) ∧
      ∀ name, ((declareAll scope vs s).own? scope name).isSome ↔
        name ∈ vs.map Prod.fst ∨ (s.own? scope name).isSome := by
  induction vs generalizing s with
  | nil => exact ⟨hs, fun name => by simp [declareAll]⟩
  | cons entry rest ih =>
    obtain ⟨key, v⟩ := entry
    have hown (name : String) : (s.declare scope key v false).own? scope name =
        if key = name then some ⟨v, false⟩ else s.own? scope name := by
      rw [Scopes.own?_declare]
      simp [hscope]
    have hsize : scope < (s.declare scope key v false).frames.size :=
      Nat.lt_of_lt_of_eq hscope (Array.size_modify ..).symm
    have hconstant : ∀ name x, (s.declare scope key v false).own? scope name = some x →
        x.mutable = false := by
      intro name x hx
      rw [hown] at hx
      split at hx
      · cases hx
        rfl
      · exact hs name x hx
    obtain ⟨hrest, hnames⟩ := ih hsize hconstant
    refine ⟨hrest, fun name => (hnames name).trans ?_⟩
    rw [hown, List.map_cons, List.mem_cons]
    by_cases hkey : key = name
    · simp [hkey]
    · simp [hkey, Ne.symm hkey]

theorem scopes_start (browser : Browser) : (Machine.start browser).scopes =
    declareAll globalScope
      ((makeObjects .empty globalObjects).1 ++ globalValues ++ styleValues browser.style)
      Scopes.empty.root.2 := by
  unfold Machine.start
  generalize makeObjects .empty globalObjects = made
  rfl

/-- The scope of the globals declares their names and no others, all of them as constants. -/
theorem own?_start (browser : Browser) :
    (∀ name x, (Machine.start browser).scopes.own? globalScope name = some x →
        x.mutable = false) ∧
      ∀ name, ((Machine.start browser).scopes.own? globalScope name).isSome ↔
        name ∈ globalNames browser.style := by
  have hnone (name : String) : (Scopes.empty : Scopes Value).root.2.own? globalScope name = none :=
    rfl
  have hsize : globalScope < (Scopes.empty : Scopes Value).root.2.frames.size := Nat.zero_lt_one
  have hdeclared := own?_declareAll hsize (fun name x h => by cases (hnone name).symm.trans h)
    ((makeObjects .empty globalObjects).1 ++ globalValues ++ styleValues browser.style)
  rw [← scopes_start] at hdeclared
  refine ⟨hdeclared.1, fun name => (hdeclared.2 name).trans ?_⟩
  rw [hnone, List.map_append, List.map_append, fst_makeObjects, globalNames]
  simp

/-- The names of the globals are those of constants in their scope. -/
theorem mem_globalNames_iff (browser : Browser) (name : String) :
    name ∈ globalNames browser.style ↔
      ∃ v, (Machine.start browser).scopes.own? globalScope name = some ⟨v, false⟩ := by
  obtain ⟨hconstant, hnames⟩ := own?_start browser
  rw [← hnames, Option.isSome_iff_exists]
  constructor
  · rintro ⟨⟨v, mutable⟩, hx⟩
    obtain rfl : mutable = false := hconstant name _ hx
    exact ⟨v, hx⟩
  · rintro ⟨v, hx⟩
    exact ⟨_, hx⟩

/-- A constant that lasts is what it was, and what was not declared is not. -/
theorem Scopes.Lasts.eq {α : Type} {x x' : Option (Variable α)} (h : Lasts x x')
    (hx : ∀ y, x = some y → y.mutable = false) : x' = x := by
  obtain h | ⟨v, v', rfl, -⟩ := h
  · exact h
  · cases hx _ rfl

/-- No run of a program makes a difference to the variables of the globals. -/
theorem own?_runFor (steps : Option Nat) (fuel : Nat) (p : Program) (browser : Browser)
    (name : String) : (p.runFor steps fuel browser).2.scopes.own? globalScope name =
      (Machine.start browser).scopes.own? globalScope name := by
  have hsize : globalScope < (Machine.start browser).scopes.frames.size := by
    rw [scopes_start, size_declareAll]
    exact Nat.zero_lt_one
  have hlasts := (confined_runFor steps fuel p browser).own globalScope name hsize nofun
  exact hlasts.eq ((own?_start browser).1 name)

/-- The scope of the globals lies in no other, so it sees what it declares itself. -/
theorem lookup_globalScope (s : Scopes Value) (name : String) :
    s.lookup globalScope name = (s.own? globalScope name).map (·.value) := by
  rw [Scopes.lookup, Scopes.find?, Scopes.findFrom_succ]
  cases s.own? globalScope name with
  | some x => rfl
  | none => cases s.parent? globalScope <;> rfl

/-- **Scopes are stacks of maps.**  Let every scope lie in one that was opened before it.  A name
means what the nearest scope declares, and it can be assigned to just if that scope declares it and
not as a constant.  Then this one variable gets the value, which is seen from all scopes for which it
is the nearest one, and nothing else changes.  Otherwise nothing changes at all.  To declare a name
in a scope is not seen from scopes that do not lie in it, such as those around it and next to it.
So whatever program is run on whatever browser, and for however long, the scope of the globals
declares the names of the globals with the values that they have from the beginning. -/
theorem scopes_are_stacks :
    (∀ s : Scopes Value, s.Grown → ∀ scope name v,
      (∀ w, s.lookup scope name = some w ↔
        ∃ place mutable, s.Nearest name scope place ⟨w, mutable⟩) ∧
      ((s.assign scope name v).1 = none ↔ ∃ place w, s.Nearest name scope place ⟨w, true⟩) ∧
      (∀ place w, s.Nearest name scope place ⟨w, true⟩ →
        s.Rebound place name v (s.assign scope name v).2) ∧
      (∀ e, (s.assign scope name v).1 = some e → (s.assign scope name v).2 = s ∧
        match e with
        | .constant => ∃ place w, s.Nearest name scope place ⟨w, false⟩
        | .undeclared other => other = name ∧ ∀ place x, ¬ s.Nearest name scope place x) ∧
      (∀ mutable, scope < s.frames.size →
        (s.declare scope name v mutable).own? scope name = some ⟨v, mutable⟩) ∧
      (∀ seer, seer ≠ scope → s.Within scope seer ∨ s.parent? seer = s.parent? scope →
        ¬ s.Within seer scope) ∧
      ∀ mutable seer other, ¬ s.Within seer scope →
        (s.declare scope name v mutable).lookup seer other = s.lookup seer other) ∧
    ∀ (p : Program) browser steps fuel name,
      let globals := (Machine.start browser).scopes
      let scopes := (p.runFor steps fuel browser).2.scopes
      (name ∈ globalNames browser.style ↔ ∃ v, globals.own? globalScope name = some ⟨v, false⟩) ∧
      scopes.own? globalScope name = globals.own? globalScope name ∧
      scopes.lookup globalScope name = globals.lookup globalScope name := by
  refine ⟨fun s hs scope name v => ⟨fun w => Scopes.lookup_eq_some_iff_nearest hs,
    Scopes.fst_assign_eq_none_iff hs v, fun place w h => Scopes.rebound_assign hs h v,
    Scopes.assign_in_vain hs v, fun mutable hscope => ?_, ?_, ?_⟩,
    fun p browser steps fuel name => ⟨mem_globalNames_iff browser name,
      own?_runFor steps fuel p browser name, ?_⟩⟩
  · rw [Scopes.own?_declare, if_pos ⟨rfl, rfl, hscope⟩]
  · rintro seer hne (houter | hsibling)
    · exact houter.not_of_outer hs hne
    · exact Scopes.Within.not_of_sibling hs hsibling hne
  · intro mutable seer other hwithin
    rw [Scopes.lookup, Scopes.lookup, Scopes.find?_declare_of_not_within hs hwithin]
  · rw [lookup_globalScope, lookup_globalScope, own?_runFor]

/-- Two scopes in that of a variable; in one of them there is a constant, too. -/
theorem scopes_are_stacks_siblings :
    let s : Scopes Value :=
      (((Scopes.empty.root.2.declare 0 "x" (.bool false) true).child 0).2.declare 1 "y" .null
        false).child 0 |>.2
    s.Grown ∧ s.Nearest "x" 1 0 ⟨.bool false, true⟩ ∧ s.Nearest "x" 2 0 ⟨.bool false, true⟩ ∧
      (s.assign 1 "x" (.bool true)).1 = none ∧
      (s.assign 1 "x" (.bool true)).2.lookup 2 "x" = some (.bool true) ∧
      (s.assign 1 "x" (.bool true)).2.lookup 1 "y" = s.lookup 1 "y" ∧
      (s.assign 1 "y" (.bool true)).1 = some .constant ∧ (s.assign 1 "y" (.bool true)).2 = s ∧
      (s.declare 1 "x" .null true).lookup 2 "x" = s.lookup 2 "x" := by
  intro s
  have hs : s.Grown :=
    (((Scopes.Grown.empty.root.declare _ _ _ _).child Nat.zero_lt_one).declare _ _ _ _).child
      (by decide)
  have hx (scope : Nat) (hnone : s.own? scope "x" = none) (hparent : s.parent? scope = some 0) :
      s.Nearest "x" scope 0 ⟨.bool false, true⟩ := .outer hnone hparent (.own rfl)
  have hx₁ := hx 1 rfl rfl
  have hx₂ := hx 2 rfl rfl
  have hy : (s.assign 1 "y" (.bool true)).1 = some .constant := rfl
  obtain ⟨-, hassigns, hrebound, -⟩ := scopes_are_stacks.1 s hs 1 "x" (.bool true)
  have hrebound := hrebound 0 _ hx₁
  obtain ⟨-, -, -, hfails, -⟩ := scopes_are_stacks.1 s hs 1 "y" (.bool true)
  obtain ⟨-, -, -, -, -, hapart, hdeclare⟩ := scopes_are_stacks.1 s hs 1 "x" .null
  exact ⟨hs, hx₁, hx₂, hassigns.mpr ⟨0, _, hx₁⟩, hrebound.seen 2 _ hx₂,
    hrebound.unseen 1 "y" (fun h => absurd h (by decide)), hy, (hfails _ hy).1,
    hdeclare true 2 "x" (hapart 2 (by decide) (.inr rfl))⟩

end BrowserLab.Script
