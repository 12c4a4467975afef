import BrowserLab.Proofs.Script.Follows
import BrowserLab.Proofs.Script.Grammar.Levels
import BrowserLab.Proofs.Script.Json.Literal
import BrowserLab.Proofs.Script.Json.Shown

/-!
# Evaluating the literal of a JSON value

Evaluated on a machine that does not count its steps, the literal of a value makes a value that
shows it, and nothing but the heap changes (`builds`).
-/

namespace BrowserLab.Script

open Eval Json

variable {m m' : Machine} {fuel scope : Nat} {v : Value} {j : Json}

/-! ### Literals -/

/-- With more fuel than it has tokens, the literal of the value makes a value that shows it. -/
def Builds (j : Json) : Prop :=
  ∀ fuel (m : Machine) scope, (literalTokens j).length < fuel → m.stepsLeft = none →
    ∃ v h, (eval fuel (literal j) scope).runOn m = (.ok v, { m with heap := h }) ∧
      Shows m.heap h v j

theorem builds_scalar {v : Value} (hdata : IsData v)
    (hform : ∀ (h : Heap) depth, h.jsonTo (depth + 1) v = Json.sorted j)
    (heval : ∀ fuel (m : Machine) scope, (literalTokens j).length ≤ fuel → m.stepsLeft = none →
      (eval (fuel + 1) (literal j) scope).runOn m = (.ok v, m)) : Builds j := by
  intro fuel m scope hfuel hm
  obtain ⟨fuel, rfl⟩ : ∃ n, fuel = n + 1 := ⟨fuel - 1, by omega⟩
  exact ⟨v, m.heap, heval fuel m scope (Nat.le_of_lt_succ hfuel) hm, .scalar m.heap hdata hform⟩

/-- A literal that is evaluated in one step and to the same value everywhere. -/
theorem builds_constant {v : Value} (hdata : IsData v)
    (hform : ∀ (h : Heap) depth, h.jsonTo (depth + 1) v = Json.sorted j)
    (heval : ∀ fuel scope, eval (fuel + 1) (literal j) scope = step >>= fun _ => pure v) :
    Builds j := by
  refine builds_scalar hdata hform fun fuel m scope _ hm => ?_
  rw [heval, runOn_bind_ok (runOn_step hm)]
  rfl

theorem builds_int {i : Int} (hi : i.natAbs < 9 * 10 ^ 15) : Builds (.int i) := by
  by_cases hneg : i < 0
  · have hliteral : literal (.int i) = .unary .neg (.number (Number.nearest i.natAbs 0)) :=
      if_pos hneg
    refine builds_scalar (v := .number (-Number.nearest i.natAbs 0)) ⟨rfl, rfl⟩ ?_ ?_
    · intro h depth
      have hform := Number.ofNumber_neg_nearest (n := i.natAbs) (by omega) hi
      have hi' : -(i.natAbs : Int) = i := by omega
      rw [hi'] at hform
      exact hform
    · intro fuel m scope hfuel hm
      have htokens : (literalTokens (.int i)).length = 2 := by
        rw [literalTokens, hliteral]
        rfl
      obtain ⟨fuel, rfl⟩ : ∃ n, fuel = n + 2 := ⟨fuel - 2, by omega⟩
      have hoperand : (eval (fuel + 1) (.number (Number.nearest i.natAbs 0)) scope).runOn m =
          (.ok (.number (Number.nearest i.natAbs 0)), m) := by
        rw [eval, runOn_bind_ok (runOn_step hm)]
        rfl
      rw [hliteral, eval, runOn_bind_ok (runOn_step hm)]
      show (evalUnary (fuel + 2) _ _ _).runOn m = _
      rw [evalUnary]
      show (eval (fuel + 1) _ _ >>= _).runOn m = _
      rw [runOn_bind_ok hoperand]
      rfl
  · have hliteral : literal (.int i) = .number (Number.nearest i.natAbs 0) := if_neg hneg
    refine builds_constant (v := .number (Number.nearest i.natAbs 0)) ⟨rfl, rfl⟩ ?_ ?_
    · intro h depth
      have hform := Number.ofNumber_nearest hi
      have hi' : (i.natAbs : Int) = i := by omega
      rw [hi'] at hform
      exact hform
    · intro fuel scope
      rw [hliteral, eval]

/-- Items are made one after the other. -/
theorem evalElements_builds (scope : Nat) {items : List Json} (hitems : ∀ j ∈ items, Builds j)
    (hfuel : items.length < fuel)
    (hlength : ∀ j ∈ items, (literalTokens j).length + items.length < fuel)
    (hm : m.stepsLeft = none) :
    ∃ vs h, (evalElements fuel (literalItems items) scope).runOn m =
      (.ok vs, { m with heap := h }) ∧ ShowsItems m.heap h vs items := by
  induction items generalizing fuel m with
  | nil =>
    obtain ⟨fuel, rfl⟩ : ∃ n, fuel = n + 1 := ⟨fuel - 1, by omega⟩
    refine ⟨[], m.heap, ?_, .nil m.heap⟩
    rw [literalItems, evalElements]
    · rfl
    · exact Nat.succ_ne_zero _
  | cons j items ih =>
    obtain ⟨fuel, rfl⟩ : ∃ n, fuel = n + 1 := ⟨fuel - 1, by omega⟩
    simp only [List.length_cons] at hfuel hlength
    have hj := hlength j List.mem_cons_self
    obtain ⟨v, h, heval, hv⟩ := hitems j List.mem_cons_self fuel m scope (by omega) hm
    have hfuel' : items.length < fuel := by omega
    have hlength' : ∀ j ∈ items, (literalTokens j).length + items.length < fuel := by
      intro j hj
      have hj := hlength j (List.mem_cons_of_mem _ hj)
      omega
    have hm' : ({ m with heap := h } : Machine).stepsLeft = none := hm
    obtain ⟨vs, h', hevals, hvs⟩ :=
      ih (fun j hj => hitems j (List.mem_cons_of_mem _ hj)) hfuel' hlength' hm'
    refine ⟨v :: vs, h', ?_, hvs.cons hv⟩
    rw [literalItems, evalElements, runOn_bind_ok heval, runOn_bind_ok hevals]
    rfl

/-- Members are made one after the other. -/
theorem evalProperties_builds (scope : Nat) {members : List (String × Json)}
    (hmembers : ∀ entry ∈ members, Builds entry.2) (hfuel : members.length < fuel)
    (hlength : ∀ entry ∈ members, (literalTokens entry.2).length + members.length < fuel)
    (hm : m.stepsLeft = none) :
    ∃ vs h, (evalProperties fuel (literalMembers members) scope).runOn m =
      (.ok vs, { m with heap := h }) ∧ ShowsMembers m.heap h vs members := by
  induction members generalizing fuel m with
  | nil =>
    obtain ⟨fuel, rfl⟩ : ∃ n, fuel = n + 1 := ⟨fuel - 1, by omega⟩
    refine ⟨[], m.heap, ?_, .nil m.heap⟩
    rw [literalMembers, evalProperties]
    · rfl
    · exact Nat.succ_ne_zero _
  | cons entry members ih =>
    obtain ⟨k, j⟩ := entry
    obtain ⟨fuel, rfl⟩ : ∃ n, fuel = n + 1 := ⟨fuel - 1, by omega⟩
    simp only [List.length_cons] at hfuel hlength
    have hj := hlength (k, j) List.mem_cons_self
    obtain ⟨v, h, heval, hv⟩ := hmembers (k, j) List.mem_cons_self fuel m scope (by omega) hm
    have hfuel' : members.length < fuel := by omega
    have hlength' : ∀ entry ∈ members,
        (literalTokens entry.2).length + members.length < fuel := by
      intro entry hentry
      have hentry := hlength entry (List.mem_cons_of_mem _ hentry)
      omega
    have hm' : ({ m with heap := h } : Machine).stepsLeft = none := hm
    obtain ⟨vs, h', hevals, hvs⟩ :=
      ih (fun e he => hmembers e (List.mem_cons_of_mem _ he)) hfuel' hlength' hm'
    refine ⟨(k, v) :: vs, h', ?_, hvs.cons hv⟩
    rw [literalMembers, evalProperties, runOn_bind_ok heval, runOn_bind_ok hevals]
    rfl

theorem builds_arr {items : List Json} (hitems : ∀ j ∈ items, Builds j) : Builds (.arr items) := by
  intro fuel m scope hfuel hm
  obtain ⟨fuel, rfl⟩ : ∃ n, fuel = n + 1 := ⟨fuel - 1, by omega⟩
  have hcount := length_le_separated (items.map literalTokens)
  rw [literalTokens_arr] at hfuel
  simp only [List.length_cons, List.length_append, List.length_nil, List.length_map] at hfuel hcount
  have hlength : ∀ j ∈ items, (literalTokens j).length + items.length < fuel := by
    intro j hj
    have hsum := length_add_le_separated (List.mem_map_of_mem (f := literalTokens) hj)
    rw [List.length_map] at hsum
    omega
  obtain ⟨vs, h, hevals, hvs⟩ :=
    evalElements_builds scope hitems (by omega) hlength hm
  refine ⟨_, _, ?_, hvs.array⟩
  rw [literal, eval, runOn_bind_ok (runOn_step hm), runOn_bind_ok hevals]
  rfl

theorem builds_obj {members : List (String × Json)} (hmembers : ∀ entry ∈ members, Builds entry.2) :
    Builds (.obj members) := by
  intro fuel m scope hfuel hm
  obtain ⟨fuel, rfl⟩ : ∃ n, fuel = n + 1 := ⟨fuel - 1, by omega⟩
  have hcount := length_le_separated (members.map memberTokens)
  rw [literalTokens_obj] at hfuel
  simp only [List.length_cons, List.length_append, List.length_nil, List.length_map] at hfuel hcount
  have hlength : ∀ entry ∈ members, (literalTokens entry.2).length + members.length < fuel := by
    intro entry hentry
    have hsum := length_add_le_separated (List.mem_map_of_mem (f := memberTokens) hentry)
    simp only [memberTokens, List.length_cons, List.length_map] at hsum
    omega
  obtain ⟨vs, h, hevals, hvs⟩ :=
    evalProperties_builds scope hmembers (by omega) hlength hm
  refine ⟨_, _, ?_, hvs.object⟩
  rw [literal, eval, runOn_bind_ok (runOn_step hm), runOn_bind_ok hevals]
  rfl

/-- The literal of every value whose numbers are whole makes a value that shows it. -/
theorem builds (hj : Whole j) : Builds j := by
  induction hj with
  | null =>
    refine builds_constant (v := .null) ⟨rfl, rfl⟩ (fun _ _ => rfl) fun fuel scope => ?_
    rw [literal, eval]
  | bool b =>
    refine builds_constant (v := .bool b) ⟨rfl, rfl⟩ (fun _ _ => rfl) fun fuel scope => ?_
    rw [literal, eval]
  | int hi => exact builds_int hi
  | str s =>
    refine builds_constant (v := .string s) ⟨rfl, rfl⟩ (fun _ _ => rfl) fun fuel scope => ?_
    rw [literal, eval]
  | arr _ ih => exact builds_arr ih
  | obj _ ih => exact builds_obj ih

end BrowserLab.Script
