import Mathlib.Data.List.Infix
import BrowserLab.Text.Search

/-!
# Occurrences of a piece of text

* `cut?_eq_some`, `cut?_eq_none`: a text is cut at the first occurrence, if there is one.
* `occurs_iff`: a piece occurs in a text where it is a part of it.
* `intercalate_split`: the pieces between the occurrences of a separator, with the separator between
  them, are the text.
* `not_infix_of_mem_split`: the separator does not occur in a piece.
-/

namespace BrowserLab.Text

variable {piece text before after : List Char}

/-! ### The first occurrence -/

theorem cut?_eq_some (h : cut? piece text = some (before, after)) :
    text = before ++ (piece ++ after) ∧ ∀ i < before.length, ¬ piece <+: text.drop i := by
  induction text generalizing before with
  | nil =>
    obtain ⟨hpiece, hcut⟩ := Option.ite_none_right_eq_some.mp h
    cases hcut
    rw [List.isEmpty_iff.mp hpiece]
    exact ⟨rfl, nofun⟩
  | cons c rest ih =>
    rw [cut?] at h
    split at h
    · rename_i hhere
      cases h
      exact ⟨(List.prefix_iff_eq_append.mp (List.isPrefixOf_iff_prefix.mp hhere)).symm, nofun⟩
    · rename_i hhere
      obtain ⟨⟨before', after'⟩, hcut, heq⟩ := Option.map_eq_some_iff.mp h
      cases heq
      obtain ⟨htext, hfirst⟩ := ih hcut
      refine ⟨congrArg (c :: ·) htext, fun i hi => ?_⟩
      cases i with
      | zero => exact fun hprefix => hhere (List.isPrefixOf_iff_prefix.mpr hprefix)
      | succ i => exact hfirst i (Nat.lt_of_succ_lt_succ hi)

theorem cut?_eq_none (h : cut? piece text = none) (i : Nat) : ¬ piece <+: text.drop i := by
  induction text generalizing i with
  | nil =>
    rw [List.drop_nil, List.prefix_nil]
    rintro rfl
    cases h
  | cons c rest ih =>
    rw [cut?] at h
    split at h
    · cases h
    · rename_i hhere
      cases i with
      | zero => exact fun hprefix => hhere (List.isPrefixOf_iff_prefix.mpr hprefix)
      | succ i => exact ih (Option.map_eq_none_iff.mp h) i

theorem infix_iff_exists_drop : piece <:+: text ↔ ∃ i, piece <+: text.drop i := by
  rw [List.infix_iff_prefix_suffix]
  constructor
  · rintro ⟨t, hprefix, hsuffix⟩
    exact ⟨_, List.suffix_iff_eq_drop.mp hsuffix ▸ hprefix⟩
  · rintro ⟨i, hprefix⟩
    exact ⟨_, hprefix, List.drop_suffix i text⟩

theorem occurs_iff : occurs piece text = true ↔ piece <:+: text := by
  rw [occurs, infix_iff_exists_drop]
  cases hcut : cut? piece text with
  | none => simpa using cut?_eq_none hcut
  | some halves =>
    obtain ⟨before, after⟩ := halves
    obtain ⟨rfl, -⟩ := cut?_eq_some hcut
    refine iff_of_true rfl ⟨before.length, ?_⟩
    rw [List.drop_left]
    exact List.prefix_append _ _

/-! ### Splitting -/

variable {separator part : List Char} {skip : Nat}

theorem splitFrom_ne_nil : splitFrom separator skip part text ≠ [] := by
  fun_induction splitFrom separator skip part text with
  | case1 => exact List.cons_ne_nil _ _
  | case2 _ _ _ _ ih => exact ih
  | case3 => exact List.cons_ne_nil _ _
  | case4 _ _ _ _ ih => exact ih

theorem intercalate_cons {pieces : List (List Char)} (h : pieces ≠ []) :
    separator.intercalate (piece :: pieces) =
      piece ++ (separator ++ separator.intercalate pieces) := by
  cases pieces with
  | nil => exact absurd rfl h
  | cons next pieces => simp [List.intercalate]

/-- The pieces, with the separator between them, are the piece under way and what follows the
occurrence that is passed over. -/
theorem intercalate_splitFrom (hseparator : separator ≠ []) :
    separator.intercalate (splitFrom separator skip part text) =
      part.reverse ++ text.drop skip := by
  fun_induction splitFrom separator skip part text with
  | case1 => simp [List.intercalate]
  | case2 part c rest skip ih => exact ih
  | case3 part c rest hhere ih =>
    have hcut := List.prefix_iff_eq_append.mp (List.isPrefixOf_iff_prefix.mp hhere)
    have hlength : separator.length = separator.length - 1 + 1 := by
      have hpos := List.length_pos_iff.mpr hseparator
      omega
    rw [hlength, List.drop_succ_cons] at hcut
    rw [intercalate_cons splitFrom_ne_nil, ih, List.reverse_nil, List.nil_append, hcut,
      List.drop_zero]
  | case4 part c rest hhere ih =>
    rw [ih, List.reverse_cons, List.append_assoc]
    rfl

theorem intercalate_split (separator text : List Char) :
    separator.intercalate (split separator text) = text := by
  rw [split]
  split
  · rename_i hempty
    rw [List.isEmpty_iff.mp hempty]
    induction text with
    | nil => rfl
    | cons c rest ih =>
      cases rest with
      | nil => rfl
      | cons d rest => exact (intercalate_cons (List.cons_ne_nil _ _)).trans (congrArg (c :: ·) ih)
  · rename_i hempty
    exact intercalate_splitFrom fun h => hempty (List.isEmpty_iff.mpr h)

/-- A piece holds no occurrence if none begins within it and goes on in the text behind it. -/
theorem not_infix_of_clear (hseparator : separator ≠ [])
    (hclear : ∀ i < piece.length, ¬ separator <+: (piece ++ text).drop i) :
    ¬ separator <:+: piece := by
  rw [infix_iff_exists_drop]
  rintro ⟨i, hprefix⟩
  by_cases hi : i < piece.length
  · refine hclear i hi ?_
    rw [List.drop_append_of_le_length hi.le]
    exact hprefix.trans (List.prefix_append _ _)
  · rw [List.drop_eq_nil_of_le (Nat.le_of_not_lt hi), List.prefix_nil] at hprefix
    exact hseparator hprefix

/-- No occurrence begins within the piece under way, so that none comes to be in a piece. -/
theorem not_infix_of_mem_splitFrom (hseparator : separator ≠ []) (hskip : skip = 0 ∨ part = [])
    (hclear : ∀ i < part.length, ¬ separator <+: (part.reverse ++ text).drop i)
    (h : piece ∈ splitFrom separator skip part text) : ¬ separator <:+: piece := by
  have hunderway {part text : List Char}
      (hclear : ∀ i < part.length, ¬ separator <+: (part.reverse ++ text).drop i) :
      ¬ separator <:+: part.reverse :=
    not_infix_of_clear hseparator fun i hi => hclear i (List.length_reverse ▸ hi)
  fun_induction splitFrom separator skip part text with
  | case1 =>
    rw [List.mem_singleton.mp h]
    exact hunderway hclear
  | case2 part c rest skip ih =>
    obtain rfl := hskip.resolve_left (Nat.succ_ne_zero _)
    exact ih (.inr rfl) (fun i hi => absurd hi (Nat.not_lt_zero i)) h
  | case3 part c rest hhere ih =>
    rcases List.mem_cons.mp h with rfl | h
    · exact hunderway hclear
    · exact ih (.inr rfl) (fun i hi => absurd hi (Nat.not_lt_zero i)) h
  | case4 part c rest hhere ih =>
    refine ih (.inl rfl) (fun i hi => ?_) h
    rw [List.reverse_cons, List.append_assoc]
    rcases Nat.lt_succ_iff_lt_or_eq.mp hi with hi | rfl
    · exact hclear i hi
    · rw [← List.length_reverse, List.drop_left]
      exact fun hprefix => hhere (List.isPrefixOf_iff_prefix.mpr hprefix)

theorem not_infix_of_mem_split (hseparator : separator ≠ []) (h : piece ∈ split separator text) :
    ¬ separator <:+: piece := by
  rw [split, if_neg (mt List.isEmpty_iff.mp hseparator)] at h
  have hclear : ∀ i < ([] : List Char).length,
      ¬ separator <+: (([] : List Char).reverse ++ text).drop i :=
    fun i hi => absurd hi (Nat.not_lt_zero i)
  exact not_infix_of_mem_splitFrom hseparator (.inl rfl) hclear h

end BrowserLab.Text
