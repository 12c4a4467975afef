import BrowserLab.Proofs.Script.Grammar.Places
import BrowserLab.Proofs.Script.Import
import BrowserLab.Script.Program

/-!
# Errors of texts that are not scripts

What is left of a text without its imports has the lines of that text, of some of them only the
end.  An error that stands in it therefore stands in the text as it was written.

* `Place.OnLine`: the place is a character of one of these lines, or the end of one.
* `onLine_of_stands`: what stands in a text is on one of its lines.
* `error_on_line_of_source`: so are the errors, and the lines are those of the text with its
  imports.
-/

namespace BrowserLab.Script

/-- The place is a character of one of these lines, or directly behind the last one of a line.
Lines and columns count from one. -/
structure Place.OnLine (lines : List (List Char)) (place : Place) : Prop where
  line : 1 ≤ place.line ∧ place.line ≤ lines.length
  column : 1 ≤ place.column ∧
    ∃ line, lines[place.line - 1]? = some line ∧ place.column ≤ line.length + 1

/-- The place behind the beginning of a text is on the line that this beginning ends in. -/
theorem exists_line_behind (before after : List Char) (p : Place) (hp : 1 ≤ p.column) :
    ∃ i line, (lines (before ++ after))[i]? = some line ∧ (p.behind before).line = p.line + i ∧
      1 ≤ (p.behind before).column ∧
      (p.behind before).column ≤ (if i = 0 then p.column else 1) + line.length := by
  induction before generalizing p with
  | nil =>
    obtain ⟨line, rest, hlines⟩ := exists_lines ([] ++ after)
    refine ⟨0, line, by rw [hlines]; rfl, ?_, ?_, ?_⟩
    · rw [Place.behind_nil, Nat.add_zero]
    · rwa [Place.behind_nil]
    · rw [Place.behind_nil, if_pos rfl]
      exact Nat.le_add_right _ _
  | cons d before ih =>
    have hbehind : p.behind (d :: before) = (p.past d).behind before := by
      rw [← List.singleton_append, Place.behind_append, Place.behind_singleton]
    rw [hbehind, List.cons_append]
    by_cases hd : d = '\n'
    · subst hd
      obtain ⟨i, line, hline, hplace, hfirst, hlast⟩ := ih (p.past '\n') (Nat.le_refl 1)
      refine ⟨i + 1, line, ?_, ?_, hfirst, ?_⟩
      · rw [lines_newline, List.getElem?_cons_succ]
        exact hline
      · rw [hplace]
        show p.line + 1 + i = _
        omega
      · have hcolumn : (p.past '\n').column = 1 := rfl
        rw [hcolumn, ite_self] at hlast
        rwa [if_neg (Nat.succ_ne_zero i)]
    · have hpast : p.past d = ⟨p.line, p.column + 1⟩ := if_neg hd
      have hcolumn : 1 ≤ (p.past d).column := by
        rw [hpast]
        exact Nat.le_add_left 1 _
      obtain ⟨i, line, hline, hplace, hfirst, hlast⟩ := ih (p.past d) hcolumn
      rw [lines_cons hd]
      obtain ⟨head, rest, hlines⟩ := exists_lines (before ++ after)
      rw [hlines] at hline ⊢
      rw [hpast] at hplace hfirst hlast ⊢
      cases i with
      | zero =>
        obtain rfl : head = line := Option.some.inj hline
        refine ⟨0, d :: head, rfl, hplace, hfirst, ?_⟩
        simp only [if_true, List.length_cons] at hlast ⊢
        omega
      | succ i => exact ⟨i + 1, line, hline, hplace, hfirst, hlast⟩

/-- What stands in a text is on one of its lines. -/
theorem onLine_of_stands {text : List Char} {place : Place} (h : Stands text place) :
    place.OnLine (lines text) := by
  obtain ⟨before, after, htext, rfl⟩ := h
  obtain rfl : text = before ++ after := htext
  obtain ⟨i, line, hline, hplace, hfirst, hlast⟩ :=
    exists_line_behind before after .start (Nat.le_refl 1)
  have hplace : (Place.start.behind before).line = 1 + i := hplace
  have hcolumn : (if i = 0 then Place.start.column else 1) = 1 := ite_self 1
  have hi : i < (lines (before ++ after)).length := (List.getElem?_eq_some_iff.mp hline).1
  rw [hcolumn] at hlast
  refine ⟨⟨?_, ?_⟩, hfirst, line, ?_, ?_⟩
  · show 1 ≤ (Place.start.behind before).line
    omega
  · show (Place.start.behind before).line ≤ _
    omega
  · show (lines (before ++ after))[(Place.start.behind before).line - 1]? = _
    rw [hplace, Nat.add_sub_cancel_left, hline]
  · show (Place.start.behind before).column ≤ _
    omega

/-- A place is on a longer line if it is on its end. -/
theorem Place.OnLine.of_suffix {ends lines : List (List Char)} {place : Place}
    (h : List.Forall₂ (· <:+ ·) ends lines) (hplace : place.OnLine ends) : place.OnLine lines := by
  obtain ⟨⟨hfirst, hlast⟩, hcolumn, line, hline, hshort⟩ := hplace
  have hlength : ends.length = lines.length := h.length_eq
  obtain ⟨hends, rfl⟩ := List.getElem?_eq_some_iff.mp hline
  have hlines : place.line - 1 < lines.length := hlength ▸ hends
  have hsuffix := (List.forall₂_iff_get.mp h).2 (place.line - 1) hends hlines
  refine ⟨⟨hfirst, hlength ▸ hlast⟩, hcolumn, _, List.getElem?_eq_getElem hlines, ?_⟩
  exact hshort.trans (Nat.succ_le_succ hsuffix.length_le)

/-- Taking out imports keeps the number of lines, and of each line at least its end; and where
compiling fails, the error is on a line of the text that still has its imports. -/
theorem error_on_line_of_source (source : String) :
    List.Forall₂ (· <:+ ·) (lines (stripImports source).toList) (lines source.toList) ∧
      ∀ e, compile source = .error e → e.place.OnLine (lines source.toList) := by
  have hlines := (strips_stripImports source).lines.1
  refine ⟨hlines, fun e he => ?_⟩
  have hparse : parse (stripImports source) = .error e := by
    unfold compile at he
    cases h : parse (stripImports source) with
    | error e' =>
      rw [h] at he
      exact congrArg Except.error (Except.error.inj he)
    | ok body =>
      rw [h] at he
      cases he
  exact (onLine_of_stands (stands_of_parse hparse)).of_suffix hlines

/-- The import spans two lines, and the string behind it is open at the end of the third. -/
theorem error_on_line_of_source_string :
    ∃ e, compile "import t\nfrom 'kit';\ngo('now" = .error e ∧ e.place = ⟨3, 8⟩ ∧
      e.place.OnLine (lines "import t\nfrom 'kit';\ngo('now".toList) := by
  have hplace : (match compile "import t\nfrom 'kit';\ngo('now" with
      | .error e => some e.place
      | .ok _ => none) = some ⟨3, 8⟩ := by decide +kernel
  cases hcompile : compile "import t\nfrom 'kit';\ngo('now" with
  | error e =>
    rw [hcompile] at hplace
    exact ⟨e, rfl, Option.some.inj hplace, (error_on_line_of_source _).2 e hcompile⟩
  | ok program =>
    rw [hcompile] at hplace
    cases hplace

end BrowserLab.Script
