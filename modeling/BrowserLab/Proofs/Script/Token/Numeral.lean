import BrowserLab.Proofs.Script.Token.Cut
import BrowserLab.Proofs.Script.Token.Takes

/-!
# Texts that are numbers

A text that the lexer takes for a number from its first to its last character (`Numeral`), in any of
the ways to write one, is the same number wherever it stands and whatever follows it, if this does
not go on with it (`Cuts.numeral`).
-/

namespace BrowserLab.Script

open Scan

/-- The text is a number from its first to its last character. -/
def Numeral (s : String) (x : Float) : Prop :=
  ∃ fuel place, tokenKind fuel (.start s.toList) = .ok (.number x, ⟨[], place⟩)

variable {cs rest : List Char} {k : Token.Kind} {place after : Place}

/-! ### Pieces of a text with more behind it -/

theorem span_before {p : Char → Bool} (cs : List Char) (hrest : ∀ c ∈ rest.head?, p c = false) :
    (cs ++ rest).span p = ((cs.span p).1, (cs.span p).2 ++ rest) := by
  simp only [List.span_eq_takeWhile_dropWhile]
  induction cs with
  | nil =>
    cases rest with
    | nil => rfl
    | cons d rest => simp [hrest d rfl]
  | cons c cs ih =>
    rw [Prod.mk.injEq] at ih
    cases hc : p c with
    | true => simp [hc, ih.1, ih.2]
    | false => simp [hc]

theorem isWordPart_of_isHexDigit {d : Char} (h : isHexDigit d = true) : isWordPart d = true := by
  have hletter (hcode : d.val ≤ 'f'.val) (hcase : (d.isUpper || d.isLower) = true) :
      isWordPart d = true := by
    have hascii : d.toNat < 0x80 := Nat.lt_of_le_of_lt (UInt32.le_iff_toNat_le.mp hcode) (by decide)
    have halpha : d.isAlpha = true := hcase
    rw [isWordPart, isWordStart, Text.isAlphabetic, if_pos hascii, halpha, Bool.or_true,
      Bool.true_or]
  simp only [isHexDigit, Bool.or_eq_true, Bool.and_eq_true, decide_eq_true_eq] at h
  rcases h with (hdigit | ⟨hfirst, hlast⟩) | ⟨hfirst, hlast⟩
  · rw [isWordPart, hdigit, Bool.or_true]
  · have hbound : d.val ≤ 'z'.val := UInt32.le_trans hlast (by decide)
    have hlower : d.isLower = true :=
      Bool.and_eq_true_iff.mpr ⟨decide_eq_true hfirst, decide_eq_true hbound⟩
    exact hletter hlast (Bool.or_eq_true_iff.mpr (.inr hlower))
  · have hupper : d.isUpper = true :=
      decide_eq_true ⟨hfirst, UInt32.le_trans hlast (by decide)⟩
    exact hletter (UInt32.le_trans hlast (by decide)) (Bool.or_eq_true_iff.mpr (.inl hupper))

theorem EndsNumber.isHexDigit (h : EndsNumber rest) : ∀ c ∈ rest.head?, isHexDigit c = false := by
  intro c hc
  have hpart := (h c hc).1
  exact Bool.eq_false_iff.mpr fun hhex =>
    Bool.false_ne_true (hpart.symm.trans (isWordPart_of_isHexDigit hhex))

theorem EndsNumber.not_digit (h : EndsNumber rest) : ∀ c ∈ rest.head?, c.isDigit = false :=
  fun _ hc => (Bool.or_eq_false_iff.mp (h.isDigit hc)).1

theorem EndsNumber.pointOpensFraction (h : EndsNumber rest) (cs : List Char) :
    pointOpensFraction (cs ++ rest) = pointOpensFraction cs := by
  cases cs with
  | cons d cs => rfl
  | nil =>
    cases rest with
    | nil => rfl
    | cons d rest =>
      have hpart := (h d rfl).1
      rw [isWordPart, Bool.or_eq_false_iff] at hpart
      simp [Scan.pointOpensFraction, hpart.1]

/-- The mark of an exponent is one whatever follows the text. -/
theorem exponentMark?_append {n : Nat} (rest : List Char) (h : exponentMark? cs = some n) :
    exponentMark? (cs ++ rest) = some n ∧ n ≤ cs.length := by
  unfold exponentMark? at h
  split at h
  · obtain ⟨hmark, hn⟩ := Option.ite_none_right_eq_some.mp h
    cases hn
    exact ⟨if_pos hmark, by simp⟩
  · obtain ⟨hmark, hn⟩ := Option.ite_none_right_eq_some.mp h
    cases hn
    exact ⟨if_pos hmark, by simp⟩
  · rename_i e d cs _ _
    obtain ⟨hmark, hn⟩ := Option.ite_none_right_eq_some.mp h
    cases hn
    have hdigit := (Bool.and_eq_true_iff.mp hmark).2
    refine ⟨?_, by simp⟩
    unfold exponentMark?
    split
    · rename_i heq
      obtain ⟨rfl, -⟩ := List.cons.inj (List.cons.inj heq).2
      cases hdigit
    · rename_i heq
      obtain ⟨rfl, -⟩ := List.cons.inj (List.cons.inj heq).2
      cases hdigit
    · rename_i heq
      cases heq
      exact if_pos hmark
    · rename_i hnone
      exact absurd rfl (hnone e d (cs ++ rest))
  · cases h

/-! ### Numbers in base 10 -/

/-- The fraction at the beginning of a text, and what is behind it. -/
def fractionPart (cs : List Char) : List Char × List Char :=
  match cs with
  | '.' :: rest =>
    if pointOpensFraction rest then ('.' :: (rest.span Char.isDigit).1, (rest.span Char.isDigit).2)
    else ([], cs)
  | _ => ([], cs)

/-- The exponent at the beginning of a text, and what is behind it. -/
def exponentPart (cs : List Char) : List Char × List Char :=
  match exponentMark? cs with
  | some n =>
    (cs.take n ++ ((cs.drop n).span Char.isDigit).1, ((cs.drop n).span Char.isDigit).2)
  | none => ([], cs)

/-- The number in base 10 at the beginning of a text, and what is behind it. -/
def decimalPart (cs : List Char) : List Char × List Char :=
  let whole := cs.span fun d => d.isDigit || d = '_'
  let fraction := fractionPart whole.2
  let exponent := exponentPart fraction.2
  (whole.1 ++ fraction.1 ++ exponent.1, exponent.2)

theorem fractionPart_point (rest : List Char) : fractionPart ('.' :: rest) =
    if pointOpensFraction rest then ('.' :: (rest.span Char.isDigit).1, (rest.span Char.isDigit).2)
    else ([], '.' :: rest) := rfl

theorem fractionPart_of_not_point (h : ∀ rest, cs ≠ '.' :: rest) : fractionPart cs = ([], cs) := by
  unfold fractionPart
  split
  · exact absurd rfl (h _)
  · rfl

theorem exponentPart_of_some {n : Nat} (h : exponentMark? cs = some n) : exponentPart cs =
    (cs.take n ++ ((cs.drop n).span Char.isDigit).1, ((cs.drop n).span Char.isDigit).2) := by
  rw [exponentPart, h]

theorem exponentPart_of_none (h : exponentMark? cs = none) : exponentPart cs = ([], cs) := by
  rw [exponentPart, h]

theorem decimal_eq_decimalPart (cs : List Char) (place : Place) : ∃ after,
    decimal ⟨cs, place⟩ =
      match Number.unsigned? ((decimalPart cs).1.filter (· ≠ '_')) with
      | some x => .ok (.number x, ⟨(decimalPart cs).2, after⟩)
      | none => Cursor.fail ⟨(decimalPart cs).2, after⟩
        (.badNumber (String.ofList ((decimalPart cs).1.filter (· ≠ '_')))) := by
  unfold decimal
  split
  rename_i whole c₁ hwhole
  split
  rename_i fraction c₂ hfraction
  split
  rename_i exponent c₃ hexponent
  have hwhole' : cs.span (fun d => d.isDigit || d = '_') = (whole, c₁.rest) := by
    cases hwhole
    rfl
  have hfraction' : fractionPart c₁.rest = (fraction, c₂.rest) := by
    split at hfraction
    · rename_i rest hrest
      rw [hrest, fractionPart_point]
      split at hfraction <;> cases hfraction
      · rw [if_pos ‹_›]
        rfl
      · rw [if_neg ‹_›, hrest]
    · rename_i hpoint
      cases hfraction
      exact fractionPart_of_not_point hpoint
  have hexponent' : exponentPart c₂.rest = (exponent, c₃.rest) := by
    split at hexponent
    · rename_i n hmark
      cases hexponent
      exact exponentPart_of_some hmark
    · rename_i hmark
      cases hexponent
      exact exponentPart_of_none hmark
  have hpart : decimalPart cs = (whole ++ fraction ++ exponent, c₃.rest) := by
    simp only [decimalPart, hwhole', hfraction', hexponent']
  refine ⟨c₃.place, ?_⟩
  generalize decimalPart cs = part at hpart ⊢
  subst hpart
  rfl

theorem fractionPart_append (hrest : EndsNumber rest) (cs : List Char) :
    fractionPart (cs ++ rest) = ((fractionPart cs).1, (fractionPart cs).2 ++ rest) := by
  cases cs with
  | nil =>
    refine fractionPart_of_not_point fun ds hds => ?_
    rw [List.nil_append] at hds
    subst hds
    exact (hrest '.' rfl).2 rfl
  | cons d cs =>
    by_cases hd : d = '.'
    · subst hd
      rw [List.cons_append, fractionPart_point, fractionPart_point, hrest.pointOpensFraction cs,
        span_before cs hrest.not_digit]
      split <;> rfl
    · have hpoint (ds es : List Char) : d :: ds ≠ '.' :: es := fun heq => hd (List.cons.inj heq).1
      rw [List.cons_append, fractionPart_of_not_point (hpoint _),
        fractionPart_of_not_point (hpoint _), List.cons_append]

/-- Only the end of a text can be the beginning of an exponent to which something is missing. -/
theorem exponentPart_append (hrest : EndsNumber rest) (hall : (exponentPart cs).2 = []) :
    exponentPart (cs ++ rest) = ((exponentPart cs).1, rest) := by
  cases hmark : exponentMark? cs with
  | none =>
    rw [exponentPart_of_none hmark] at hall ⊢
    obtain rfl : cs = [] := hall
    exact exponentPart_of_none hrest.exponentMark?
  | some n =>
    obtain ⟨hmark', hn⟩ := exponentMark?_append rest hmark
    rw [exponentPart_of_some hmark] at hall ⊢
    dsimp only at hall ⊢
    rw [exponentPart_of_some hmark', List.take_append_of_le_length hn,
      List.drop_append_of_le_length hn, span_before _ hrest.not_digit, hall, List.nil_append]

theorem decimalPart_append (hrest : EndsNumber rest) (hall : (decimalPart cs).2 = []) :
    decimalPart (cs ++ rest) = ((decimalPart cs).1, rest) := by
  unfold decimalPart at hall ⊢
  dsimp only at hall ⊢
  rw [span_before cs fun c => hrest.isDigit]
  dsimp only
  rw [fractionPart_append hrest]
  dsimp only
  rw [exponentPart_append hrest hall]

/-! ### Numbers -/

theorem hexadecimal_append (hrest : EndsNumber rest)
    (h : hexadecimal ⟨cs, place⟩ = .ok (k, ⟨[], after⟩)) (place' : Place) :
    ∃ after', hexadecimal ⟨cs ++ rest, place'⟩ = .ok (k, ⟨rest, after'⟩) := by
  unfold hexadecimal Cursor.span at h ⊢
  dsimp only at h ⊢
  rw [span_before cs hrest.isHexDigit]
  dsimp only
  split at h
  · split at h
    · rename_i hlt
      simp only [Except.ok.injEq, Prod.mk.injEq, Cursor.mk.injEq] at h
      obtain ⟨rfl, hall, -⟩ := h
      rw [if_pos hlt, hall]
      exact ⟨_, rfl⟩
    · cases h
  · cases h

theorem decimal_append (hrest : EndsNumber rest)
    (h : decimal ⟨cs, place⟩ = .ok (k, ⟨[], after⟩)) (place' : Place) :
    ∃ after', decimal ⟨cs ++ rest, place'⟩ = .ok (k, ⟨rest, after'⟩) := by
  obtain ⟨mid, hdecimal⟩ := decimal_eq_decimalPart cs place
  obtain ⟨after', hdecimal'⟩ := decimal_eq_decimalPart (cs ++ rest) place'
  refine ⟨after', ?_⟩
  rw [hdecimal] at h
  split at h
  · rename_i x hx
    simp only [Except.ok.injEq, Prod.mk.injEq, Cursor.mk.injEq] at h
    obtain ⟨rfl, hall, -⟩ := h
    rw [hdecimal', decimalPart_append hrest hall, hx]
  · cases h

theorem number_append (hrest : EndsNumber rest)
    (h : number ⟨cs, place⟩ = .ok (k, ⟨[], after⟩)) (place' : Place) :
    ∃ after', number ⟨cs ++ rest, place'⟩ = .ok (k, ⟨rest, after'⟩) := by
  unfold number at h
  split at h
  · rename_i ds hcs
    obtain rfl : cs = '0' :: 'x' :: ds := hcs
    exact hexadecimal_append hrest h _
  · rename_i ds hcs
    obtain rfl : cs = '0' :: 'X' :: ds := hcs
    exact hexadecimal_append hrest h _
  · rename_i hlower hupper
    obtain ⟨after', hdecimal⟩ := decimal_append hrest h place'
    refine ⟨after', ?_⟩
    rw [← hdecimal]
    have hsecond {c : Char} {ds : List Char} (hc : isWordPart c = true)
        (hcs : ∀ ds, cs ≠ '0' :: c :: ds) (heq : cs ++ rest = '0' :: c :: ds) : cs = [] := by
      match cs, heq with
      | [], _ => rfl
      | [d], heq =>
        obtain ⟨-, rfl⟩ : d = '0' ∧ rest = c :: ds := List.cons.inj heq
        exact absurd hc (ne_true_of_eq_false (hrest c rfl).1)
      | d :: e :: cs, heq =>
        obtain ⟨rfl, hrest'⟩ := List.cons.inj heq
        obtain ⟨rfl, -⟩ := List.cons.inj hrest'
        exact absurd rfl (hcs cs)
    have hne : cs ≠ [] := by
      rintro rfl
      cases h
    unfold number
    split
    · rename_i heq
      exact absurd (hsecond (by decide) hlower heq) hne
    · rename_i heq
      exact absurd (hsecond (by decide) hupper heq) hne
    · rfl

/-! ### Numerals -/

/-- A number begins with a digit, or with a point and a digit. -/
theorem Numeral.exists_cons {s : String} {x : Float} (h : Numeral s x) :
    ∃ d cs place, s.toList = d :: cs ∧
      (d.isDigit = true ∨ d = '.' ∧ ∃ e ds, cs = e :: ds ∧ e.isDigit = true) ∧
        number (.start (d :: cs)) = .ok (.number x, ⟨[], place⟩) := by
  obtain ⟨fuel, place, h⟩ := h
  generalize s.toList = cs at h
  unfold tokenKind at h
  split at h
  case h_1 => cases h
  case h_2 d cs' hcs =>
    obtain rfl : cs = d :: cs' := hcs
    refine ⟨d, cs', place, rfl, ?_⟩
    extract_lets pointAndDigit at h
    split at h
    · rename_i hfirst
      refine ⟨?_, h⟩
      rw [Bool.or_eq_true, Bool.and_eq_true, decide_eq_true_eq] at hfirst
      refine hfirst.imp_right fun ⟨hpoint, hdigit⟩ => ⟨hpoint, ?_⟩
      cases cs' with
      | nil => cases hdigit
      | cons e ds => exact ⟨e, ds, rfl, hdigit⟩
    split at h
    · rename_i hquote
      have hmark : isQuoteMark d = true := by
        rcases Bool.or_eq_true _ _ ▸ hquote with hquote | hquote <;>
          rw [of_decide_eq_true hquote] <;> rfl
      obtain ⟨_, _, hk, -⟩ := takes_stringBody hmark h
      cases hk
    split at h
    · obtain ⟨_, _, hk, -⟩ := takes_templateBody h
      cases hk
    split at h
    · cases h
    · split at h <;> cases h

theorem Numeral.newline_not_mem {s : String} {x : Float} (h : Numeral s x) : '\n' ∉ s.toList := by
  obtain ⟨d, cs, place, hs, -, hnumber⟩ := h.exists_cons
  obtain ⟨_, text, -, htakes, -, hnumerals⟩ := takes_number hnumber
  have htext : s.toList = text := by
    rw [hs]
    exact htakes.rest.trans (List.append_nil text)
  rw [htext]
  intro hmem
  cases hnumerals '\n' hmem

/-- A number is one token, whatever stands behind it. -/
theorem Cuts.numeral {s : String} {x : Float} (h : Numeral s x) (hrest : EndsNumber rest) :
    Cuts s.toList [.number x] rest := by
  obtain ⟨d, cs, place, hs, hfirst, hnumber⟩ := h.exists_cons
  have hstart : Text.isBlank d = false ∧ d ≠ '/' := by
    rcases hfirst with hdigit | ⟨rfl, -⟩
    · refine ⟨isBlank_of_isDigit hdigit, ?_⟩
      rintro rfl
      cases hdigit
    · exact ⟨by decide, by decide⟩
  rw [hs]
  refine .token hstart.1 hstart.2 nofun fun fuel place' _ => ?_
  obtain ⟨after, hnumber'⟩ := number_append hrest hnumber place'
  refine ⟨after, ?_⟩
  rw [← List.cons_append, ← hnumber']
  rcases hfirst with hdigit | ⟨rfl, e, ds, rfl, hdigit⟩
  · simp [tokenKind, hdigit]
  · simp [tokenKind, hdigit]

end BrowserLab.Script
