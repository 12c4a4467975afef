import BrowserLab.Proofs.Number.Shortest

/-!
# Numbers as keys

A property is stored under the text of one number and looked for under the text of another.  What is
stored is the digits of an integer below `10 ^ 15`, and from there on the fewest digits that read
back, filled up with zeros.  What is looked for is the integer in 64 bits, clamped.

* `exists_plain_eq`: what is known of the text of a great integer.
* `keyText_of_lt`: the key of an integer of 54 bits is the integer.
* `keyText_eq_display_iff`: when the two texts are the same.
-/

namespace BrowserLab.Number

/-! ### Signed digits -/

theorem intText_injective : Function.Injective intText := by
  intro i j h
  have hread (k : Int) : ofDigits (digitChars k.natAbs) = k.natAbs := Script.ofDigits_digitChars _
  have hsign {k : Nat} {ds : List Char} : digitChars k ≠ '-' :: ds := fun heq => by
    have hminus := Script.isDigit_of_mem_digitChars (heq ▸ List.mem_cons_self : '-' ∈ digitChars k)
    cases hminus
  have hlist := congrArg String.toList h
  rw [toList_intText, toList_intText] at hlist
  have hi := hread i
  have hj := hread j
  split at hlist <;> split at hlist
  · rw [(List.cons.inj hlist).2] at hi
    omega
  · exact absurd hlist.symm hsign
  · exact absurd hlist hsign
  · rw [hlist] at hi
    omega

/-- The text of a size that is not zero, with its sign. -/
theorem withSign_digitChars (negative : Bool) {n : Nat} (hn : 0 < n) :
    withSign negative (digitChars n) = intText (if negative then -(n : Int) else n) := by
  rw [← String.toList_inj, withSign, toList_intText, String.toList_ofList]
  cases negative with
  | true => rw [if_pos rfl, if_pos rfl, if_pos (by omega), Int.natAbs_neg, Int.natAbs_natCast]
  | false =>
    rw [if_neg Bool.false_ne_true, if_neg Bool.false_ne_true, if_neg (by omega),
      Int.natAbs_natCast]

/-! ### The texts -/

section Texts

variable {x y : Float} {i j : Int}

theorem exists_whole_eq (hx : Worth x i) :
    ∃ p, shape x = .finite p ∧ p.integral ∧ p.truncate = i ∧ p.whole = i.natAbs := by
  obtain ⟨p, hp, -⟩ := id hx
  obtain ⟨hintegral, htruncate⟩ := (worth_iff hp).mp hx
  refine ⟨p, hp, hintegral, htruncate, ?_⟩
  rw [← htruncate, Parts.truncate]
  split <;> omega

/-- The text of a great integer is that of the integer, or of one that no number is.  The last digit
of a very great one is zero. -/
theorem exists_plain_eq (hx : Worth x i) (hlow : 10 ^ 15 ≤ i.natAbs) (hhigh : i.natAbs < 10 ^ 21) :
    ∃ k : Int, plain x = intText k ∧ (∀ y, Worth y k → k = i) ∧
      (2 * 10 ^ 18 ≤ k.natAbs → 10 ∣ k.natAbs) ∧ (i.natAbs < 2 ^ 54 → k = i) := by
  obtain ⟨p, hp, hintegral, htruncate, hwhole⟩ := exists_whole_eq hx
  have hgreat : p.Great := ⟨fitting_of_shape hp, hintegral, hwhole ▸ hlow, hwhole ▸ hhigh⟩
  have hpos := hgreat.whole_shortest_pos
  let k : Int := if p.negative then -(p.shortest.whole : Int) else p.shortest.whole
  have habs : k.natAbs = p.shortest.whole := by
    simp only [k]
    split <;> omega
  have hsame (heq : p.shortest.whole = p.whole) : k = i := by
    rw [← htruncate, Parts.truncate, ← heq]
  refine ⟨k, ?_, fun y hy => hsame ?_, ?_, fun hlt => hsame ?_⟩
  · rw [plain, hp]
    simp only
    rw [Decimal.positional_of_whole hgreat.exists_shortest.1, withSign_digitChars _ hpos]
  · obtain ⟨q, hq, hsize⟩ := hy
    refine hgreat.whole_shortest_of_size (fitting_of_shape hq) ?_
    rw [← habs]
    rw [Parts.signedSize] at hsize
    have habsolute := congrArg Int.natAbs hsize
    rw [Int.natAbs_mul, Int.natAbs_natCast] at habsolute
    split at habsolute <;> simpa using habsolute
  · rw [habs]
    exact hgreat.ten_dvd_whole_shortest
  · exact hgreat.whole_shortest_eq (hwhole ▸ hlt)

theorem wholeBelow_iff (hx : Worth x i) {bound : Nat} :
    wholeBelow bound x = true ↔ i.natAbs < bound := by
  obtain ⟨p, hp, hintegral, -, hwhole⟩ := exists_whole_eq hx
  rw [wholeBelow, hp]
  simp [hintegral, hwhole]

theorem keyText_of_small (hx : Worth x i) (h : i.natAbs < 10 ^ 15) : keyText x = intText i := by
  have hbelow : wholeBelow (Nat.pow 10 15) x = true := (wholeBelow_iff hx).mpr h
  rw [keyText, if_pos hbelow, toInt64, hx.clampInt, Nat.pow_eq]
  congr 1
  omega

theorem keyText_of_great (hx : Worth x i) (h : 10 ^ 15 ≤ i.natAbs) : keyText x = plain x := by
  refine if_neg ?_
  rw [wholeBelow_iff hx, Nat.pow_eq]
  omega

/-- The key of an integer of 54 bits is the integer. -/
theorem keyText_of_lt (hx : Worth x i) (h : i.natAbs < 2 ^ 54) : keyText x = intText i := by
  rcases lt_or_ge i.natAbs (10 ^ 15) with hsmall | hgreat
  · exact keyText_of_small hx hsmall
  · obtain ⟨k, htext, -, -, hexact⟩ := exists_plain_eq hx hgreat (by omega)
    rw [keyText_of_great hx hgreat, htext, hexact h]

/-- The key of an integer is looked for with the same integer only, if it is one of 64 bits and its
key is written exactly. -/
theorem keyText_eq_display_iff (hx : Worth x i) (hy : Worth y j) (hi : i.natAbs < 10 ^ 21)
    (hj : j.natAbs < 10 ^ 21) :
    keyText x = display y ↔ i = j ∧ j.natAbs < 2 ^ 63 ∧ keyText x = intText i := by
  rw [display_of_wholeBelow hy ((wholeBelow_iff hy).mpr hj)]
  constructor
  · intro heq
    rcases lt_or_ge i.natAbs (10 ^ 15) with hsmall | hgreat
    · rw [keyText_of_small hx hsmall] at heq ⊢
      have hclamp := intText_injective heq
      exact ⟨by omega, by omega, rfl⟩
    · obtain ⟨k, htext, hexact, hzero, -⟩ := exists_plain_eq hx hgreat hi
      rw [keyText_of_great hx hgreat, htext] at heq ⊢
      have hclamp := intText_injective heq
      have hbits : j.natAbs < 2 ^ 63 := by
        by_contra hlarge
        obtain ⟨d, hd⟩ := hzero (by omega)
        omega
      obtain rfl : k = j := by omega
      obtain rfl := hexact y hy
      exact ⟨rfl, hbits, rfl⟩
  · rintro ⟨rfl, hbits, htext⟩
    rw [htext]
    congr 1
    omega

end Texts

end BrowserLab.Number
