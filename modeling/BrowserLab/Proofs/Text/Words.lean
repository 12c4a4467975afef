import BrowserLab.Text.Blank
import BrowserLab.Text.Case

/-!
# Characters of small letters and of words

* `mem_of_mem_lower`: of the characters before the letter `a`, a text in small letters has no others
  than the text itself.
* `mem_of_mem_words`: words consist of characters of the text that are not blank.
* `mem_of_mem_intercalate`: words with a separator between them have nothing else.
-/

namespace BrowserLab.Text

variable {d : Char} {cs : List Char}

/-! ### Small letters -/

theorem toLower_eq_or_le (c : Char) : c.toLower = c ∨ 0x61 ≤ c.toLower.toNat := by
  unfold Char.toLower
  split
  · rename_i hupper
    right
    have hfirst : 65 ≤ c.val.toNat := UInt32.le_iff_toNat_le.mp hupper.1
    have hlast : c.val.toNat ≤ 90 := UInt32.le_iff_toNat_le.mp hupper.2
    show 0x61 ≤ (c.val + 32).toNat
    rw [UInt32.toNat_add, Nat.mod_eq_of_lt]
    · exact Nat.add_le_add_right hfirst 32
    · exact Nat.lt_of_le_of_lt (Nat.add_le_add_right hlast 32) (by decide)
  · exact .inl rfl

/-- No other character than the first letters and what comes behind them is the small letter of a
character beyond ASCII. -/
theorem le_of_mem_lowerRuns : ∀ r ∈ lowerRuns, (0x61 : Int) ≤ r.first + r.shift := by
  decide +kernel

theorem le_of_image? {r : CaseRun} (hr : r ∈ lowerRuns) {n k : Nat} (h : r.image? n = some k) :
    0x61 ≤ k := by
  have hfirst := le_of_mem_lowerRuns r hr
  unfold CaseRun.image? at h
  split at h
  · rename_i hwithin
    simp only [Bool.and_eq_true, decide_eq_true_eq] at hwithin
    have hk := Option.some.inj h
    omega
  · cases h

theorem toNat_ofNat_or_zero (k : Nat) : (Char.ofNat k).toNat = k ∨ (Char.ofNat k).toNat = 0 := by
  by_cases hvalid : k.isValidChar
  · exact .inl (by rw [Char.ofNat, dif_pos hvalid]; rfl)
  · exact .inr (by rw [Char.ofNat, dif_neg hvalid]; rfl)

theorem eq_of_mem_lowerChar {c : Char} (hd : d.toNat < 0x61) (hzero : d.toNat ≠ 0)
    (h : d ∈ lowerChar c) : d = c := by
  unfold lowerChar at h
  split at h
  · obtain rfl := List.mem_singleton.mp h
    rcases toLower_eq_or_le c with heq | hle
    · exact heq
    · omega
  split at h
  · rcases List.mem_cons.mp h with rfl | h
    · exact absurd hd (by decide)
    · obtain rfl := List.mem_singleton.mp h
      exact absurd hd (by decide)
  · obtain rfl := List.mem_singleton.mp h
    cases hfound : lowerRuns.findSome? (·.image? c.toNat) with
    | none => rfl
    | some k =>
      obtain ⟨r, hr, himage⟩ := List.exists_of_findSome?_eq_some hfound
      have hk := le_of_image? hr himage
      rw [hfound, Option.map_some, Option.getD_some] at hd hzero
      rcases toNat_ofNat_or_zero k with heq | heq <;> omega

theorem mem_of_mem_lowerFrom {before : List Char} (hd : d.toNat < 0x61) (hzero : d.toNat ≠ 0)
    (h : d ∈ lowerFrom before cs) : d ∈ cs := by
  induction cs generalizing before with
  | nil => exact h
  | cons c cs ih =>
    rw [lowerFrom] at h
    rcases List.mem_append.mp h with h | h
    · split at h
      · split at h
        all_goals
          obtain rfl := List.mem_singleton.mp h
          exact absurd hd (by decide)
      · rw [eq_of_mem_lowerChar hd hzero h]
        exact List.mem_cons_self
    · exact List.mem_cons_of_mem _ (ih h)

/-- A character before the small letters is in a text in small letters only if it is in the text. -/
theorem mem_of_mem_lower {s : String} (hd : d.toNat < 0x61) (hzero : d.toNat ≠ 0)
    (h : d ∈ (lower s).toList) : d ∈ s.toList := by
  rw [lower, String.toList_ofList] at h
  exact mem_of_mem_lowerFrom hd hzero h

/-! ### Words -/

theorem mem_of_mem_wordsFrom {word w : List Char} (hword : ∀ d ∈ word, isBlank d = false)
    (hw : w ∈ wordsFrom word cs) (hd : d ∈ w) : d ∈ word ∨ d ∈ cs ∧ isBlank d = false := by
  induction cs generalizing word with
  | nil =>
    rw [wordsFrom] at hw
    split at hw
    · cases hw
    · obtain rfl := List.mem_singleton.mp hw
      exact .inl (List.mem_reverse.mp hd)
  | cons c cs ih =>
    have hnone (hw : w ∈ wordsFrom [] cs) : d ∈ c :: cs ∧ isBlank d = false := by
      obtain ⟨hmem, hplain⟩ := (ih (List.forall_mem_nil _) hw).resolve_left List.not_mem_nil
      exact ⟨List.mem_cons_of_mem _ hmem, hplain⟩
    rw [wordsFrom] at hw
    by_cases hblank : isBlank c = true
    · rw [if_pos hblank] at hw
      split at hw
      · exact .inr (hnone hw)
      · rcases List.mem_cons.mp hw with rfl | hw
        · exact .inl (List.mem_reverse.mp hd)
        · exact .inr (hnone hw)
    · rw [if_neg hblank] at hw
      have hplain := Bool.not_eq_true _ ▸ hblank
      rcases ih (List.forall_mem_cons.mpr ⟨hplain, hword⟩) hw with hmem | ⟨hmem, hd'⟩
      · rcases List.mem_cons.mp hmem with rfl | hmem
        · exact .inr ⟨List.mem_cons_self, hplain⟩
        · exact .inl hmem
      · exact .inr ⟨List.mem_cons_of_mem _ hmem, hd'⟩

/-- Words consist of characters of the text that are not blank. -/
theorem mem_of_mem_words {s w : String} (hw : w ∈ words s) (hd : d ∈ w.toList) :
    d ∈ s.toList ∧ isBlank d = false := by
  obtain ⟨cs, hcs, rfl⟩ := List.mem_map.mp hw
  rw [String.toList_ofList] at hd
  exact (mem_of_mem_wordsFrom (List.forall_mem_nil _) hcs hd).resolve_left List.not_mem_nil

/-! ### Words behind each other -/

theorem mem_of_mem_listIntercalate {separator : List Char} {parts : List (List Char)}
    (h : d ∈ separator.intercalate parts) : d ∈ separator ∨ ∃ part ∈ parts, d ∈ part := by
  induction parts with
  | nil => cases h
  | cons part parts ih =>
    cases parts with
    | nil =>
      rw [List.intercalate_singleton] at h
      exact .inr ⟨part, List.mem_cons_self, h⟩
    | cons part' parts =>
      rw [List.intercalate_cons_cons, List.mem_append, List.mem_append] at h
      rcases h with (h | h) | h
      · exact .inr ⟨part, List.mem_cons_self, h⟩
      · exact .inl h
      · rcases ih h with h | ⟨other, hother, h⟩
        · exact .inl h
        · exact .inr ⟨other, List.mem_cons_of_mem _ hother, h⟩

/-- What has been put together from texts has the characters of these texts, and of the text between
them. -/
theorem mem_of_mem_intercalate {separator : String} {parts : List String}
    (h : d ∈ (separator.intercalate parts).toList) :
    d ∈ separator.toList ∨ ∃ part ∈ parts, d ∈ part.toList := by
  rw [String.toList_intercalate] at h
  rcases mem_of_mem_listIntercalate h with h | ⟨cs, hcs, h⟩
  · exact .inl h
  · obtain ⟨part, hpart, rfl⟩ := List.mem_map.mp hcs
    exact .inr ⟨part, hpart, h⟩

end BrowserLab.Text
