import Mathlib.Data.List.TakeDrop
import BrowserLab.Proofs.Json.Text
import BrowserLab.Script.Token.Lexer

/-!
# Texts that are cut into given tokens

`Cuts cs ks rest`: in front of `rest`, the text `cs` is cut into tokens of the kinds `ks`, all on
one line.  Texts behind each other are cut one by one (`Cuts.append`), so what is left is one lemma
for each kind of token.  What is behind a word or a number must not go on with it.
-/

namespace BrowserLab.Script

open Scan

/-- In front of `rest`, the text is cut into tokens of the given kinds on one line.  Each token
takes one unit of fuel, and fuel that exceeds the length of the whole text is enough. -/
structure Cuts (cs : List Char) (ks : List Token.Kind) (rest : List Char) : Prop where
  short : ks.length ≤ cs.length
  cut : ∀ fuel done place, (cs ++ rest).length < fuel + ks.length →
    ∃ (line : List Token) (place' : Place), line.map (·.kind) = ks ∧
      (∀ t ∈ line, t.newlineBefore = false) ∧
      tokens (fuel + ks.length) done ⟨cs ++ rest, place⟩ =
        tokens fuel (line.reverse ++ done) ⟨rest, place'⟩

variable {cs cs' rest : List Char} {ks ks' : List Token.Kind} {k : Token.Kind} {d : Char}

namespace Cuts

theorem nil (rest : List Char) : Cuts [] [] rest where
  short := Nat.le_refl 0
  cut _ _ place _ := ⟨[], place, rfl, List.forall_mem_nil _, rfl⟩

/-- One text behind the other. -/
theorem append (h : Cuts cs ks (cs' ++ rest)) (h' : Cuts cs' ks' rest) :
    Cuts (cs ++ cs') (ks ++ ks') rest where
  short := by
    rw [List.length_append, List.length_append]
    exact Nat.add_le_add h.short h'.short
  cut fuel done place hfuel := by
    have hshort := h.short
    simp only [List.length_append] at hfuel
    obtain ⟨line, mid, hkinds, hline, hcut⟩ :=
      h.cut (fuel + ks'.length) done place (by simp only [List.length_append]; omega)
    obtain ⟨line', place', hkinds', hline', hcut'⟩ :=
      h'.cut fuel (line.reverse ++ done) mid (by simp only [List.length_append]; omega)
    refine ⟨line ++ line', place', ?_, ?_, ?_⟩
    · rw [List.map_append, hkinds, hkinds']
    · intro t ht
      rcases List.mem_append.mp ht with ht | ht
      · exact hline t ht
      · exact hline' t ht
    · rw [List.length_append, Nat.add_comm ks.length, ← Nat.add_assoc, List.append_assoc, hcut,
        hcut', List.reverse_append, List.append_assoc]

end Cuts

/-! ### One token -/

theorem skipTrivia_of_not_blank {fuel : Nat} {newline : Bool} {place : Place}
    (hblank : Text.isBlank d = false) (hslash : d ≠ '/') :
    skipTrivia (fuel + 1) newline ⟨d :: cs, place⟩ = .ok (newline, ⟨d :: cs, place⟩) := by
  rw [skipTrivia]
  split
  · rename_i heq
    exact absurd (List.cons.inj heq).1 hslash
  · rename_i heq
    exact absurd (List.cons.inj heq).1 hslash
  · rename_i heq
    obtain ⟨rfl, rfl⟩ := List.cons.inj heq
    rw [hblank]
    rfl
  · rename_i heq
    cases heq

/-- A text that is one token, judging by its beginning and by what is behind it. -/
theorem Cuts.token (hblank : Text.isBlank d = false) (hslash : d ≠ '/') (hk : k ≠ .eof)
    (h : ∀ fuel place, (d :: (cs ++ rest)).length < fuel →
      ∃ place', tokenKind fuel ⟨d :: (cs ++ rest), place⟩ = .ok (k, ⟨rest, place'⟩)) :
    Cuts (d :: cs) [k] rest where
  short := Nat.succ_le_succ (Nat.zero_le _)
  cut fuel done place hfuel := by
    obtain ⟨place', htoken⟩ := h (fuel + 1) place hfuel
    refine ⟨[⟨k, place, false⟩], place', rfl, by simp, ?_⟩
    rw [List.length_singleton, List.cons_append, tokens,
      skipTrivia_of_not_blank hblank hslash]
    simp only [htoken]
    cases k with
    | eof => exact absurd rfl hk
    | _ => rfl

/-! ### Words -/

theorem span_append {p : Char → Bool} (h : ∀ c ∈ cs, p c = true)
    (hrest : ∀ c ∈ rest.head?, p c = false) : (cs ++ rest).span p = (cs, rest) := by
  rw [List.span_eq_takeWhile_dropWhile, List.takeWhile_append_of_pos h,
    List.dropWhile_append_of_pos h]
  cases rest with
  | nil => simp
  | cons c rest => simp [hrest c rfl]

theorem Cursor.span_append {p : Char → Bool} (place : Place) (h : ∀ c ∈ cs, p c = true)
    (hrest : ∀ c ∈ rest.head?, p c = false) :
    (Cursor.mk (cs ++ rest) place).span p = (cs, ⟨rest, place.pastAll cs⟩) := by
  rw [Cursor.span, Script.span_append h hrest]

/-- The characters below that no word begins with: white space, digits, and the marks with which
comments, strings, templates and numbers begin. -/
def stops : List Nat :=
  [9, 10, 11, 12, 13, 0x20, 0x85, 0xa0, 0x1680, 0x2000, 0x2001, 0x2002, 0x2003, 0x2004, 0x2005,
    0x2006, 0x2007, 0x2008, 0x2009, 0x200a, 0x2028, 0x2029, 0x202f, 0x205f, 0x3000] ++
  [48, 49, 50, 51, 52, 53, 54, 55, 56, 57] ++ ['/', '"', '\'', '\x60', '.'].map Char.toNat

theorem not_mem_stops (h : isWordStart d = true) : d.toNat ∉ stops := by
  have hstops : ∀ n ∈ stops, isWordStart (Char.ofNat n) = false := by decide +kernel
  intro hmem
  rw [← Char.ofNat_toNat d, hstops _ hmem] at h
  cases h

theorem isBlank_of_isWordStart (h : isWordStart d = true) : Text.isBlank d = false := by
  have hd := not_mem_stops h
  simp [stops] at hd
  simp [Text.isBlank]
  omega

theorem isWordPart_of_isBlank (h : Text.isBlank d = true) : isWordPart d = false := by
  have hstart : isWordStart d = false := by
    by_contra hstart
    rw [Bool.not_eq_false] at hstart
    rw [isBlank_of_isWordStart hstart] at h
    cases h
  have hdigit : d.isDigit = false := by
    simp only [Text.isBlank, Bool.or_eq_true, Bool.and_eq_true, decide_eq_true_eq] at h
    simp [Char.isDigit, UInt32.le_iff_toNat_le]
    omega
  rw [isWordPart, hstart, hdigit, Bool.or_false]

theorem isDigit_of_isWordStart (h : isWordStart d = true) : d.isDigit = false := by
  have hd := not_mem_stops h
  simp [stops] at hd
  simp [Char.isDigit, UInt32.le_iff_toNat_le]
  omega

theorem ne_of_isWordStart {c : Char} (h : isWordStart d = true)
    (hc : isWordStart c = false) : d ≠ c := by
  rintro rfl
  rw [h] at hc
  cases hc

/-- Is the text a word from its first to its last character? -/
def isWordText : List Char → Bool
  | [] => false
  | c :: cs => isWordStart c && cs.all isWordPart

theorem isWordPart_of_isWordText (h : isWordText cs = true) : ∀ c ∈ cs, isWordPart c = true := by
  cases cs with
  | nil => exact List.forall_mem_nil _
  | cons d cs =>
    rw [isWordText, Bool.and_eq_true, List.all_eq_true] at h
    refine List.forall_mem_cons.mpr ⟨?_, h.2⟩
    rw [isWordPart, h.1, Bool.true_or]

theorem tokenKind_word {w : String} (hw : isWordText w.toList = true)
    (hrest : ∀ c ∈ rest.head?, isWordPart c = false) (fuel : Nat) (place : Place) :
    tokenKind fuel ⟨w.toList ++ rest, place⟩ = .ok (.word w, ⟨rest, place.pastAll w.toList⟩) := by
  rw [← String.ofList_toList (s := w), String.toList_ofList]
  have hspan := Cursor.span_append place (isWordPart_of_isWordText hw) hrest
  generalize w.toList = cs at hw hspan ⊢
  cases cs with
  | nil => cases hw
  | cons d cs =>
    rw [isWordText, Bool.and_eq_true] at hw
    have hd := hw.1
    have hpoint : d ≠ '.' := ne_of_isWordStart hd (by decide)
    have hdouble : d ≠ '"' := ne_of_isWordStart hd (by decide)
    have hsingle : d ≠ '\'' := ne_of_isWordStart hd (by decide)
    have hback : d ≠ '\x60' := ne_of_isWordStart hd (by decide)
    rw [List.cons_append] at hspan ⊢
    simp [tokenKind, isDigit_of_isWordStart hd, hpoint, hdouble, hsingle, hback, hd, hspan]

theorem Cuts.word {w : String} (hw : isWordText w.toList = true)
    (hrest : ∀ c ∈ rest.head?, isWordPart c = false) : Cuts w.toList [.word w] rest := by
  have hkind := fun fuel place => tokenKind_word hw hrest fuel place
  generalize w.toList = cs at hw hkind ⊢
  cases cs with
  | nil => cases hw
  | cons d cs =>
    rw [isWordText, Bool.and_eq_true] at hw
    refine .token (isBlank_of_isWordStart hw.1) (ne_of_isWordStart hw.1 (by decide)) nofun ?_
    exact fun fuel place _ => ⟨_, hkind fuel place⟩

/-! ### Marks -/

/-- The character begins no token but a mark, and nothing that is skipped. -/
def opensMark (c : Char) : Bool :=
  !(Text.isBlank c || c.isDigit || isWordStart c || ['/', '"', '\'', '\x60'].contains c)

/-- A mark of one character: no longer mark begins there, and a point begins no number. -/
theorem Cuts.punct (hd : opensMark d = true) (hfound : punctuator? (d :: rest) = some [d])
    (hpoint : d = '.' → ∀ c ∈ rest.head?, c.isDigit = false) :
    Cuts [d] [.punct d.toString] rest := by
  simp only [opensMark, Bool.not_eq_true', Bool.or_eq_false_iff, List.contains_eq_mem,
    decide_eq_false_iff_not, List.mem_cons, List.not_mem_nil, or_false, not_or] at hd
  obtain ⟨⟨⟨hblank, hdigit⟩, hword⟩, hslash, hdouble, hsingle, hback⟩ := hd
  refine .token hblank hslash nofun ?_
  intro fuel place _
  refine ⟨place.past d, ?_⟩
  cases rest with
  | nil =>
    simp [tokenKind, Cursor.drop, Place.pastAll, hdigit, hword, hdouble, hsingle, hback, hfound]
  | cons c rest =>
    by_cases hd : d = '.'
    · have hc : c.isDigit = false := hpoint hd c rfl
      simp [tokenKind, Cursor.drop, Place.pastAll, hdigit, hword, hdouble, hsingle, hback, hfound,
        hc]
    · simp [tokenKind, Cursor.drop, Place.pastAll, hdigit, hword, hdouble, hsingle, hback, hfound,
        hd]

/-- Brackets, commas and colons: no longer mark begins like them. -/
def loneMarks : List Char := ['(', ')', '[', ']', '\x7b', '\x7d', ',', ':']

theorem Cuts.mark (hd : d ∈ loneMarks) : Cuts [d] [.punct d.toString] rest := by
  simp only [loneMarks, List.mem_cons, List.not_mem_nil, or_false] at hd
  rcases hd with rfl | rfl | rfl | rfl | rfl | rfl | rfl | rfl
  all_goals exact Cuts.punct (by decide) rfl (fun h => absurd h (by decide))

/-- A text between two marks. -/
theorem Cuts.between {d' : Char} (hd : d ∈ loneMarks) (hd' : d' ∈ loneMarks)
    (h : Cuts cs ks (d' :: rest)) :
    Cuts (d :: (cs ++ [d'])) (.punct d.toString :: (ks ++ [.punct d'.toString])) rest :=
  (Cuts.mark hd).append (h.append (Cuts.mark hd'))

theorem Cuts.point (hd : isWordStart d = true) : Cuts ['.'] [.punct "."] (d :: rest) := by
  have hne : '.' ≠ d := (ne_of_isWordStart hd (by decide)).symm
  refine Cuts.punct (by decide) ?_ ?_
  · simp [punctuator?, punctuators, List.find?, List.isPrefixOf, hne]
  · rintro - c hc
    cases hc
    exact isDigit_of_isWordStart hd

theorem Cuts.minus (hd : d.isDigit = true) : Cuts ['-'] [.punct "-"] (d :: rest) := by
  have hminus : ('-' == d) = false := by
    rw [beq_eq_false_iff_ne]
    rintro rfl
    cases hd
  have hequals : ('=' == d) = false := by
    rw [beq_eq_false_iff_ne]
    rintro rfl
    cases hd
  refine Cuts.punct (by decide) ?_ (fun h => absurd h (by decide))
  simp [punctuator?, punctuators, List.find?, List.isPrefixOf, hminus, hequals]

/-! ### Strings -/

theorem unicode?_hexDigit : ∀ n < 32,
    unicode? ['0', '0', Json.hexDigit (n / 16), Json.hexDigit (n % 16)] = some (Char.ofNat n) := by
  decide

/-- A character that JSON writes in a string, escaped if it must be, is read back. -/
theorem stringBody_escapeChar (c : Char) (fuel : Nat) (done cs : List Char) (place : Place) :
    ∃ place', stringBody '"' (fuel + 1) done ⟨Json.escapeChar c ++ cs, place⟩ =
      stringBody '"' fuel (c :: done) ⟨cs, place'⟩ := by
  unfold Json.escapeChar
  split_ifs with hquote hslash hline hreturn htab hback hfeed hcontrol
  · subst hquote
    exact ⟨_, rfl⟩
  · subst hslash
    exact ⟨_, rfl⟩
  · subst hline
    exact ⟨_, rfl⟩
  · subst hreturn
    exact ⟨_, rfl⟩
  · subst htab
    exact ⟨_, rfl⟩
  · obtain rfl : c = Char.ofNat 8 := by rw [← hback, Char.ofNat_toNat]
    exact ⟨_, rfl⟩
  · obtain rfl : c = Char.ofNat 12 := by rw [← hfeed, Char.ofNat_toNat]
    exact ⟨_, rfl⟩
  · have hcode := unicode?_hexDigit c.toNat hcontrol
    rw [Char.ofNat_toNat] at hcode
    refine ⟨((place.past '\\').past 'u').pastAll
      ['0', '0', Json.hexDigit (c.toNat / 16), Json.hexDigit (c.toNat % 16)], ?_⟩
    simp [stringBody, escape, unicodeDigits, hcode, Cursor.past, Cursor.drop]
  · refine ⟨place.past c, ?_⟩
    simp [stringBody, hslash, hquote, Cursor.past]

theorem stringBody_flatMap (cs rest : List Char) {fuel : Nat} (done : List Char) (place : Place)
    (hfuel : (cs.flatMap Json.escapeChar ++ '"' :: rest).length < fuel) :
    ∃ place', stringBody '"' fuel done ⟨cs.flatMap Json.escapeChar ++ '"' :: rest, place⟩ =
      .ok (.string (String.ofList (done.reverse ++ cs)), ⟨rest, place'⟩) := by
  induction cs generalizing fuel done place with
  | nil =>
    obtain _ | fuel := fuel
    · cases hfuel
    · refine ⟨place.past '"', ?_⟩
      simp [stringBody, Cursor.past]
  | cons c cs ih =>
    obtain _ | fuel := fuel
    · cases hfuel
    · have hc := Json.length_escapeChar_pos c
      simp only [List.flatMap_cons, List.append_assoc, List.length_append] at hfuel ⊢
      obtain ⟨mid, hstep⟩ :=
        stringBody_escapeChar c fuel done (cs.flatMap Json.escapeChar ++ '"' :: rest) place
      have hfuel' : (cs.flatMap Json.escapeChar ++ '"' :: rest).length < fuel := by
        rw [List.length_append]
        omega
      obtain ⟨place', hrest⟩ := ih (c :: done) mid hfuel'
      refine ⟨place', ?_⟩
      rw [hstep, hrest, List.reverse_cons, List.append_assoc]
      rfl

/-- A string that JSON writes is a string token. -/
theorem Cuts.string (cs rest : List Char) :
    Cuts (Json.quoteChars cs) [.string (String.ofList cs)] rest := by
  rw [Json.quoteChars, List.cons_append]
  refine .token (by decide) (by decide) nofun ?_
  intro fuel place hfuel
  rw [List.append_assoc, List.singleton_append] at hfuel ⊢
  obtain ⟨place', hbody⟩ := stringBody_flatMap cs rest [] (place.past '"') (Nat.lt_of_succ_lt hfuel)
  refine ⟨place', ?_⟩
  simpa [tokenKind, Cursor.past] using hbody

/-! ### Numbers -/

theorem isDigit_of_mem_digitChars {n : Nat} (h : d ∈ Number.digitChars n) : d.isDigit = true :=
  Nat.isDigit_of_mem_toDigits (by decide) (Nat.le_refl 10) h

theorem ofDigits_digitChars (n : Nat) : Number.ofDigits (Number.digitChars n) = n :=
  Nat.ofDigitChars_ten_toDigits

/-- The digits of a natural number are read as the `Float` nearest to it. -/
theorem unsigned?_digitChars (n : Nat) :
    Number.unsigned? (Number.digitChars n) = some (Number.nearest n 0) := by
  have hdigits : ∀ c ∈ Number.digitChars n, c.isDigit = true := fun c => isDigit_of_mem_digitChars
  have hne : Number.digitChars n ≠ [] := Nat.toDigits_ne_nil
  have hspan : (Number.digitChars n ++ []).span Char.isDigit = (Number.digitChars n, []) :=
    span_append hdigits nofun
  rw [List.append_nil] at hspan
  simp only [Number.unsigned?, Number.spanDigits, hspan]
  simp [hne, ofDigits_digitChars]

/-- What is behind a number does not go on with it. -/
def EndsNumber (rest : List Char) : Prop := ∀ c ∈ rest.head?, isWordPart c = false ∧ c ≠ '.'

theorem endsNumber_cons (hpart : isWordPart d = false) (hpoint : d ≠ '.') :
    EndsNumber (d :: rest) := by
  rintro c ⟨⟩
  exact ⟨hpart, hpoint⟩

theorem EndsNumber.ne {c : Char} (h : EndsNumber (d :: rest)) (hc : isWordPart c = true) :
    d ≠ c := by
  rintro rfl
  rw [(h d rfl).1] at hc
  cases hc

theorem EndsNumber.exponentMark? (h : EndsNumber rest) : exponentMark? rest = none := by
  cases rest with
  | nil => rfl
  | cons d rest =>
    have he : d ≠ 'e' := h.ne (by decide)
    have hE : d ≠ 'E' := h.ne (by decide)
    unfold Scan.exponentMark?
    split <;> simp_all

theorem EndsNumber.isDigit {c : Char} (h : EndsNumber rest) (hc : c ∈ rest.head?) :
    (c.isDigit || decide (c = '_')) = false := by
  have hpart := (h c hc).1
  simp only [isWordPart, isWordStart, Bool.or_eq_false_iff] at hpart
  rw [hpart.2, hpart.1.1.1, Bool.or_false]

theorem decimal_digitChars (n : Nat) (place : Place) (hrest : EndsNumber rest) :
    decimal ⟨Number.digitChars n ++ rest, place⟩ =
      .ok (.number (Number.nearest n 0), ⟨rest, place.pastAll (Number.digitChars n)⟩) := by
  have hdigits : ∀ c ∈ Number.digitChars n, (c.isDigit || decide (c = '_')) = true := by
    intro c hc
    rw [isDigit_of_mem_digitChars hc, Bool.true_or]
  have hspan := Cursor.span_append place hdigits fun c => hrest.isDigit
  have hfilter : (Number.digitChars n).filter (fun c => !decide (c = '_')) =
      Number.digitChars n := by
    refine List.filter_eq_self.mpr fun c hc => ?_
    have hne : c ≠ '_' := by
      rintro rfl
      cases isDigit_of_mem_digitChars hc
    rw [decide_eq_false hne, Bool.not_false]
  unfold decimal
  rw [hspan]
  cases rest with
  | nil => simp [hrest.exponentMark?, hfilter, unsigned?_digitChars]
  | cons d rest =>
    have hpoint : d ≠ '.' := (hrest d rfl).2
    simp [hrest.exponentMark?, hpoint, hfilter, unsigned?_digitChars]

theorem isBlank_of_isDigit (h : d.isDigit = true) : Text.isBlank d = false := by
  simp [Char.isDigit, UInt32.le_iff_toNat_le] at h
  simp [Text.isBlank]
  omega

/-- No second digit makes a number one in base 16. -/
theorem number_eq_decimal {place : Place} (h : ∀ c ∈ cs.head?, c ≠ 'x' ∧ c ≠ 'X') :
    number ⟨d :: cs, place⟩ = decimal ⟨d :: cs, place⟩ := by
  unfold Scan.number
  split
  · rename_i heq
    obtain ⟨rfl, rfl⟩ := List.cons.inj heq
    exact absurd rfl (h 'x' rfl).1
  · rename_i heq
    obtain ⟨rfl, rfl⟩ := List.cons.inj heq
    exact absurd rfl (h 'X' rfl).2
  · rfl

theorem Cuts.number (n : Nat) (hrest : EndsNumber rest) :
    Cuts (Number.digitChars n) [.number (Number.nearest n 0)] rest := by
  have hdecimal := fun place => decimal_digitChars n place hrest
  have hne : Number.digitChars n ≠ [] := Nat.toDigits_ne_nil
  have hdigits : ∀ c ∈ Number.digitChars n, c.isDigit = true := fun c => isDigit_of_mem_digitChars
  generalize Number.digitChars n = digits at hdecimal hdigits hne ⊢
  cases digits with
  | nil => exact absurd rfl hne
  | cons d ds =>
    have hd : d.isDigit = true := hdigits d List.mem_cons_self
    have hsecond : ∀ c ∈ (ds ++ rest).head?, c ≠ 'x' ∧ c ≠ 'X' := by
      cases ds with
      | nil =>
        intro c hc
        have hpart := (hrest c hc).1
        constructor <;> (rintro rfl; revert hpart; decide)
      | cons e ds =>
        rintro c ⟨⟩
        have he := hdigits e (List.mem_cons_of_mem _ List.mem_cons_self)
        constructor <;> (rintro rfl; cases he)
    refine .token (isBlank_of_isDigit hd) ?_ nofun ?_
    · rintro rfl
      cases hd
    · intro fuel place _
      refine ⟨_, (Eq.trans ?_ (hdecimal place))⟩
      rw [List.cons_append, ← number_eq_decimal hsecond]
      simp [tokenKind, hd]

/-! ### Whole texts -/

/-- A text that is cut up to its end. -/
theorem Cuts.tokenize {source : String} (h : Cuts source.toList ks []) :
    ∃ (line : List Token) (eof : Token), Script.tokenize source = .ok (line ++ [eof]) ∧
      line.map (·.kind) = ks ∧ (∀ t ∈ line, t.newlineBefore = false) ∧ eof.kind = .eof := by
  have hshort := h.short
  obtain ⟨fuel, hfuel⟩ := Nat.exists_eq_add_of_le hshort
  obtain ⟨line, place, hkinds, hline, hcut⟩ :=
    h.cut (fuel + 1) [] .start (by rw [List.append_nil]; omega)
  refine ⟨line, ⟨.eof, place, false⟩, ?_, hkinds, hline, rfl⟩
  have htotal : source.toList.length + 1 = fuel + 1 + ks.length := by omega
  rw [List.append_nil] at hcut
  rw [Script.tokenize, tokenizeAt, htotal, hcut]
  simp [tokens, skipTrivia, tokenKind]

end BrowserLab.Script
