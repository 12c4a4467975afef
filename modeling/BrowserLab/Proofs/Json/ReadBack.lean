import Mathlib.Tactic.SplitIfs
import BrowserLab.Json.Reader
import BrowserLab.Proofs.Json.Text

/-!
# Texts in JSON are read back

A string in quotes is read as the string, whatever characters it has (`reads_value_quote`).  So the
compact text of a list of strings and the indented text of an object whose members are strings are
read as what was written.

* `readRaw_compact_texts`, `readRaw_pretty_texts`.
-/

namespace BrowserLab.Json

/-- In front of any rest, the text is read as the value. -/
def Reads {α : Type} (read : Cursor → Reading α) (text : List Char) (a : α) : Prop :=
  ∀ c rest, c.rest = text ++ rest → ∃ c', read c = .ok (a, c') ∧ c'.rest = rest

/-! ### Blanks -/

@[simp] theorem Cursor.rest_past (c : Cursor) (d : Char) (rest : List Char) :
    (c.past d rest).rest = rest := by
  unfold past
  split <;> rfl

/-- A blank between the parts of a JSON text. -/
def IsBlank (d : Char) : Prop := d = ' ' ∨ d = '\t' ∨ d = '\r' ∨ d = '\n'

instance (d : Char) : Decidable (IsBlank d) := inferInstanceAs (Decidable (_ ∨ _))

theorem Cursor.rest_skipBlanks {c : Cursor} {blanks rest : List Char} {d : Char}
    (h : c.rest = blanks ++ d :: rest) (hblanks : ∀ b ∈ blanks, IsBlank b) (hd : ¬ IsBlank d) :
    c.skipBlanks.rest = d :: rest := by
  unfold skipBlanks
  rw [h]
  clear h
  generalize c.line = line, c.column = column
  induction blanks generalizing line column with
  | nil =>
    unfold skipBlanks.go
    split <;> simp_all [IsBlank]
  | cons b blanks ih =>
    have hrest := ih (fun e he => hblanks e (List.mem_cons_of_mem _ he))
    rcases hblanks b List.mem_cons_self with rfl | rfl | rfl | rfl <;> exact hrest _ _

theorem Cursor.rest_skipBlanks_of_cons {c : Cursor} {d : Char} {rest : List Char}
    (h : c.rest = d :: rest) (hd : ¬ IsBlank d) : c.skipBlanks.rest = d :: rest :=
  @rest_skipBlanks c [] rest d h nofun hd

/-! ### Strings -/

theorem hexValue?_hexDigit : ∀ n < 16, Reader.hexValue? (hexDigit n) = some n := by decide

theorem reads_hexEscape {n : Nat} (h : n < 256) :
    Reads Reader.hexEscape ['0', '0', hexDigit (n / 16), hexDigit (n % 16)] n := by
  rintro ⟨_, line, column⟩ rest rfl
  have hfirst := hexValue?_hexDigit (n / 16) (by omega)
  have hsecond := hexValue?_hexDigit (n % 16) (by omega)
  have hzero : Reader.hexValue? '0' = some 0 := by decide
  have hsize := Char.utf8Size_pos (hexDigit (n / 16))
  have hsize' := Char.utf8Size_pos (hexDigit (n % 16))
  have hlong : ¬ 0 + Char.utf8Size '0' + Char.utf8Size '0' + (hexDigit (n / 16)).utf8Size +
      (hexDigit (n % 16)).utf8Size < 4 := by
    have : Char.utf8Size '0' = 1 := by decide
    omega
  refine ⟨⟨rest, line, column + 4⟩, ?_, rfl⟩
  simp only [Reader.hexEscape, List.cons_append, List.nil_append, List.take_succ_cons,
    List.take_zero, List.foldl_cons, List.foldl_nil, if_neg hlong, hzero, hfirst, hsecond]
  congr 2
  omega

theorem escape_unicode {rest : List Char} {line column n : Nat} {c' : Cursor}
    (h : Reader.hexEscape ⟨rest, line, column + 'u'.utf8Size⟩ = .ok (n, c')) (hn : n < 256) :
    Reader.escape ⟨'u' :: rest, line, column⟩ = .ok (Char.ofNat n, c') := by
  have hlow : ¬ 0xdc00 ≤ n := by omega
  have hbefore : n < 0xd800 := by omega
  have hpast : (⟨'u' :: rest, line, column⟩ : Cursor).past 'u' rest =
      ⟨rest, line, column + 'u'.utf8Size⟩ := rfl
  simp only [Reader.escape, hpast, h]
  simp [hlow, hbefore]

theorem string_escape {rest done : List Char} {line column : Nat} {e : Char} {c' : Cursor}
    (h : Reader.escape ⟨rest, line, column + '\\'.utf8Size⟩ = .ok (e, c')) (fuel : Nat) :
    Reader.string (fuel + 1) done ⟨'\\' :: rest, line, column⟩ =
      Reader.string fuel (e :: done) c' := by
  have hpast : (⟨'\\' :: rest, line, column⟩ : Cursor).past '\\' rest =
      ⟨rest, line, column + '\\'.utf8Size⟩ := rfl
  have hquote : '\\' ≠ '"' := by decide
  simp only [Reader.string, hpast, if_neg hquote, if_true, h]

/-- A character is read back, whether it is escaped or not. -/
theorem string_escapeChar (e : Char) (fuel : Nat) (done : List Char) {c : Cursor}
    {rest : List Char} (h : c.rest = escapeChar e ++ rest) :
    ∃ c', Reader.string (fuel + 1) done c = Reader.string fuel (e :: done) c' ∧ c'.rest = rest := by
  obtain ⟨_, line, column⟩ := c
  subst h
  unfold escapeChar
  split_ifs with hquote hslash hline hreturn htab hback hfeed hcontrol
  · subst hquote
    exact ⟨_, rfl, rfl⟩
  · subst hslash
    exact ⟨_, rfl, rfl⟩
  · subst hline
    exact ⟨_, rfl, rfl⟩
  · subst hreturn
    exact ⟨_, rfl, rfl⟩
  · subst htab
    exact ⟨_, rfl, rfl⟩
  · obtain rfl : e = Char.ofNat 8 := by rw [← hback, Char.ofNat_toNat]
    exact ⟨_, rfl, rfl⟩
  · obtain rfl : e = Char.ofNat 12 := by rw [← hfeed, Char.ofNat_toNat]
    exact ⟨_, rfl, rfl⟩
  · obtain ⟨c', hread, hrest⟩ := reads_hexEscape (n := e.toNat) (by omega)
      ⟨_, line, column + '\\'.utf8Size + 'u'.utf8Size⟩ rest rfl
    have hescape := escape_unicode hread (by omega)
    rw [Char.ofNat_toNat] at hescape
    exact ⟨c', string_escape hescape fuel, hrest⟩
  · refine ⟨_, ?_, Cursor.rest_past ⟨e :: rest, line, column⟩ e rest⟩
    show Reader.string (fuel + 1) done ⟨e :: rest, line, column⟩ = _
    rw [Reader.string]
    simp only [hquote, hslash, hcontrol, if_false]

theorem reads_string {fuel : Nat} (cs done : List Char) (hfuel : cs.length < fuel) :
    Reads (Reader.string fuel done) (cs.flatMap escapeChar ++ ['"'])
      (String.ofList (done.reverse ++ cs)) := by
  induction cs generalizing fuel done with
  | nil =>
    obtain _ | fuel := fuel
    · cases hfuel
    · rintro ⟨_, line, column⟩ rest rfl
      exact ⟨_, by rw [List.append_nil]; rfl, rfl⟩
  | cons e cs ih =>
    obtain _ | fuel := fuel
    · cases hfuel
    · intro c rest h
      rw [List.flatMap_cons, List.append_assoc, List.append_assoc] at h
      obtain ⟨c', hstep, hrest⟩ := string_escapeChar e fuel done h
      obtain ⟨c'', hread, hrest'⟩ := ih (e :: done) (Nat.lt_of_succ_lt_succ hfuel) c' rest
        (by rw [hrest, List.append_assoc])
      refine ⟨c'', ?_, hrest'⟩
      rw [hstep, hread, List.reverse_cons, List.append_assoc]
      rfl

/-- What is read behind a first character, when the reader goes on behind it. -/
theorem Reads.behind {α : Type} {read read' : Cursor → Reading α} {d : Char} {text : List Char}
    {a : α} (h : Reads read' text a) (hd : ¬ IsBlank d)
    (hread : ∀ c rest, c.skipBlanks.rest = d :: rest → read c = read' (c.skipBlanks.past d rest)) :
    Reads read (d :: text) a := by
  intro c rest hc
  have hskip : c.skipBlanks.rest = d :: (text ++ rest) :=
    Cursor.rest_skipBlanks_of_cons hc hd
  obtain ⟨c', hstep, hrest⟩ := h (c.skipBlanks.past d _) rest (Cursor.rest_past _ _ _)
  exact ⟨c', by rw [hread c _ hskip, hstep], hrest⟩

theorem reads_value_quote {s : String} {fuel : Nat} (hfuel : s.toList.length < fuel) (depth : Nat)
    (blanks : List Char) (hblanks : ∀ b ∈ blanks, IsBlank b) :
    Reads (Reader.value fuel depth) (blanks ++ quoteChars s.toList) (.str s) := by
  intro c rest h
  have hskip : c.skipBlanks.rest = '"' :: (s.toList.flatMap escapeChar ++ ['"'] ++ rest) :=
    Cursor.rest_skipBlanks (by rw [h, List.append_assoc]; rfl) hblanks (by decide)
  obtain ⟨c', hread, hrest⟩ := reads_string s.toList [] hfuel (c.skipBlanks.past '"' _) rest
    (Cursor.rest_past _ _ _)
  refine ⟨c', ?_, hrest⟩
  unfold Reader.value
  simp only [hskip]
  rw [hread]
  simp

/-! ### Lists -/

/-- The text begins so that no blank is passed over and no list ends. -/
def Opens (text : List Char) : Prop := ∃ d tail, text = d :: tail ∧ ¬ IsBlank d ∧ d ≠ ']'

theorem Opens.length_pos {text : List Char} (h : Opens text) : 0 < text.length := by
  obtain ⟨d, tail, rfl, -⟩ := h
  exact Nat.succ_pos _

theorem opens_quoteChars (cs : List Char) : Opens (quoteChars cs) :=
  ⟨'"', _, rfl, by decide, by decide⟩

section Items

variable {item : Cursor → Reading Json} {text rest : List Char} {j : Json} {c : Cursor}

theorem items_first (hopens : Opens text) (hread : Reads item text j) (fuel : Nat)
    (h : c.rest = text ++ rest) :
    ∃ c', Reader.items item (fuel + 1) [] c = Reader.items item fuel [j] c' ∧ c'.rest = rest := by
  obtain ⟨d, tail, rfl, hblank, hd⟩ := hopens
  have hskip : c.skipBlanks.rest = d :: tail ++ rest :=
    Cursor.rest_skipBlanks_of_cons h hblank
  obtain ⟨c', hstep, hrest⟩ := hread _ _ hskip
  refine ⟨c', ?_, hrest⟩
  simp only [Reader.items]
  split
  · next hnil => simp [hnil] at hskip
  · next hend =>
    rw [hend] at hskip
    exact absurd (List.cons.inj hskip).1.symm hd
  · simp only [List.isEmpty_nil, if_true, hstep]

theorem items_comma {done : List Json} (hdone : done ≠ []) (hopens : Opens text)
    (hread : Reads item text j) (fuel : Nat) (h : c.rest = ',' :: text ++ rest) :
    ∃ c', Reader.items item (fuel + 1) done c = Reader.items item fuel (j :: done) c' ∧
      c'.rest = rest := by
  obtain ⟨d, tail, rfl, hblank, hd⟩ := hopens
  have hcomma : c.skipBlanks.rest = ',' :: d :: (tail ++ rest) :=
    Cursor.rest_skipBlanks_of_cons h (by decide)
  have hskip : (c.skipBlanks.past ',' (d :: (tail ++ rest))).skipBlanks.rest =
      d :: (tail ++ rest) :=
    Cursor.rest_skipBlanks_of_cons (Cursor.rest_past _ _ _) hblank
  obtain ⟨c', hstep, hrest⟩ := hread _ _ hskip
  refine ⟨c', ?_, hrest⟩
  have hempty : done.isEmpty = false := by simpa using hdone
  simp only [Reader.items, hcomma, Char.reduceEq, imp_self, hempty, Bool.false_eq_true, ↓reduceIte]
  split
  · next hnil => simp [hnil] at hskip
  · next hend =>
    rw [hend] at hskip
    exact absurd (List.cons.inj hskip).1.symm hd
  · rw [hstep]

theorem reads_items_end (item : Cursor → Reading Json) (done : List Json) (fuel : Nat) :
    Reads (Reader.items item (fuel + 1) done) [']'] (.arr done.reverse) := by
  intro c rest h
  have hskip : c.skipBlanks.rest = ']' :: rest := Cursor.rest_skipBlanks_of_cons h (by decide)
  refine ⟨_, ?_, Cursor.rest_past c.skipBlanks ']' rest⟩
  simp [Reader.items, hskip]

/-- Items behind others. -/
theorem reads_items {pairs : List (List Char × Json)} {done : List Json} {fuel : Nat}
    (hdone : done ≠ []) (hitem : ∀ pair ∈ pairs, Opens pair.1 ∧ Reads item pair.1 pair.2)
    (hfuel : (pairs.flatMap (·.1)).length < fuel) :
    Reads (Reader.items item fuel done) (pairs.flatMap (',' :: ·.1) ++ [']'])
      (.arr (done.reverse ++ pairs.map (·.2))) := by
  induction pairs generalizing fuel done with
  | nil =>
    obtain _ | fuel := fuel
    · cases hfuel
    · rw [List.map_nil, List.append_nil]
      exact reads_items_end item done fuel
  | cons pair pairs ih =>
    obtain _ | fuel := fuel
    · cases hfuel
    · intro c rest h
      obtain ⟨hopens, hread⟩ := hitem pair List.mem_cons_self
      have hpos := hopens.length_pos
      rw [List.flatMap_cons, List.length_append] at hfuel
      -- Every item has a character at least, so one unit of fuel is enough for it.
      have hfuel' : (pairs.flatMap (·.1)).length < fuel := by omega
      rw [List.flatMap_cons, List.append_assoc, List.append_assoc] at h
      obtain ⟨c', hstep, hrest⟩ := items_comma hdone hopens hread fuel h
      obtain ⟨c'', hloop, hrest'⟩ := ih (List.cons_ne_nil pair.2 done)
        (fun p hp => hitem p (List.mem_cons_of_mem _ hp)) hfuel' c' rest
        (by rw [hrest, List.append_assoc])
      refine ⟨c'', ?_, hrest'⟩
      rw [hstep, hloop, List.reverse_cons, List.append_assoc]
      rfl

theorem reads_list {pairs : List (List Char × Json)} {fuel : Nat}
    (hitem : ∀ pair ∈ pairs, Opens pair.1 ∧ Reads item pair.1 pair.2)
    (hfuel : (pairs.flatMap (·.1)).length < fuel) :
    Reads (Reader.items item fuel []) (List.intercalate [','] (pairs.map (·.1)) ++ [']'])
      (.arr (pairs.map (·.2))) := by
  obtain _ | fuel := fuel
  · cases hfuel
  cases pairs with
  | nil => exact reads_items_end item [] fuel
  | cons pair pairs =>
    intro c rest h
    obtain ⟨hopens, hread⟩ := hitem pair List.mem_cons_self
    have hpos := hopens.length_pos
    rw [List.flatMap_cons, List.length_append] at hfuel
    have hfuel' : (pairs.flatMap (·.1)).length < fuel := by omega
    rw [List.map_cons, intercalate_comma, List.flatMap_map, List.append_assoc,
      List.append_assoc] at h
    obtain ⟨c', hstep, hrest⟩ := items_first hopens hread fuel h
    obtain ⟨c'', hloop, hrest'⟩ := reads_items (List.cons_ne_nil pair.2 [])
      (fun p hp => hitem p (List.mem_cons_of_mem _ hp)) hfuel' c' rest
      (by rw [hrest, List.append_assoc])
    exact ⟨c'', by rw [hstep, hloop]; rfl, hrest'⟩

end Items

/-! ### Objects -/

section Members

variable {item : Cursor → Reading Json} {rest : List Char} {k v : String} {c : Cursor}

/-- A member whose value is text, behind the quote that opens its key. -/
theorem reads_member {fuel : Nat} (hfuel : k.toList.length < fuel)
    (hread : Reads item (' ' :: quoteChars v.toList) (.str v)) :
    Reads (Reader.member item fuel)
      (k.toList.flatMap escapeChar ++ '"' :: ':' :: ' ' :: quoteChars v.toList) (k, .str v) := by
  intro c rest h
  obtain ⟨c', hkey, hrest⟩ := reads_string k.toList [] hfuel c
    (':' :: ' ' :: quoteChars v.toList ++ rest) (by rw [h]; simp)
  have hcolon : c'.skipBlanks.rest = ':' :: (' ' :: quoteChars v.toList ++ rest) :=
    Cursor.rest_skipBlanks_of_cons hrest (by decide)
  obtain ⟨c'', hvalue, hrest'⟩ := hread (c'.skipBlanks.past ':' _) rest (Cursor.rest_past _ _ _)
  refine ⟨c'', ?_, hrest'⟩
  simp only [Reader.member, hkey, hcolon, hvalue]
  simp

variable {blanks body : List Char} {m : String × Json} {fuel : Nat}

theorem members_first (hblanks : ∀ b ∈ blanks, IsBlank b)
    (hread : Reads (Reader.member item fuel) body m)
    (h : c.rest = blanks ++ '"' :: (body ++ rest)) :
    ∃ c', Reader.members item (fuel + 1) [] c = Reader.members item fuel [m] c' ∧
      c'.rest = rest := by
  have hskip : c.skipBlanks.rest = '"' :: (body ++ rest) :=
    Cursor.rest_skipBlanks h hblanks (by decide)
  obtain ⟨c', hstep, hrest⟩ := hread (c.skipBlanks.past '"' _) rest (Cursor.rest_past _ _ _)
  exact ⟨c', by simp [Reader.members, hskip, hstep], hrest⟩

theorem members_comma {done : List (String × Json)} (hdone : done ≠ [])
    (hblanks : ∀ b ∈ blanks, IsBlank b) (hread : Reads (Reader.member item fuel) body m)
    (h : c.rest = ',' :: (blanks ++ '"' :: (body ++ rest))) :
    ∃ c', Reader.members item (fuel + 1) done c = Reader.members item fuel (m :: done) c' ∧
      c'.rest = rest := by
  have hcomma : c.skipBlanks.rest = ',' :: (blanks ++ '"' :: (body ++ rest)) :=
    Cursor.rest_skipBlanks_of_cons h (by decide)
  have hskip : (c.skipBlanks.past ',' (blanks ++ '"' :: (body ++ rest))).skipBlanks.rest =
      '"' :: (body ++ rest) :=
    Cursor.rest_skipBlanks (Cursor.rest_past _ _ _) hblanks (by decide)
  obtain ⟨c', hstep, hrest⟩ := hread
    ((c.skipBlanks.past ',' (blanks ++ '"' :: (body ++ rest))).skipBlanks.past '"' (body ++ rest))
    rest (Cursor.rest_past _ _ _)
  have hempty : done.isEmpty = false := by simpa using hdone
  exact ⟨c', by simp [Reader.members, hcomma, hempty, hskip, hstep], hrest⟩

end Members

/-- A member whose value is text. -/
def textMember (entry : String × String) : String × Json := (entry.1, .str entry.2)

/-- The rest of a member's line in an object of texts, behind the quote that opens the key. -/
def lineRest (entry : String × String) : List Char :=
  entry.1.toList.flatMap escapeChar ++ '"' :: ':' :: ' ' :: quoteChars entry.2.toList

theorem memberLine_textMember (entry : String × String) :
    memberLine 1 (textMember entry) = ['\n', ' ', ' '] ++ '"' :: lineRest entry := by
  have hnewline : (newline 1).toList = ['\n', ' ', ' '] := by decide
  simp [memberLine, textMember, hnewline, indented, scalar, quote, quoteChars, lineRest]

theorem isBlank_of_mem_newline : ∀ b ∈ ['\n', ' ', ' '], IsBlank b := by simp [IsBlank]

theorem length_lt_lineRest (entry : String × String) :
    entry.1.toList.length < (lineRest entry).length := by
  have hkey := length_le_flatMap_escapeChar entry.1.toList
  rw [lineRest, List.length_append, List.length_cons]
  omega

theorem reads_members_end (item : Cursor → Reading Json) (done : List (String × Json)) (fuel : Nat)
    (blanks : List Char) (hblanks : ∀ b ∈ blanks, IsBlank b) :
    Reads (Reader.members item (fuel + 1) done) (blanks ++ ['\x7d']) (.obj done.reverse) := by
  intro c rest h
  have hskip : c.skipBlanks.rest = '\x7d' :: rest :=
    Cursor.rest_skipBlanks (by rw [h, List.append_assoc]; rfl) hblanks (by decide)
  refine ⟨_, ?_, Cursor.rest_past c.skipBlanks '\x7d' rest⟩
  simp [Reader.members, hskip]

/-- Members behind others. -/
theorem reads_members {item : Cursor → Reading Json} {entries : List (String × String)}
    {done : List (String × Json)} {fuel : Nat} (hdone : done ≠ [])
    (hitem : ∀ entry ∈ entries, Reads item (' ' :: quoteChars entry.2.toList) (.str entry.2))
    (hfuel : (entries.flatMap lineRest).length < fuel) :
    Reads (Reader.members item fuel done)
      (entries.flatMap (fun e => ',' :: '\n' :: ' ' :: ' ' :: '"' :: lineRest e) ++ ['\n', '\x7d'])
      (.obj (done.reverse ++ entries.map textMember)) := by
  induction entries generalizing fuel done with
  | nil =>
    obtain _ | fuel := fuel
    · cases hfuel
    · rw [List.map_nil, List.append_nil]
      exact reads_members_end item done fuel ['\n'] (by simp [IsBlank])
  | cons entry entries ih =>
    obtain _ | fuel := fuel
    · cases hfuel
    · intro c rest h
      have hline := length_lt_lineRest entry
      rw [List.flatMap_cons, List.length_append] at hfuel
      have hread : Reads (Reader.member item fuel) (lineRest entry) (textMember entry) :=
        reads_member (by omega) (hitem entry List.mem_cons_self)
      have hfuel' : (entries.flatMap lineRest).length < fuel := by omega
      have hrestText : c.rest = ',' :: (['\n', ' ', ' '] ++ '"' :: (lineRest entry ++
          (entries.flatMap (fun e => ',' :: '\n' :: ' ' :: ' ' :: '"' :: lineRest e) ++
            (['\n', '\x7d'] ++ rest)))) := by
        rw [h, List.flatMap_cons, List.append_assoc, List.append_assoc]
        rfl
      obtain ⟨c', hstep, hrest⟩ :=
        members_comma hdone isBlank_of_mem_newline hread hrestText
      obtain ⟨c'', hloop, hrest'⟩ := ih (List.cons_ne_nil (textMember entry) done)
        (fun e he => hitem e (List.mem_cons_of_mem _ he)) hfuel' c' rest
        (by rw [hrest, List.append_assoc])
      refine ⟨c'', ?_, hrest'⟩
      rw [hstep, hloop, List.reverse_cons, List.append_assoc]
      rfl

theorem reads_object {item : Cursor → Reading Json} {entry : String × String}
    {entries : List (String × String)} {fuel : Nat}
    (hitem : ∀ e ∈ entry :: entries, Reads item (' ' :: quoteChars e.2.toList) (.str e.2))
    (hfuel : ((entry :: entries).flatMap lineRest).length < fuel) :
    Reads (Reader.members item fuel [])
      (List.intercalate [','] ((entry :: entries).map fun e => memberLine 1 (textMember e)) ++
        ['\n', '\x7d'])
      (.obj ((entry :: entries).map textMember)) := by
  obtain _ | fuel := fuel
  · cases hfuel
  intro c rest h
  have hline := length_lt_lineRest entry
  rw [List.flatMap_cons, List.length_append] at hfuel
  have hfuel' : (entries.flatMap lineRest).length < fuel := by omega
  have hread : Reads (Reader.member item fuel) (lineRest entry) (textMember entry) :=
    reads_member (by omega) (hitem entry List.mem_cons_self)
  simp only [List.map_cons, intercalate_comma, List.flatMap_map, memberLine_textMember,
    List.append_assoc] at h
  obtain ⟨c', hstep, hrest⟩ := members_first isBlank_of_mem_newline hread h
  obtain ⟨c'', hloop, hrest'⟩ := reads_members (List.cons_ne_nil (textMember entry) [])
    (fun e he => hitem e (List.mem_cons_of_mem _ he)) hfuel' c' rest
    (by rw [hrest, List.append_assoc]; rfl)
  exact ⟨c'', by rw [hstep, hloop]; rfl, hrest'⟩

/-! ### Whole texts -/

theorem reads_value_list {fuel : Nat} (depth : Nat) {text : List Char} {j : Json}
    (h : Reads (Reader.items (Reader.value fuel (depth + 1)) fuel []) text j) :
    Reads (Reader.value fuel (depth + 2)) ('[' :: text) j := by
  refine h.behind (by decide) fun c rest hskip => ?_
  unfold Reader.value
  simp [hskip]

theorem reads_value_object {fuel : Nat} (depth : Nat) {text : List Char} {j : Json}
    (h : Reads (Reader.members (Reader.value fuel (depth + 1)) fuel []) text j) :
    Reads (Reader.value fuel (depth + 2)) ('\x7b' :: text) j := by
  refine h.behind (by decide) fun c rest hskip => ?_
  unfold Reader.value
  simp [hskip]

theorem readRaw_of_reads {s : String} {j : Json}
    (h : Reads (Reader.value (s.toList.length + 1) 128) s.toList j) : readRaw s = .ok j := by
  obtain ⟨c, hread, hrest⟩ := h (.start s.toList) [] (List.append_nil _).symm
  have hend : c.skipBlanks.rest = [] := by
    unfold Cursor.skipBlanks
    rw [hrest]
    rfl
  simp only [readRaw, hread, hend]

theorem length_le_quoteChars (cs : List Char) : cs.length ≤ (quoteChars cs).length := by
  have hcs := length_le_flatMap_escapeChar cs
  rw [quoteChars, List.cons_append, List.length_cons, List.length_append]
  omega

theorem toList_compact_str (s : String) : (compact (.str s)).toList = quoteChars s.toList := by
  simp [compact, scalar, quote]

theorem reads_texts {texts : List String} {fuel : Nat}
    (hfuel : (texts.flatMap fun s => quoteChars s.toList).length < fuel) (depth : Nat) :
    Reads (Reader.items (Reader.value fuel depth) fuel [])
      (List.intercalate [','] (texts.map fun s => quoteChars s.toList) ++ [']'])
      (.arr (texts.map .str)) := by
  have hitem : ∀ pair ∈ texts.map (fun s => (quoteChars s.toList, Json.str s)),
      Opens pair.1 ∧ Reads (Reader.value fuel depth) pair.1 pair.2 := by
    intro pair hpair
    obtain ⟨s, hs, rfl⟩ := List.mem_map.mp hpair
    have hquoted := length_le_flatMap (f := fun s : String => quoteChars s.toList) hs
    have hplain := length_le_quoteChars s.toList
    exact ⟨opens_quoteChars _, reads_value_quote (by omega) depth [] nofun⟩
  have hlist := reads_list hitem (by rw [List.flatMap_map]; exact hfuel)
  simpa [Function.comp_def] using hlist

/-- The compact text of a list of texts is read as the list. -/
theorem readRaw_compact_texts (texts : List String) :
    readRaw (Json.arr (texts.map .str)).compact = .ok (.arr (texts.map .str)) := by
  have htext : (compact (.arr (texts.map .str))).toList = '[' ::
      (List.intercalate [','] (texts.map fun s => quoteChars s.toList) ++ [']']) := by
    simp [toList_compact_arr, Function.comp_def, toList_compact_str]
  have hlength := length_flatMap_le_intercalate (l := texts)
    (f := fun s => quoteChars s.toList) (g := fun s => quoteChars s.toList) fun _ _ => Nat.le_refl _
  refine readRaw_of_reads ?_
  rw [htext]
  refine reads_value_list 126 (reads_texts ?_ _)
  rw [List.length_cons, List.length_append]
  omega

theorem reads_entries {entry : String × String} {entries : List (String × String)} {fuel : Nat}
    (hfuel : ((entry :: entries).flatMap lineRest).length < fuel) (depth : Nat) :
    Reads (Reader.members (Reader.value fuel depth) fuel [])
      (List.intercalate [','] ((entry :: entries).map fun e => memberLine 1 (textMember e)) ++
        ['\n', '\x7d'])
      (.obj ((entry :: entries).map textMember)) := by
  refine reads_object (fun e he => ?_) hfuel
  have hline := length_le_flatMap (f := lineRest) he
  have hplain := length_le_quoteChars e.2.toList
  have hvalue : (quoteChars e.2.toList).length < (lineRest e).length := by
    simp only [lineRest, List.length_append, List.length_cons]
    omega
  exact reads_value_quote (by omega) depth [' '] (by simp [IsBlank])

/-- The indented text of an object of texts is read as the object. -/
theorem readRaw_pretty_texts (entries : List (String × String)) :
    readRaw (Json.obj (entries.map textMember)).pretty =
      .ok (.obj (entries.map textMember)) := by
  refine readRaw_of_reads ?_
  cases entries with
  | nil =>
    have htext : (pretty (.obj [])).toList = ['\x7b', '\x7d'] := by decide
    rw [List.map_nil, htext]
    exact reads_value_object 126 (reads_members_end _ [] 2 [] nofun)
  | cons entry entries =>
    have hnewline : (newline 0).toList = ['\n'] := by decide
    have htext : (pretty (.obj ((entry :: entries).map textMember))).toList =
        '\x7b' :: (List.intercalate [',']
          ((entry :: entries).map fun e => memberLine 1 (textMember e)) ++ ['\n', '\x7d']) := by
      rw [pretty, List.map_cons, toList_indented_obj, hnewline, ← List.map_cons, List.map_map]
      simp [Function.comp_def]
    have hlength := length_flatMap_le_intercalate (l := entry :: entries) (f := lineRest)
      (g := fun e => memberLine 1 (textMember e)) fun e _ => by
        rw [memberLine_textMember, List.length_append, List.length_cons (a := '"')]
        omega
    rw [htext]
    refine reads_value_object 126 (reads_entries ?_ _)
    rw [List.length_cons, List.length_append]
    omega

end BrowserLab.Json
