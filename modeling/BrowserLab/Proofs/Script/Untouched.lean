import BrowserLab.Proofs.Script.Import
import BrowserLab.Proofs.Script.Token.Cover
import BrowserLab.Proofs.Script.Token.Cut
import BrowserLab.Script.Parser

/-!
# Texts without imports

Imports are taken out of a text before it is cut into tokens, so a line can read as an import that
is none.  A token that begins at its first word is the word `import`; a text without this word
therefore has such lines only where no token begins: in a string, in the text of a template or in a
comment.  If it has none of these either, taking out imports leaves it alone, and if it has one then
not.

* `Part`: the text, or a hole in it; `Lacks`: none of its tokens, nor of its holes', is this word.
* `ImportLine`: a line reads as an import; `Hidden`: no token begins with its first word.
* `stripImports_of_lacks_import`: what becomes of a text without the word `import`.
-/

namespace BrowserLab.Script

/-! ### Lines that read as imports -/

/-- In a text that begins at the beginning of a line or in the middle of one, a line begins behind
`before`, and what follows reads as an import. -/
structure ImportLine (lineStart : Bool) (cs before rest : List Char) : Prop where
  text : cs = before ++ rest
  first : before = [] → lineStart = true
  behind : ∀ d ∈ before.getLast?, d = '\n'
  reads : (Script.import? rest).isSome = true

variable {lineStart : Bool} {cs before rest left : List Char}

theorem ImportLine.cons {d : Char} (h : ImportLine (d = '\n') cs before rest) :
    ImportLine lineStart (d :: cs) (d :: before) rest where
  text := by rw [h.text, List.cons_append]
  first := nofun
  behind := by
    cases before with
    | nil =>
      rintro e ⟨⟩
      exact of_decide_eq_true (h.first rfl)
    | cons e before =>
      rw [List.getLast?_cons_cons]
      exact h.behind
  reads := h.reads

theorem ImportLine.tail {d e : Char} (h : ImportLine lineStart (d :: cs) (e :: before) rest) :
    ImportLine (d = '\n') cs before rest := by
  obtain ⟨rfl, htext⟩ := List.cons.inj h.text
  refine ⟨htext, ?_, ?_, h.reads⟩
  · rintro rfl
    exact decide_eq_true (h.behind d rfl)
  · cases before with
    | nil => nofun
    | cons e before =>
      have hbehind := h.behind
      rwa [List.getLast?_cons_cons] at hbehind

/-- A text no line of which reads as an import is left alone. -/
theorem Strips.eq_of_no_line (h : Strips lineStart cs left)
    (hline : ∀ before rest, ¬ ImportLine lineStart cs before rest) : left = cs := by
  induction h with
  | done => rfl
  | @declaration cs after left breaks found _ _ =>
    exact absurd ⟨rfl, fun _ => rfl, nofun, by rw [found]; rfl⟩ (hline [] cs)
  | @keep lineStart d cs left _ _ ih =>
    rw [ih fun before rest h => hline (d :: before) rest h.cons]

theorem Strips.length_le (h : Strips lineStart cs left) : left.length ≤ cs.length := by
  induction h with
  | done => exact Nat.le_refl _
  | declaration found _ ih =>
    have := breaks_lt_of_import? found
    rw [List.length_append, List.length_replicate]
    omega
  | keep _ _ ih => exact Nat.succ_le_succ ih

/-- A line that reads as an import is not left, or not all of it. -/
theorem Strips.length_lt (h : Strips lineStart cs left)
    (hline : ImportLine lineStart cs before rest) : left.length < cs.length := by
  induction h generalizing before with
  | done =>
    obtain ⟨rfl, rfl⟩ := List.append_eq_nil_iff.mp hline.text.symm
    cases hline.reads
  | declaration found hrest _ =>
    have := breaks_lt_of_import? found
    have := hrest.length_le
    rw [List.length_append, List.length_replicate]
    omega
  | @keep lineStart d cs left none _ ih =>
    cases before with
    | nil =>
      have hreads := hline.reads
      obtain rfl : d :: cs = rest := hline.text
      rw [none (hline.first rfl)] at hreads
      cases hreads
    | cons e before => exact Nat.succ_lt_succ (ih hline.tail)

/-- What reads as an import has the word `import` behind its spaces and tabs, and then a blank. -/
theorem ImportLine.word (h : ImportLine lineStart cs before rest) :
    ∃ behind, rest = rest.takeWhile isSpaceOrTab ++ ("import".toList ++ behind) ∧
      ∀ d ∈ behind.head?, Text.isBlank d = true := by
  obtain ⟨⟨after, breaks⟩, hfound⟩ := Option.isSome_iff_exists.mp h.reads
  obtain ⟨text, tail, hrest, htext, -, -⟩ := declaration_of_import? hfound
  cases htext with
  | @mk indent clause path first last hindent hclause _ _ _ =>
    have hparts : rest =
        indent ++ ("import".toList ++ (clause ++ (first :: path ++ [last] ++ tail ++ after))) := by
      rw [hrest]
      simp
    have hspaces : rest.takeWhile isSpaceOrTab = indent := by
      rw [hparts, List.takeWhile_append_of_pos hindent]
      exact List.append_nil _
    rw [hspaces]
    refine ⟨_, hparts, ?_⟩
    have hblank : (clause ++ (first :: path ++ [last] ++ tail ++ after)).head?.any Text.isBlank =
        true := by
      cases hclause with
      | blanks hs => exact hs.head
      | names hs _ _ _ =>
        simp only [List.append_assoc]
        exact hs.head
    intro d hd
    rw [Option.mem_def.mp hd] at hblank
    exact hblank

/-! ### Parts of a text -/

/-- The text itself, or a hole in it, however deep it is nested. -/
inductive Part (source : String) : Place → String → Prop
  | whole : Part source .start source
  | hole {place hole : Place} {piece inner : String} (outer : Part source place piece)
      (within : HoleOf place piece hole inner) : Part source hole inner

/-- The text is cut into tokens, and so are the holes in it, and none of the tokens is this word. -/
def Lacks (w : String) (source : String) : Prop :=
  ∀ place piece, Part source place piece →
    ∃ ts, tokenizeAt place piece = .ok ts ∧ ∀ t ∈ ts, t.kind.isWord w = false

/-- A token of the text or of a hole in it begins at the place. -/
def Begins (source : String) (place : Place) : Prop :=
  ∃ start piece, Part source start piece ∧
    ∃ ts, tokenizeAt start piece = .ok ts ∧ ∃ t ∈ ts, t.place = place

/-- No token begins with the first character of the line that is neither a space nor a tab. -/
def Hidden (source : String) (before rest : List Char) : Prop :=
  ¬ Begins source (Place.start.behind (before ++ rest.takeWhile isSpaceOrTab))

/-- A part of a text is a piece of it, and a hole ends before a brace. -/
theorem Part.piece {source piece : String} {place : Place} (h : Part source place piece) :
    ∃ before after, source.toList = before ++ piece.toList ++ after ∧
      place = Place.start.behind before ∧ ∀ d ∈ after.head?, d = '\x7d' := by
  induction h with
  | whole => exact ⟨[], [], by simp, rfl, nofun⟩
  | hole _ within ih =>
    obtain ⟨before, after, hsource, hplace, -⟩ := ih
    obtain ⟨ts, hts, t, ht, hmem⟩ := within
    obtain ⟨s, s', hpiece, hhole⟩ := (covers_tokenizeAt hts hplace).hole_closed ht hmem
    refine ⟨before ++ s, '\x7d' :: s' ++ after, ?_, hhole, ?_⟩
    · rw [hsource, hpiece]
      simp only [List.append_assoc]
    · rintro d ⟨⟩
      rfl

/-! ### The token at a place -/

/-- Places in a text tell how much of it is before them. -/
theorem Place.behind_inj {p : Place} {s t : List Char} (h : s <+: t)
    (hplace : p.behind s = p.behind t) : s = t := by
  obtain ⟨u, rfl⟩ := h
  rw [Place.behind_append] at hplace
  generalize p.behind s = q at hplace
  cases u with
  | nil => rw [List.append_nil]
  | cons d u =>
    have hline : q.line = q.line + (d :: u).count '\n' := congrArg Place.line hplace
    have hcount : (d :: u).count '\n' = 0 := by omega
    have hcolumn := congrArg Place.column hplace
    rw [Place.behind, if_neg (List.count_eq_zero.mp hcount)] at hcolumn
    have hcolumn : q.column = q.column + (u.length + 1) := hcolumn
    omega

/-- Every token has been read where its place is. -/
theorem exists_tokenKind_of_tokens {fuel : Nat} {done ts : List Token} {c : Cursor}
    (h : Scan.tokens fuel done c = .ok ts) {t : Token} (ht : t ∈ ts) :
    t ∈ done ∨ ∃ fuel before c₁ c₂, c.Takes before c₁ ∧ c₁.place = t.place ∧
      Scan.tokenKind fuel c₁ = .ok (t.kind, c₂) := by
  induction fuel generalizing done c with
  | zero => cases h
  | succ fuel ih =>
    rw [Scan.tokens] at h
    split at h
    · cases h
    rename_i newline c₁ htrivia
    obtain ⟨trivia, -, htrivia, -⟩ := Scan.takes_skipTrivia htrivia
    split at h
    · cases h
    · rename_i c₂ htoken
      cases h
      rcases List.mem_cons.mp (List.mem_reverse.mp ht) with rfl | hdone
      · exact .inr ⟨_, trivia, c₁, c₂, htrivia, rfl, htoken⟩
      · exact .inl hdone
    · rename_i kind c₂ hkind htoken
      obtain ⟨rfl, -⟩ | ⟨text, -, htakes, -⟩ := Scan.takes_tokenKind htoken
      · exact (hkind rfl).elim
      rcases ih h with hdone | ⟨fuel', before, c₃, c₄, hbefore, hplace, hread⟩
      · rcases List.mem_cons.mp hdone with rfl | hdone
        · exact .inr ⟨_, trivia, c₁, c₂, htrivia, rfl, htoken⟩
        · exact .inl hdone
      · exact .inr ⟨fuel', _, c₃, c₄, (htrivia.append htakes).append hbefore, hplace, hread⟩

theorem takeWhile_append_of_head {p : Char → Bool} {s u : List Char}
    (hu : ∀ d ∈ u.head?, p d = false) : (s ++ u).takeWhile p = s.takeWhile p := by
  have hnone : u.takeWhile p = [] := by
    cases u with
    | nil => rfl
    | cons d u => exact List.takeWhile_cons_of_neg (by simp [hu d rfl])
  rw [List.takeWhile_append, hnone, List.append_nil]
  split
  · rename_i hall
    exact ((List.takeWhile_prefix p).eq_of_length hall).symm
  · rfl

/-- Where a token begins, it is the word that stands there. -/
theorem not_lacks_of_begins {source : String} {word : String} {behind : List Char}
    (hword : isWordText word.toList = true)
    (hbehind : ∀ d ∈ behind.head?, Scan.isWordPart d = false)
    (hsource : source.toList = before ++ (word.toList ++ behind))
    (h : Begins source (Place.start.behind before)) : ¬ Lacks word source := by
  intro hlacks
  obtain ⟨start, piece, hpart, ts, hts, t, ht, hplace⟩ := h
  obtain ⟨ts', hts', hfree⟩ := hlacks start piece hpart
  obtain rfl : ts = ts' := Except.ok.inj (hts.symm.trans hts')
  obtain ⟨outer, after, hpiece, rfl, hclose⟩ := hpart.piece
  obtain hnil | ⟨fuel, inner, c₁, c₂, htakes, hstart, hread⟩ := exists_tokenKind_of_tokens hts ht
  · cases hnil
  have hrest : piece.toList = inner ++ c₁.rest := htakes.rest
  have hall : source.toList = outer ++ inner ++ (c₁.rest ++ after) := by
    rw [hpiece, hrest]
    simp only [List.append_assoc]
  -- The place tells that the token is read where the word stands.
  have hat : outer ++ inner = before := by
    have hbehind : Place.start.behind (outer ++ inner) = Place.start.behind before := by
      rw [Place.behind_append, ← hplace, ← hstart, htakes.place]
    rcases List.prefix_or_prefix_of_prefix ⟨_, hall.symm⟩ ⟨_, hsource.symm⟩ with h | h
    · exact Place.behind_inj h hbehind
    · exact (Place.behind_inj h hbehind.symm).symm
  have hword' : c₁.rest ++ after = word.toList ++ behind := by
    rw [hall, hat] at hsource
    exact List.append_cancel_left hsource
  -- A hole ends before a brace, so it does not cut the word off.
  have hclosed : ∀ d ∈ after.head?, Scan.isWordPart d = false := by
    intro d hd
    obtain rfl := hclose d hd
    decide
  have hpart := isWordPart_of_isWordText hword
  have hlongest : c₁.rest.takeWhile Scan.isWordPart = word.toList := by
    rw [← takeWhile_append_of_head hclosed, hword', takeWhile_append_of_head hbehind]
    exact List.takeWhile_eq_self_iff.mpr hpart
  have hcut : c₁ = ⟨word.toList ++ c₁.rest.dropWhile Scan.isWordPart, c₁.place⟩ := by
    rw [← hlongest, List.takeWhile_append_dropWhile]
  have hnext : ∀ d ∈ (c₁.rest.dropWhile Scan.isWordPart).head?, Scan.isWordPart d = false := by
    rw [← Cursor.rest_span]
    exact head_span
  have hkind := tokenKind_word hword hnext fuel c₁.place
  rw [← hcut, hread] at hkind
  obtain ⟨hkind, -⟩ := Prod.mk.inj (Except.ok.inj hkind)
  have hplain := hfree t ht
  rw [hkind] at hplain
  simp [Token.Kind.isWord] at hplain

/-- Is the part of a text cut into tokens, none of which is this word, and are its holes among these
parts? -/
def lacksWithin (w : String) (parts : List (Place × String)) (part : Place × String) : Bool :=
  match tokenizeAt part.1 part.2 with
  | .ok ts => ts.all fun t => !t.kind.isWord w && t.kind.chunks.all fun
    | .text _ => true
    | .hole inner hole => parts.contains (hole, inner)
  | .error _ => false

/-- A text is without a word if a list of parts with all their holes is. -/
theorem lacks_of_lacksWithin {w source : String} (parts : List (Place × String))
    (hwhole : (.start, source) ∈ parts) (h : ∀ part ∈ parts, lacksWithin w parts part = true) :
    Lacks w source := by
  have hcut {place : Place} {piece : String} (hmem : (place, piece) ∈ parts) :
      ∃ ts, tokenizeAt place piece = .ok ts ∧ ∀ t ∈ ts, t.kind.isWord w = false ∧
        ∀ inner hole, .hole inner hole ∈ t.kind.chunks → (hole, inner) ∈ parts := by
    have hpart := h _ hmem
    unfold lacksWithin at hpart
    split at hpart
    · rename_i ts hts
      refine ⟨ts, hts, fun t ht => ?_⟩
      have htoken := List.all_eq_true.mp hpart t ht
      rw [Bool.and_eq_true, Bool.not_eq_true', List.all_eq_true] at htoken
      refine ⟨htoken.1, fun inner hole hchunk => ?_⟩
      exact List.contains_iff_mem.mp (htoken.2 _ hchunk)
    · cases hpart
  intro place piece hpart
  have hmem : (place, piece) ∈ parts := by
    induction hpart with
    | whole => exact hwhole
    | hole _ within ih =>
      obtain ⟨ts, hts, t, ht, hchunk⟩ := within
      obtain ⟨ts', hts', hfree⟩ := hcut ih
      obtain rfl : ts = ts' := Except.ok.inj (hts.symm.trans hts')
      exact (hfree t ht).2 _ _ hchunk
  obtain ⟨ts, hts, hfree⟩ := hcut hmem
  exact ⟨ts, hts, fun t ht => (hfree t ht).1⟩

/-! ### What becomes of a text -/

/-- Without the word `import`, a line reads as an import only where it is hidden. -/
theorem ImportLine.hidden {source : String} (h : ImportLine true source.toList before rest)
    (hlacks : Lacks "import" source) : Hidden source before rest := by
  intro hbegins
  obtain ⟨behind, hrest, hblank⟩ := h.word
  have hsource : source.toList =
      before ++ rest.takeWhile isSpaceOrTab ++ ("import".toList ++ behind) := by
    rw [h.text]
    conv_lhs => rw [hrest]
    rw [List.append_assoc]
  have hbehind : ∀ d ∈ behind.head?, Scan.isWordPart d = false :=
    fun d hd => isWordPart_of_isBlank (hblank d hd)
  exact not_lacks_of_begins (by decide +kernel) hbehind hsource hbegins hlacks

/-- **Taking imports out of a text without the word `import`.**  A line that reads as an import is
hidden in a string, in the text of a template or in a comment: no token begins with its first word.
If no hidden line reads as an import, the text has the same tokens without its imports, at the same
places; a line that does is lost. -/
theorem stripImports_of_lacks_import {source : String} (h : Lacks "import" source) :
    (∀ before rest, ImportLine true source.toList before rest → Hidden source before rest) ∧
      ((∀ before rest, Hidden source before rest → ¬ ImportLine true source.toList before rest) →
        tokenize (stripImports source) = tokenize source) ∧
      ∀ before rest, ImportLine true source.toList before rest → stripImports source ≠ source := by
  have hstrips := strips_stripImports source
  refine ⟨fun before rest hline => hline.hidden h, fun hnone => ?_, fun before rest hline => ?_⟩
  · have hsame := hstrips.eq_of_no_line fun before rest hline =>
      hnone before rest (hline.hidden h) hline
    rw [String.toList_inj.mp hsame]
  · intro hsame
    have hshort := hstrips.length_lt hline
    rw [hsame] at hshort
    exact Nat.lt_irrefl _ hshort

theorem lacks_import_template : Lacks "import" "go(`${ [2] }\nimport 'kit'\n`);" :=
  lacks_of_lacksWithin [(.start, _), (⟨1, 7⟩, " [2] ")] List.mem_cons_self (by decide +kernel)

/-- The second line of a template, which is text behind a hole. -/
theorem stripImports_of_lacks_import_template :
    Lacks "import" "go(`${ [2] }\nimport 'kit'\n`);" ∧
      Hidden "go(`${ [2] }\nimport 'kit'\n`);" "go(`${ [2] }\n".toList "import 'kit'\n`);".toList ∧
      stripImports "go(`${ [2] }\nimport 'kit'\n`);" ≠ "go(`${ [2] }\nimport 'kit'\n`);" := by
  have hlast : "go(`${ [2] }\n".toList.getLast? = some '\n' := by decide
  have hline : ImportLine true "go(`${ [2] }\nimport 'kit'\n`);".toList "go(`${ [2] }\n".toList
      "import 'kit'\n`);".toList :=
    ⟨by decide, nofun, fun d hd => Option.some.inj (hd.symm.trans hlast), by decide⟩
  have hall := stripImports_of_lacks_import lacks_import_template
  exact ⟨lacks_import_template, hall.1 _ _ hline, hall.2.2 _ _ hline⟩

/-- A template loses the line of its text that reads as an import. -/
theorem stripImports_cuts_template :
    ¬ ∀ source, Lacks "import" source → tokenize (stripImports source) = tokenize source := by
  intro h
  have hsame := congrArg (fun r => r.toOption.map fun ts => ts.map fun t => t.kind.chunks)
    (h _ lacks_import_template)
  revert hsame
  decide +kernel

end BrowserLab.Script
