import Mathlib.Data.List.Forall2
import Mathlib.Data.List.Infix
import Mathlib.Data.List.TakeWhile
import BrowserLab.Script.Import

/-!
# Imports

What an import is, and what is left of a text when its imports are taken out.

* `Declaration` and `Trailing`: an import from the beginning of its line to its closing quote, and
  what is taken with it behind that.
* `import?_eq_some_iff`: the import at the beginning of a text is found if and only if there is one,
  and it takes as much with it as it can.
* `Strips`: what is left of a text, one character or one import after the other.
-/

namespace BrowserLab.Script

/-! ### Declarations -/

/-- One blank or more. -/
def Blanks (s : List Char) : Prop := s ≠ [] ∧ ∀ d ∈ s, Text.isBlank d = true

/-- What stands between the word `import` and the path: blanks, or names and the word `from` with
blanks around them. -/
inductive Clause : List Char → Prop
  | blanks {s : List Char} (h : Blanks s) : Clause s
  | names {s names t u : List Char} (before : Blanks s)
      (plain : ∀ d ∈ names, d ≠ ';' ∧ isQuote d = false) (between : Blanks t) (behind : Blanks u) :
      Clause (s ++ names ++ t ++ "from".toList ++ u)

/-- An import from the beginning of its line to the quote that closes its path. -/
inductive Declaration : List Char → Prop
  | mk {indent clause path : List Char} {first last : Char}
      (indented : ∀ d ∈ indent, isSpaceOrTab d = true) (names : Clause clause)
      (opens : isQuote first = true) (within : ∀ d ∈ path, isQuote d = false ∧ d ≠ '\n')
      (closes : isQuote last = true) :
      Declaration (indent ++ "import".toList ++ clause ++ first :: path ++ [last])

/-- What is taken with an import, in front of what is left: spaces and tabs, and a semicolon behind
them if there is one. -/
inductive Trailing : List Char → List Char → Prop
  | closed {spaces rest : List Char} (blank : ∀ d ∈ spaces, isSpaceOrTab d = true) :
      Trailing (spaces ++ [';']) rest
  | bare {spaces rest : List Char} (blank : ∀ d ∈ spaces, isSpaceOrTab d = true)
      (ends : ∀ d ∈ rest.head?, isSpaceOrTab d = false ∧ d ≠ ';') : Trailing spaces rest

theorem Blanks.reverse {s : List Char} (h : Blanks s) : Blanks s.reverse :=
  ⟨by simpa using h.1, fun d hd => h.2 d (List.mem_reverse.mp hd)⟩

theorem Blanks.head {s t : List Char} (h : Blanks s) :
    (s ++ t).head?.any Text.isBlank = true := by
  obtain ⟨hne, hblank⟩ := h
  cases s with
  | nil => exact absurd rfl hne
  | cons d s => exact hblank d List.mem_cons_self

theorem Blanks.not_mem {s : List Char} (h : Blanks s) {d : Char} (hd : Text.isBlank d = false) :
    d ∉ s := by
  intro hmem
  rw [h.2 d hmem] at hd
  cases hd

theorem blanks_singleton {d : Char} (h : Text.isBlank d = true) : Blanks [d] :=
  ⟨List.cons_ne_nil _ _, by simpa using h⟩

/-- Two characters and more have a first and a last one. -/
theorem exists_ends {cs : List Char} (h : 2 ≤ cs.length) : ∃ d mid e, cs = d :: (mid ++ [e]) := by
  obtain _ | ⟨d, rest⟩ := cs
  · cases h
  · have hne : rest ≠ [] := by
      rintro rfl
      cases Nat.le_of_succ_le_succ h
    exact ⟨d, rest.dropLast, rest.getLast hne, by rw [List.dropLast_append_getLast]⟩

/-- A text falls into the longest beginning of characters of a kind and what does not go on with
it. -/
theorem exists_longest (p : Char → Bool) (cs : List Char) :
    ∃ s t, cs = s ++ t ∧ cs.takeWhile p = s ∧ cs.dropWhile p = t ∧ (∀ d ∈ s, p d = true) ∧
      ∀ d ∈ t.head?, p d = false := by
  refine ⟨_, _, List.takeWhile_append_dropWhile.symm, rfl, rfl,
    fun d hd => List.mem_takeWhile_imp hd, fun d hd => ?_⟩
  have hhead := List.head?_dropWhile_not p cs
  rw [Option.mem_def.mp hd] at hhead
  simpa using hhead

theorem clause_of_isImportClause {cs : List Char} (hquotes : ∀ d ∈ cs, isQuote d = false)
    (h : isImportClause cs = true) : Clause cs := by
  unfold isImportClause at h
  by_cases hall : cs.all Text.isBlank = true
  · rw [if_pos hall] at h
    exact .blanks ⟨by simpa using h, List.all_eq_true.mp hall⟩
  rw [if_neg hall] at h
  obtain ⟨last, word, hsplit, -, hword, hblank, -⟩ := exists_longest Text.isBlank cs.reverse
  extract_lets back word' before at h
  obtain rfl : word = word' := hword.symm
  simp only [Bool.and_eq_true, decide_eq_true_eq] at h
  obtain ⟨⟨⟨⟨⟨hsemicolon, hhead⟩, hback⟩, hfrom⟩, hlong⟩, hbefore⟩ := h
  -- The word `from` stands before the last blanks, and before it there are other blanks.
  obtain ⟨behind, hfrom⟩ := List.isPrefixOf_iff_prefix.mp hfrom
  obtain rfl : before = behind := by
    show word'.drop 4 = behind
    rw [← hfrom]
    rfl
  obtain ⟨d, mid, e, hends⟩ := exists_ends hlong
  rw [hends] at hbefore
  have hlast : Blanks last.reverse := by
    refine ⟨?_, fun d hd => hblank d (List.mem_reverse.mp hd)⟩
    intro hnil
    rw [List.reverse_eq_nil_iff.mp hnil, List.nil_append, ← hfrom] at hsplit
    have hm : Text.isBlank 'm' = true := by
      rw [show back = "morf".toList ++ before from hsplit] at hback
      exact hback
    exact absurd hm (by decide)
  have hcs : cs = [e] ++ mid.reverse ++ [d] ++ "from".toList ++ last.reverse := by
    rw [← List.reverse_reverse cs, hsplit, ← hfrom, hends]
    simp
  rw [hcs] at hhead
  rw [hcs]
  refine .names (blanks_singleton hhead) ?_ (blanks_singleton hbefore) hlast
  intro c hc
  have hmem : c ∈ cs := by
    rw [hcs]
    simp [List.mem_reverse.mp hc]
  refine ⟨?_, hquotes c hmem⟩
  rintro rfl
  simp [hmem] at hsemicolon

theorem isImportClause_of_clause {cs : List Char} (h : Clause cs) : isImportClause cs = true := by
  unfold isImportClause
  cases h with
  | blanks h =>
    rw [if_pos (List.all_eq_true.mpr h.2)]
    simpa using h.1
  | @names s names t u hs hnames ht hu =>
    have hfrom : ¬ (s ++ names ++ t ++ "from".toList ++ u).all Text.isBlank = true := by
      intro hall
      have := List.all_eq_true.mp hall 'f' (by simp)
      exact absurd this (by decide)
    have hback : (s ++ names ++ t ++ "from".toList ++ u).reverse =
        u.reverse ++ ("morf".toList ++ (t.reverse ++ (s ++ names).reverse)) := by
      simp
    have hword : (u.reverse ++ ("morf".toList ++ (t.reverse ++ (s ++ names).reverse))).dropWhile
        Text.isBlank = "morf".toList ++ (t.reverse ++ (s ++ names).reverse) := by
      rw [List.dropWhile_append_of_pos hu.reverse.2]
      exact List.dropWhile_cons_of_neg (by decide)
    have hlong : 2 ≤ (t.reverse ++ (s ++ names).reverse).length := by
      have hs' := List.length_pos_iff.mpr hs.1
      have ht' := List.length_pos_iff.mpr ht.1
      simp only [List.length_append, List.length_reverse]
      omega
    have hsemicolon : ';' ∉ s ++ names ++ t ++ "from".toList ++ u := by
      have hsemi := fun {v : List Char} (hv : Blanks v) => hv.not_mem (d := ';') (by decide)
      have hplain : ';' ∉ names := fun hmem => (hnames ';' hmem).1 rfl
      simp [hsemi hs, hsemi ht, hsemi hu, hplain]
    rw [if_neg hfrom, hback]
    dsimp only
    rw [hword]
    simp only [Bool.and_eq_true, decide_eq_true_eq]
    refine ⟨⟨⟨⟨⟨?_, ?_⟩, hu.reverse.head⟩, ?_⟩, hlong⟩, ht.reverse.head⟩
    · simpa using hsemicolon
    · rw [List.append_assoc, List.append_assoc, List.append_assoc]
      exact hs.head
    · exact List.isPrefixOf_iff_prefix.mpr (List.prefix_append _ _)

theorem Clause.not_quote {cs : List Char} (h : Clause cs) : ∀ d ∈ cs, isQuote d = false := by
  have hblanks {s : List Char} (hs : Blanks s) : ∀ d ∈ s, isQuote d = false := by
    intro d hd
    by_contra hquote
    rw [Bool.not_eq_false, isQuote, Bool.or_eq_true, decide_eq_true_eq, decide_eq_true_eq] at hquote
    rcases hquote with rfl | rfl
    · exact hs.not_mem (by decide) hd
    · exact hs.not_mem (by decide) hd
  cases h with
  | blanks hs => exact hblanks hs
  | names hs hnames ht hu =>
    have hfrom : ∀ d ∈ "from".toList, isQuote d = false := by
      intro d hd
      simp only [String.reduceToList, List.mem_cons, List.not_mem_nil, or_false] at hd
      rcases hd with rfl | rfl | rfl | rfl <;> rfl
    simp only [List.forall_mem_append]
    exact ⟨⟨⟨⟨hblanks hs, fun d hd => (hnames d hd).2⟩, hblanks ht⟩, hfrom⟩, hblanks hu⟩

/-! ### Imports at the beginning of a text -/

/-- What is behind an import and the spaces, tabs and the semicolon taken with it. -/
def behindImport (cs : List Char) : List Char :=
  match cs.dropWhile isSpaceOrTab with
  | ';' :: rest => rest
  | rest => rest

theorem trailing_behindImport (cs : List Char) :
    ∃ tail, cs = tail ++ behindImport cs ∧ Trailing tail (behindImport cs) := by
  obtain ⟨spaces, rest, hcs, -, hrest, hspaces, hends⟩ := exists_longest isSpaceOrTab cs
  unfold behindImport
  rw [hrest]
  split
  · rename_i rest
    refine ⟨spaces ++ [';'], ?_, .closed hspaces⟩
    rw [hcs, List.append_assoc, List.singleton_append]
  · rename_i hsemicolon
    refine ⟨spaces, hcs, .bare hspaces fun d hd => ⟨hends d hd, ?_⟩⟩
    rintro rfl
    obtain ⟨behind, rfl⟩ := List.head?_eq_some_iff.mp hd
    exact hsemicolon behind rfl

theorem behindImport_append {tail rest : List Char} (h : Trailing tail rest) :
    behindImport (tail ++ rest) = rest := by
  unfold behindImport
  cases h with
  | closed hblank =>
    rw [List.append_assoc, List.dropWhile_append_of_pos hblank,
      List.singleton_append, List.dropWhile_cons_of_neg (by decide)]
    rfl
  | bare hblank hends =>
    rw [List.dropWhile_append_of_pos hblank]
    cases rest with
    | nil => rfl
    | cons d rest =>
      obtain ⟨hd, hsemicolon⟩ := hends d rfl
      rw [List.dropWhile_cons_of_neg (by simp [hd])]
      split
      · rename_i heq
        exact absurd (List.cons.inj heq).1 hsemicolon
      · rfl

theorem Trailing.newline_not_mem {tail rest : List Char} (h : Trailing tail rest) :
    '\n' ∉ tail := by
  have hspaces {s : List Char} (hs : ∀ d ∈ s, isSpaceOrTab d = true) : '\n' ∉ s :=
    fun hmem => absurd (hs _ hmem) (by decide)
  cases h with
  | closed hblank => simp [hspaces hblank]
  | bare hblank _ => exact hspaces hblank

section Found

variable {indent clause path cs after : List Char} {first last : Char} {breaks : Nat}

theorem newline_not_mem_of_spaces (h : ∀ d ∈ indent, isSpaceOrTab d = true) : '\n' ∉ indent :=
  fun hmem => absurd (h _ hmem) (by decide)

/-- Lines end in an import only between the word `import` and the path. -/
theorem count_declaration (hindent : ∀ d ∈ indent, isSpaceOrTab d = true)
    (hopens : isQuote first = true) (hpath : ∀ d ∈ path, isQuote d = false ∧ d ≠ '\n')
    (hcloses : isQuote last = true) :
    (indent ++ "import".toList ++ clause ++ first :: path ++ [last]).count '\n' =
      clause.count '\n' := by
  have hquote {d : Char} (h : isQuote d = true) : d ≠ '\n' := by
    rintro rfl
    cases h
  have hindent' := List.count_eq_zero.mpr (newline_not_mem_of_spaces hindent)
  have hpath' : path.count '\n' = 0 := List.count_eq_zero.mpr fun hmem => (hpath _ hmem).2 rfl
  simp [List.count_append, hindent', hpath', hquote hopens, hquote hcloses]

theorem declaration_of_import? (h : import? cs = some (after, breaks)) :
    ∃ text tail, cs = text ++ tail ++ after ∧ Declaration text ∧ Trailing tail after ∧
      breaks = (text ++ tail).count '\n' := by
  obtain ⟨indent, line, hcs, -, hline, hindent, -⟩ := exists_longest isSpaceOrTab cs
  unfold import? at h
  extract_lets line' at h
  rw [show line' = line from hline] at h
  split at h
  · cases h
  rename_i hword
  rw [Bool.not_eq_true, Bool.not_eq_false', List.isPrefixOf_iff_prefix] at hword
  obtain ⟨back, rfl⟩ := hword
  have hback : ("import".toList ++ back).drop 6 = back := rfl
  rw [hback, List.span_eq_takeWhile_dropWhile] at h
  obtain ⟨clause, rest, rfl, hclause, hrest, hplain, hopens⟩ :=
    exists_longest (fun c => !isQuote c) back
  rw [hclause, hrest] at h
  cases rest with
  | nil => cases h
  | cons first rest =>
    obtain ⟨path, close, rfl, -, hclose, hwithin, -⟩ :=
      exists_longest (fun c => !isQuote c && decide (c ≠ '\n')) rest
    have hdrop : (first :: (path ++ close)).drop 1 = path ++ close := rfl
    dsimp only at h
    rw [hdrop, hclose] at h
    cases close with
    | nil => cases h
    | cons last behind =>
      dsimp only at h
      split at h
      · rename_i hfits
        rw [Bool.and_eq_true] at hfits
        obtain ⟨hcloses, hfits⟩ := hfits
        have hfound : some (behindImport behind, clause.count '\n') = some (after, breaks) := h
        obtain ⟨rfl, rfl⟩ := Prod.mk.inj (Option.some.inj hfound)
        have hclause := clause_of_isImportClause (fun d hd => by simpa using hplain d hd) hfits
        have hopens : isQuote first = true := by simpa using hopens first rfl
        have hpath : ∀ d ∈ path, isQuote d = false ∧ d ≠ '\n' :=
          fun d hd => by simpa using hwithin d hd
        obtain ⟨tail, hbehind, htail⟩ := trailing_behindImport behind
        refine ⟨_, tail, ?_, .mk hindent hclause hopens hpath hcloses, htail, ?_⟩
        · rw [hcs]
          conv_lhs => rw [hbehind]
          simp
        · rw [List.count_append, count_declaration hindent hopens hpath hcloses,
            List.count_eq_zero.mpr htail.newline_not_mem, Nat.add_zero]
      · cases h

theorem import?_of_declaration {text tail : List Char} (htext : Declaration text)
    (htail : Trailing tail after) :
    Script.import? (text ++ tail ++ after) = some (after, (text ++ tail).count '\n') := by
  cases htext with
  | @mk indent clause path first last hindent hclause hopens hpath hcloses =>
    have hparts : indent ++ "import".toList ++ clause ++ first :: path ++ [last] ++ tail ++ after =
        indent ++ ("import".toList ++ (clause ++ first :: (path ++ last :: (tail ++ after)))) := by
      simp
    have hline : (indent ++ ("import".toList ++
        (clause ++ first :: (path ++ last :: (tail ++ after))))).dropWhile isSpaceOrTab =
        "import".toList ++ (clause ++ first :: (path ++ last :: (tail ++ after))) := by
      rw [List.dropWhile_append_of_pos hindent]
      exact List.dropWhile_cons_of_neg (by decide)
    have hword : "import".toList.isPrefixOf
        ("import".toList ++ (clause ++ first :: (path ++ last :: (tail ++ after)))) = true :=
      List.isPrefixOf_iff_prefix.mpr (List.prefix_append _ _)
    have hdrop (rest : List Char) : ("import".toList ++ rest).drop 6 = rest := rfl
    have hdrop' (rest : List Char) : (first :: rest).drop 1 = rest := rfl
    have hplain : ∀ d ∈ clause, (!isQuote d) = true := by
      intro d hd
      rw [hclause.not_quote d hd]
      rfl
    have hwithin : ∀ d ∈ path, (!isQuote d && decide (d ≠ '\n')) = true := by
      intro d hd
      simp [hpath d hd]
    have hcount : (indent ++ "import".toList ++ clause ++ first :: path ++ [last] ++ tail).count
        '\n' = clause.count '\n' := by
      rw [List.count_append, count_declaration hindent hopens hpath hcloses,
        List.count_eq_zero.mpr htail.newline_not_mem, Nat.add_zero]
    rw [hparts, hcount]
    unfold import?
    rw [hline]
    simp only [hword, hdrop, List.span_eq_takeWhile_dropWhile, Bool.not_true, Bool.false_eq_true,
      if_false]
    rw [List.takeWhile_append_of_pos hplain, List.dropWhile_append_of_pos hplain,
      List.takeWhile_cons_of_neg (by simp [hopens]), List.dropWhile_cons_of_neg (by simp [hopens]),
      List.append_nil, hdrop', List.dropWhile_append_of_pos hwithin,
      List.dropWhile_cons_of_neg (by simp [hcloses])]
    simp only [hcloses, isImportClause_of_clause hclause, Bool.and_self, if_true]
    exact congrArg (fun rest => some (rest, clause.count '\n')) (behindImport_append htail)

/-- The import at the beginning of a text is found if there is one, and only then.  It takes with it
what can be taken, and its line breaks are counted. -/
theorem import?_eq_some_iff : import? cs = some (after, breaks) ↔
      ∃ text tail, cs = text ++ tail ++ after ∧ Declaration text ∧ Trailing tail after ∧
        breaks = (text ++ tail).count '\n' := by
  constructor
  · exact declaration_of_import?
  · rintro ⟨text, tail, rfl, htext, htail, rfl⟩
    exact import?_of_declaration htext htail

end Found

/-! ### What is left -/

/-- What is left of a text when its imports are taken out, from the beginning of a line or from the
middle of one. -/
inductive Strips : Bool → List Char → List Char → Prop
  | done {lineStart : Bool} : Strips lineStart [] []
  | declaration {cs after left : List Char} {breaks : Nat}
      (found : import? cs = some (after, breaks)) (rest : Strips false after left) :
      Strips true cs (List.replicate breaks '\n' ++ left)
  | keep {lineStart : Bool} {d : Char} {cs left : List Char}
      (none : lineStart = true → import? (d :: cs) = none) (rest : Strips (d = '\n') cs left) :
      Strips lineStart (d :: cs) (d :: left)

/-- An import has more characters than line breaks. -/
theorem breaks_lt_of_import? {cs after : List Char} {breaks : Nat}
    (h : import? cs = some (after, breaks)) : breaks + after.length < cs.length := by
  obtain ⟨text, tail, rfl, htext, -, rfl⟩ := declaration_of_import? h
  have hword : 'i' ∈ text ++ tail := by
    cases htext
    simp
  have hcount : (text ++ tail).count '\n' < (text ++ tail).length := by
    refine Nat.lt_of_le_of_ne List.count_le_length fun heq => ?_
    have := List.count_eq_length.mp heq 'i' hword
    exact absurd this (by decide)
  simp only [List.length_append] at hcount ⊢
  omega

theorem strips_stripFrom {cs : List Char} {fuel : Nat} (lineStart : Bool) (done : List Char)
    (hfuel : cs.length < fuel) :
    ∃ left, stripFrom fuel lineStart done cs = done.reverse ++ left ∧ Strips lineStart cs left := by
  induction fuel generalizing cs lineStart done with
  | zero => cases hfuel
  | succ fuel ih =>
    cases cs with
    | nil => exact ⟨[], by simp [stripFrom], .done⟩
    | cons d rest =>
      rw [stripFrom]
      split
      · rename_i after breaks hfound
        cases lineStart with
        | false => cases hfound
        | true =>
          have hshort := breaks_lt_of_import? hfound
          obtain ⟨left, hleft, hstrips⟩ :=
            @ih after false (List.replicate breaks '\n' ++ done) (by omega)
          refine ⟨List.replicate breaks '\n' ++ left, ?_, .declaration hfound hstrips⟩
          rw [hleft]
          simp
      · rename_i hnone
        obtain ⟨left, hleft, hstrips⟩ :=
          ih (d = '\n') (d :: done) (Nat.lt_of_succ_lt_succ hfuel)
        refine ⟨d :: left, ?_, .keep ?_ hstrips⟩
        · rw [hleft]
          simp
        · rintro rfl
          exact hnone

theorem strips_stripImports (source : String) :
    Strips true source.toList (stripImports source).toList := by
  obtain ⟨left, hleft, hstrips⟩ := strips_stripFrom true [] (Nat.lt_succ_self source.toList.length)
  have hlist : (stripImports source).toList = left := by
    rw [stripImports, String.toList_ofList]
    exact hleft
  rw [hlist]
  exact hstrips

/-- There is only one text that is left. -/
theorem Strips.unique {lineStart : Bool} {cs left left' : List Char} (h : Strips lineStart cs left)
    (h' : Strips lineStart cs left') : left = left' := by
  induction h generalizing left' with
  | done =>
    cases h' with
    | done => rfl
    | declaration found _ => cases found
  | declaration found _ ih =>
    cases h' with
    | done => cases found
    | declaration found' rest' =>
      obtain ⟨rfl, rfl⟩ := Prod.mk.inj (Option.some.inj (found.symm.trans found'))
      rw [ih rest']
    | keep none' _ =>
      rw [none' rfl] at found
      cases found
  | keep none _ ih =>
    cases h' with
    | declaration found' _ =>
      rw [none rfl] at found'
      cases found'
    | keep _ rest' => rw [ih rest']

theorem stripImports_of_strips {source : String} {left : List Char}
    (h : Strips true source.toList left) : (stripImports source).toList = left :=
  (strips_stripImports source).unique h

/-- The rest of a line is left alone. -/
theorem Strips.append_line {line cs left : List Char} (h : Strips false cs left)
    (hline : '\n' ∉ line) : Strips false (line ++ cs) (line ++ left) := by
  induction line with
  | nil => exact h
  | cons d line ih =>
    rw [List.mem_cons, not_or] at hline
    obtain ⟨hd, hline⟩ := hline
    refine .keep nofun ?_
    rw [decide_eq_false (Ne.symm hd)]
    exact ih hline

/-! ### Lines -/

/-- The lines of a text: line feeds stand between them. -/
def lines (cs : List Char) : List (List Char) := cs.splitOn '\n'

theorem lines_newline (cs : List Char) : lines ('\n' :: cs) = [] :: lines cs := by
  simp [lines, List.splitOn_cons_eq_if_modifyHead]

theorem lines_cons {d : Char} (hd : d ≠ '\n') (cs : List Char) :
    lines (d :: cs) = (lines cs).modifyHead (d :: ·) := by
  simp [lines, List.splitOn_cons_eq_if_modifyHead, hd]

theorem exists_lines (cs : List Char) : ∃ line rest, lines cs = line :: rest :=
  List.exists_cons_of_ne_nil (List.splitOn_ne_nil _ _)

/-- Line breaks instead of a text leave of each of its lines the end, which is empty. -/
theorem forall₂_lines_breaks (text : List Char) {left after : List Char}
    (h : List.Forall₂ (· <:+ ·) (lines left) (lines after)) :
    List.Forall₂ (· <:+ ·) (lines (List.replicate (text.count '\n') '\n' ++ left))
      (lines (text ++ after)) := by
  induction text with
  | nil => exact h
  | cons d text ih =>
    by_cases hd : d = '\n'
    · subst hd
      rw [List.count_cons_self, List.replicate_succ, List.cons_append, List.cons_append,
        lines_newline, lines_newline]
      exact .cons (List.suffix_refl _) ih
    · rw [List.count_cons_of_ne hd, List.cons_append, lines_cons hd]
      obtain ⟨line, rest, hlines⟩ := exists_lines (text ++ after)
      rw [hlines] at ih ⊢
      generalize lines (List.replicate (text.count '\n') '\n' ++ left) = ends at ih ⊢
      cases ih with
      | cons hline hrest => exact .cons (hline.trans (List.suffix_cons _ _)) hrest

/-- Of every line its end is left, and all of it from the middle of a line on. -/
theorem Strips.lines {lineStart : Bool} {cs left : List Char} (h : Strips lineStart cs left) :
    List.Forall₂ (· <:+ ·) (lines left) (Script.lines cs) ∧
      (lineStart = false → (Script.lines left).head? = (Script.lines cs).head?) := by
  induction h with
  | done => exact ⟨List.forall₂_refl _, fun _ => rfl⟩
  | @declaration cs after left breaks found rest ih =>
    obtain ⟨text, tail, rfl, -, -, rfl⟩ := declaration_of_import? found
    exact ⟨forall₂_lines_breaks _ ih.1, nofun⟩
  | @keep lineStart d cs left none rest ih =>
    by_cases hd : d = '\n'
    · subst hd
      rw [lines_newline, lines_newline]
      exact ⟨.cons (List.suffix_refl _) ih.1, fun _ => rfl⟩
    · obtain ⟨hlines, hhead⟩ := ih
      have hhead := hhead (decide_eq_false hd)
      obtain ⟨line, lines, hleft⟩ := exists_lines left
      obtain ⟨line', lines', hcs⟩ := exists_lines cs
      rw [hleft, hcs] at hlines hhead
      obtain rfl : line = line' := Option.some.inj hhead
      rw [lines_cons hd, lines_cons hd, hleft, hcs]
      cases hlines with
      | cons _ hrest => exact ⟨.cons (List.suffix_refl _) hrest, fun _ => rfl⟩

end BrowserLab.Script
