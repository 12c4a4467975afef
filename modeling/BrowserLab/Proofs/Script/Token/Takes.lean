import Mathlib.Data.List.Infix
import Mathlib.Data.List.TakeWhile
import BrowserLab.Script.Token.Lexer

/-!
# What a step takes

Every step of the lexer takes a piece off the text in front of it and moves the place behind that
piece.  `Cursor.Takes` says this of two cursors.  There is one lemma for each step, which also tells
what the piece looks like.

* `Place.behind`: where a piece of text ends, counted from its beginning at once.
* `takes_skipTrivia`: between tokens there are blanks and comments only.
* `Within`: what stands behind an open quote and does not close it.
* `takes_tokenKind`: a token is taken as it is spelt, and a string or a template ends with the first
  quote that closes it.
-/

namespace BrowserLab.Script

/-! ### Places -/

/-- The place behind a piece of text.  Every line feed in it begins another line, and columns count
from there. -/
def Place.behind (p : Place) (text : List Char) : Place where
  line := p.line + text.count '\n'
  column :=
    if '\n' ∈ text then 1 + (text.reverse.takeWhile (· ≠ '\n')).length
    else p.column + text.length

namespace Place

theorem behind_nil (p : Place) : p.behind [] = p := rfl

theorem behind_singleton (p : Place) (d : Char) : p.behind [d] = p.past d := by
  unfold behind past
  by_cases hd : d = '\n'
  · simp [hd]
  · simp [hd, Ne.symm hd]

theorem behind_append (p : Place) (s t : List Char) :
    p.behind (s ++ t) = (p.behind s).behind t := by
  unfold behind
  congr 1
  · rw [List.count_append, Nat.add_assoc]
  · by_cases ht : '\n' ∈ t
    · have hcut : (t.reverse.takeWhile (· ≠ '\n')).length ≠ t.reverse.length := by
        intro h
        have hall := List.takeWhile_eq_self_iff.mp
          ((List.takeWhile_prefix _).eq_of_length h)
        have := hall '\n' (List.mem_reverse.mpr ht)
        simp at this
      rw [if_pos (List.mem_append_right _ ht), if_pos ht, List.reverse_append,
        List.takeWhile_append, if_neg hcut]
    · have hall : t.reverse.takeWhile (· ≠ '\n') = t.reverse := by
        refine List.takeWhile_eq_self_iff.mpr fun d hd => ?_
        rw [List.mem_reverse] at hd
        simpa using ne_of_mem_of_not_mem hd ht
      rw [if_neg ht]
      by_cases hs : '\n' ∈ s
      · rw [if_pos (List.mem_append_left _ hs), if_pos hs, List.reverse_append,
          List.takeWhile_append, hall, if_pos rfl]
        simp only [List.length_append, List.length_reverse]
        omega
      · rw [if_neg (by simp [hs, ht]), if_neg hs, List.length_append, Nat.add_assoc]

theorem pastAll_eq (p : Place) (text : List Char) : p.pastAll text = p.behind text := by
  induction text generalizing p with
  | nil => rfl
  | cons d rest ih =>
    show (p.past d).pastAll rest = p.behind ([d] ++ rest)
    rw [ih, behind_append, behind_singleton]

end Place

/-! ### Cursors -/

theorem Cursor.fst_span (c : Cursor) (p : Char → Bool) : (c.span p).1 = c.rest.takeWhile p := by
  rw [Cursor.span, List.span_eq_takeWhile_dropWhile]

theorem Cursor.rest_span (c : Cursor) (p : Char → Bool) :
    (c.span p).2.rest = c.rest.dropWhile p := by
  rw [Cursor.span, List.span_eq_takeWhile_dropWhile]

/-- Taking a piece off the text leads from one cursor to another. -/
structure Cursor.Takes (c : Cursor) (text : List Char) (c' : Cursor) : Prop where
  rest : c.rest = text ++ c'.rest
  place : c'.place = c.place.behind text

namespace Cursor.Takes

variable {c c' c'' : Cursor} {d e : Char} {rest s t : List Char}

theorem nothing (c : Cursor) : c.Takes [] c := ⟨rfl, rfl⟩

theorem append (h : c.Takes s c') (h' : c'.Takes t c'') : c.Takes (s ++ t) c'' :=
  ⟨by rw [h.rest, h'.rest, List.append_assoc], by rw [h'.place, h.place, Place.behind_append]⟩

theorem past (h : c.rest = d :: rest) : c.Takes [d] (c.past d rest) :=
  ⟨h, (Place.behind_singleton _ _).symm⟩

theorem cons (h : c.rest = d :: rest) (h' : (c.past d rest).Takes t c') : c.Takes (d :: t) c' :=
  (past h).append h'

theorem two (h : c.rest = d :: e :: rest) : c.Takes [d, e] ((c.past d []).past e rest) :=
  cons h ⟨rfl, (Place.behind_singleton _ _).symm⟩

theorem span (c : Cursor) (p : Char → Bool) : c.Takes (c.span p).1 (c.span p).2 := by
  refine ⟨?_, Place.pastAll_eq _ _⟩
  rw [fst_span, rest_span, List.takeWhile_append_dropWhile]

theorem drop (c : Cursor) (n : Nat) : c.Takes (c.rest.take n) (c.drop n) :=
  ⟨(List.take_append_drop n c.rest).symm, Place.pastAll_eq _ _⟩

end Cursor.Takes

/-- The piece that a cursor passes consists of characters of that kind. -/
theorem all_span {c : Cursor} {p : Char → Bool} : ∀ d ∈ (c.span p).1, p d = true := by
  rw [Cursor.fst_span]
  exact fun d hd => List.mem_takeWhile_imp hd

/-- Behind the piece that a cursor passes there is no other character of that kind. -/
theorem head_span {c : Cursor} {p : Char → Bool} : ∀ d ∈ (c.span p).2.rest.head?, p d = false := by
  intro d hd
  have hnot := List.head?_dropWhile_not p c.rest
  rw [← Cursor.rest_span, Option.mem_def.mp hd] at hnot
  simpa using hnot

/-! ### Between tokens -/

/-- Blanks and comments in front of a text.  A comment behind two slashes ends where the line or all
of the text does, and any other one with the first `*/`. -/
inductive Trivia (behind : List Char) : List Char → Prop
  | nothing : Trivia behind []
  | blank {d : Char} {cs : List Char} (blank : Text.isBlank d = true) (rest : Trivia behind cs) :
      Trivia behind (d :: cs)
  | line {body cs : List Char} (within : '\n' ∉ body) (ends : ∀ d ∈ (cs ++ behind).head?, d = '\n')
      (rest : Trivia behind cs) : Trivia behind ('/' :: '/' :: body ++ cs)
  | block {body cs : List Char} (within : ¬ ['*', '/'] <:+: body) (rest : Trivia behind cs) :
      Trivia behind ('/' :: '*' :: body ++ ['*', '/'] ++ cs)

namespace Scan

open Cursor

variable {c c' : Cursor} {newline newline' : Bool}

theorem takes_skipComment_go {place : Place} {cs : List Char}
    (h : skipComment.go newline place cs = .ok (newline', c')) :
    ∃ body, ¬ ['*', '/'] <:+: body ∧ (Cursor.mk cs place).Takes (body ++ ['*', '/']) c' ∧
      (newline' = true ↔ newline = true ∨ '\n' ∈ body) := by
  fun_induction skipComment.go newline place cs with
  | case1 => cases h
  | case2 newline place rest =>
    cases h
    exact ⟨[], by simp, .two rfl, by simp⟩
  | case3 newline place d rest hopen ih =>
    obtain ⟨body, hbody, htakes, hnewline⟩ := ih h
    refine ⟨d :: body, ?_, .cons rfl htakes, ?_⟩
    · rw [List.infix_cons_iff]
      rintro (⟨t, ht⟩ | hwithin)
      · obtain ⟨rfl, hbody'⟩ := List.cons.inj ht
        have hrest := htakes.rest
        rw [← hbody'] at hrest
        exact hopen _ rfl hrest
      · exact hbody hwithin
    · rw [hnewline, Bool.or_eq_true, decide_eq_true_eq, List.mem_cons, or_assoc, eq_comm (a := d)]

theorem takes_skipTrivia {fuel : Nat} (h : skipTrivia fuel newline c = .ok (newline', c')) :
    ∃ trivia, Trivia c'.rest trivia ∧ c.Takes trivia c' ∧
      (newline' = true ↔ newline = true ∨ '\n' ∈ trivia) := by
  induction fuel generalizing c newline with
  | zero =>
    cases h
    exact ⟨[], .nothing, .nothing _, by simp⟩
  | succ fuel ih =>
    rw [skipTrivia] at h
    split at h
    case h_1 rest hrest =>
      obtain ⟨trivia, htrivia, htakes, hnewline⟩ := ih h
      have hline := (Takes.span c (· ≠ '\n')).append htakes
      have hpiece : (c.span (· ≠ '\n')).1 = '/' :: '/' :: rest.takeWhile (· ≠ '\n') := by
        simp [Cursor.fst_span, hrest]
      have hbody : '\n' ∉ rest.takeWhile (· ≠ '\n') := fun hmem => by
        simpa using List.mem_takeWhile_imp hmem
      rw [hpiece] at hline
      refine ⟨_, .line hbody (fun d hd => ?_) htrivia, hline, ?_⟩
      · rw [← htakes.rest] at hd
        simpa using head_span d hd
      · rw [hnewline, List.mem_append]
        simp only [List.mem_cons, hbody]
        simp
    case h_2 rest hrest =>
      split at h
      · cases h
      case h_2 newline₁ c₁ hcomment =>
        obtain ⟨body, hbody, hcomment, hnewline₁⟩ := takes_skipComment_go hcomment
        obtain ⟨trivia, htrivia, htakes, hnewline⟩ := ih h
        refine ⟨_, .block hbody htrivia, ((Takes.two hrest).append hcomment).append htakes, ?_⟩
        rw [hnewline, hnewline₁]
        simp [or_assoc]
    case h_3 d rest hline hblock hrest =>
      split at h
      case isTrue hblank =>
        obtain ⟨trivia, htrivia, htakes, hnewline⟩ := ih h
        refine ⟨d :: trivia, .blank hblank htrivia, .cons hrest htakes, ?_⟩
        rw [hnewline, Bool.or_eq_true, decide_eq_true_eq, List.mem_cons, or_assoc, eq_comm (a := d)]
      case isFalse =>
        cases h
        exact ⟨[], .nothing, .nothing _, by simp⟩
    case h_4 hrest =>
      cases h
      exact ⟨[], .nothing, .nothing _, by simp⟩

/-! ### Numbers -/

/-- A character of a number. -/
def isNumeral (d : Char) : Bool := d.isAlphanum || d = '_' || d = '.' || d = '+' || d = '-'

theorem isNumeral_of_isDigit {d : Char} (h : d.isDigit = true) : isNumeral d = true := by
  simp [isNumeral, Char.isAlphanum, h]

theorem isNumeral_of_isHexDigit {d : Char} (h : isHexDigit d = true) : isNumeral d = true := by
  have hletter : (d.isUpper || d.isLower || d.isDigit) = true := by
    unfold isHexDigit at h
    simp only [Bool.or_eq_true, Bool.and_eq_true, decide_eq_true_eq] at h ⊢
    rcases h with (hdigit | ⟨hfirst, hlast⟩) | ⟨hfirst, hlast⟩
    · exact .inr hdigit
    · have hbound : d.val ≤ 'z'.val := UInt32.le_trans hlast (by decide)
      exact .inl (.inr (Bool.and_eq_true_iff.mpr ⟨decide_eq_true hfirst, decide_eq_true hbound⟩))
    · have hbound : d.val ≤ 'Z'.val := UInt32.le_trans hlast (by decide)
      exact .inl (.inl (decide_eq_true ⟨hfirst, hbound⟩))
  have halphanum : d.isAlphanum = true := hletter
  simp [isNumeral, halphanum]

theorem takes_hexadecimal {k : Token.Kind} (h : hexadecimal c = .ok (k, c')) :
    ∃ x ds, k = .number x ∧ c.Takes ds c' ∧ ∀ d ∈ ds, isNumeral d = true := by
  unfold hexadecimal at h
  have htakes := Takes.span c isHexDigit
  have hall := all_span (c := c) (p := isHexDigit)
  generalize c.span isHexDigit = r at h htakes hall
  obtain ⟨ds, c₁⟩ := r
  dsimp only at h htakes hall
  split at h
  · split at h
    · cases h
      exact ⟨_, ds, rfl, htakes, fun d hd => isNumeral_of_isHexDigit (hall d hd)⟩
    · cases h
  · cases h

theorem isNumeral_of_exponentMark? {cs : List Char} {n : Nat} (h : exponentMark? cs = some n) :
    ∀ d ∈ cs.take n, isNumeral d = true := by
  have hmark {e : Char} (he : (decide (e = 'e') || decide (e = 'E')) = true) :
      isNumeral e = true := by
    rcases Bool.or_eq_true _ _ ▸ he with he | he <;> rw [of_decide_eq_true he] <;> rfl
  unfold exponentMark? at h
  split at h
  case h_4 => cases h
  all_goals
    split at h
    case isFalse => cases h
    case isTrue hdigit =>
      cases h
      refine List.forall_mem_cons.mpr ⟨hmark (Bool.and_eq_true _ _ ▸ hdigit).1, ?_⟩
      simp [isNumeral]

/-- A number in base 10 is a piece of text, which decides whether it is one. -/
theorem decimal_eq (c : Cursor) :
    ∃ text c', c.Takes text c' ∧ (∀ d ∈ text, isNumeral d = true) ∧
      decimal c =
        match Number.unsigned? (text.filter (· ≠ '_')) with
        | some x => .ok (.number x, c')
        | none => c'.fail (.badNumber (String.ofList (text.filter (· ≠ '_')))) := by
  unfold decimal
  split
  rename_i whole c₁ hwhole
  split
  rename_i fraction c₂ hfraction
  split
  rename_i exponent c₃ hexponent
  have hwhole' : c.Takes whole c₁ ∧ ∀ d ∈ whole, isNumeral d = true := by
    have htakes := Takes.span c fun d => d.isDigit || d = '_'
    have hall := all_span (c := c) (p := fun d => d.isDigit || d = '_')
    rw [hwhole] at htakes hall
    refine ⟨htakes, fun d hd => ?_⟩
    rcases Bool.or_eq_true _ _ ▸ hall d hd with hdigit | hline
    · exact isNumeral_of_isDigit hdigit
    · rw [of_decide_eq_true hline]
      rfl
  have hfraction' : c₁.Takes fraction c₂ ∧ ∀ d ∈ fraction, isNumeral d = true := by
    split at hfraction
    · rename_i rest hrest
      split at hfraction
      · cases hfraction
        refine ⟨.cons hrest (Takes.span _ _), List.forall_mem_cons.mpr ⟨rfl, fun d hd => ?_⟩⟩
        exact isNumeral_of_isDigit (all_span d hd)
      · cases hfraction
        exact ⟨.nothing _, nofun⟩
    · cases hfraction
      exact ⟨.nothing _, nofun⟩
  have hexponent' : c₂.Takes exponent c₃ ∧ ∀ d ∈ exponent, isNumeral d = true := by
    split at hexponent
    · rename_i n hmark
      cases hexponent
      refine ⟨(Takes.drop _ _).append (Takes.span _ _), fun d hd => ?_⟩
      rcases List.mem_append.mp hd with hd | hd
      · exact isNumeral_of_exponentMark? hmark d hd
      · exact isNumeral_of_isDigit (all_span d hd)
    · cases hexponent
      exact ⟨.nothing _, nofun⟩
  refine ⟨whole ++ fraction ++ exponent, c₃,
    (hwhole'.1.append hfraction'.1).append hexponent'.1, ?_, rfl⟩
  intro d hd
  rcases List.mem_append.mp hd with hd | hd
  · rcases List.mem_append.mp hd with hd | hd
    · exact hwhole'.2 d hd
    · exact hfraction'.2 d hd
  · exact hexponent'.2 d hd

theorem takes_decimal {k : Token.Kind} (h : decimal c = .ok (k, c')) :
    ∃ x text, k = .number x ∧ c.Takes text c' ∧ text ≠ [] ∧ ∀ d ∈ text, isNumeral d = true := by
  obtain ⟨text, c₁, htakes, hall, hdecimal⟩ := decimal_eq c
  rw [hdecimal] at h
  split at h
  · rename_i x hx
    cases h
    refine ⟨x, text, rfl, htakes, ?_, hall⟩
    rintro rfl
    cases hx
  · cases h

theorem takes_number {k : Token.Kind} (h : number c = .ok (k, c')) :
    ∃ x text, k = .number x ∧ c.Takes text c' ∧ text ≠ [] ∧ ∀ d ∈ text, isNumeral d = true := by
  unfold number at h
  split at h
  case h_3 => exact takes_decimal h
  all_goals
    rename_i rest hrest
    obtain ⟨x, ds, hk, htakes, hall⟩ := takes_hexadecimal h
    have hmark := Takes.drop c 2
    rw [hrest, List.take_succ_cons, List.take_succ_cons, List.take_zero] at hmark
    refine ⟨x, _, hk, hmark.append htakes, by simp, ?_⟩
    exact List.forall_mem_cons.mpr ⟨rfl, List.forall_mem_cons.mpr ⟨rfl, hall⟩⟩

/-! ### Strings -/

/-- A character that a string or a template can begin with. -/
def isQuoteMark (d : Char) : Bool := d = '\'' || d = '"' || d = '\x60'

/-- What stands behind an open quote and does not close it: the quote is in it only as the
character that a backslash escapes. -/
inductive Within (quote : Char) : List Char → Prop
  | nothing : Within quote []
  | escaped {d : Char} {cs : List Char} (rest : Within quote cs) : Within quote ('\\' :: d :: cs)
  | plain {d : Char} {cs : List Char} (closes : d ≠ quote) (escapes : d ≠ '\\')
      (rest : Within quote cs) : Within quote (d :: cs)

/-- Characters that neither close a quote nor escape it go before any text. -/
theorem Within.after {quote : Char} {s cs : List Char} (hs : ∀ d ∈ s, d ≠ quote ∧ d ≠ '\\')
    (h : Within quote cs) : Within quote (s ++ cs) := by
  induction s with
  | nil => exact h
  | cons d s ih =>
    obtain ⟨⟨hcloses, hescapes⟩, hs⟩ := List.forall_mem_cons.mp hs
    exact .plain hcloses hescapes (ih hs)

/-- A character of a unicode escape: a digit in base 16, a `+`, or a brace. -/
def isEscapeDigit (d : Char) : Bool := isHexDigit d || ['+', '\x7b', '\x7d'].contains d

theorem ne_of_isEscapeDigit {d e : Char} (h : isEscapeDigit d = true)
    (he : isEscapeDigit e = false) : d ≠ e := by
  rintro rfl
  rw [h] at he
  cases he

theorem isEscapeDigit_of_unicode? {code : List Char} {u : Char} (h : unicode? code = some u) :
    ∀ d ∈ code, isEscapeDigit d = true := by
  have hdigits {ds : List Char} {n : Nat} (hn : hexNumber? ds = some n) :
      ∀ d ∈ ds, isEscapeDigit d = true := by
    unfold hexNumber? at hn
    split at hn
    · cases hn
    · rename_i hall
      simp only [Bool.or_eq_true, Bool.not_eq_true', not_or, Bool.not_eq_false] at hall
      intro d hd
      rw [isEscapeDigit, List.all_eq_true.mp hall.2 d hd, Bool.true_or]
  unfold unicode? at h
  split at h
  · dsimp only at h
    split at h
    · rename_i hn
      exact List.forall_mem_cons.mpr ⟨by decide, hdigits hn⟩
    · cases h
  · dsimp only at h
    split at h
    · rename_i hn
      exact hdigits hn
    · cases h

/-- The digits of a unicode escape are a piece of text, of escape digits if they are a character. -/
theorem takes_unicodeDigits (c : Cursor) :
    ∃ text, c.Takes text (unicodeDigits c).2 ∧
      ∀ u, unicode? (unicodeDigits c).1 = some u → ∀ d ∈ text, isEscapeDigit d = true := by
  unfold unicodeDigits
  split
  · rename_i rest hrest
    set after := (c.past '\x7b' rest).span (· ≠ '\x7d') with hafter
    have hclose : ∀ d ∈ after.2.rest.take 1, isEscapeDigit d = true := by
      intro d hd
      rw [List.take_one, Option.mem_toList] at hd
      obtain rfl : d = '\x7d' := by simpa using head_span d hd
      decide
    refine ⟨_, (Takes.cons hrest (Takes.span _ _)).append (Takes.drop _ 1), fun u hu => ?_⟩
    have hall := isEscapeDigit_of_unicode? hu
    refine List.forall_mem_append.mpr ⟨List.forall_mem_cons.mpr ⟨by decide, hall⟩, hclose⟩
  · exact ⟨_, .drop c 4, fun u hu => isEscapeDigit_of_unicode? hu⟩

/-- An escape takes a character of any kind, and behind it no quote and no backslash. -/
theorem takes_escape {d : Char} (h : escape c = .ok (d, c')) :
    ∃ e text, c.Takes (e :: text) c' ∧ ∀ d ∈ text, isEscapeDigit d = true := by
  unfold escape at h
  split at h
  · cases h
  case h_2 e rest hrest =>
    dsimp only at h
    iterate 7
      split at h
      · cases h
        exact ⟨e, [], .past hrest, List.forall_mem_nil _⟩
    split at h
    · split at h
      · rename_i u hu
        cases h
        obtain ⟨text, htext, hall⟩ := takes_unicodeDigits (c.past e rest)
        exact ⟨e, text, .cons hrest htext, hall _ hu⟩
      · cases h
    · cases h
      exact ⟨d, [], .past hrest, List.forall_mem_nil _⟩

/-- An escape behind its backslash, in front of a text within a quote. -/
theorem Within.escape {quote e : Char} {text cs : List Char} (hquote : isQuoteMark quote = true)
    (htext : ∀ d ∈ text, isEscapeDigit d = true) (h : Within quote cs) :
    Within quote ('\\' :: e :: text ++ cs) := by
  have hquote : isEscapeDigit quote = false := by
    simp only [isQuoteMark, Bool.or_eq_true, decide_eq_true_eq] at hquote
    rcases hquote with (rfl | rfl) | rfl <;> decide
  refine .escaped (.after (fun d hd => ?_) h)
  exact ⟨ne_of_isEscapeDigit (htext d hd) hquote, ne_of_isEscapeDigit (htext d hd) (by decide)⟩

theorem takes_stringBody {quote : Char} (hquote : isQuoteMark quote = true) {fuel : Nat}
    {done : List Char} {k : Token.Kind} (h : stringBody quote fuel done c = .ok (k, c')) :
    ∃ s body, k = .string s ∧ c.Takes (body ++ [quote]) c' ∧ Within quote body := by
  induction fuel generalizing done c with
  | zero => cases h
  | succ fuel ih =>
    rw [stringBody] at h
    split at h
    · cases h
    · cases h
    case h_3 rest hrest =>
      obtain ⟨s, body, hk, htakes, hbody⟩ := ih h
      exact ⟨s, '\\' :: '\n' :: body, hk, (Takes.two hrest).append htakes, .escaped hbody⟩
    case h_4 rest _ hrest =>
      split at h
      · cases h
      case h_2 d c₁ hescape =>
        obtain ⟨e, text, hescape, htext⟩ := takes_escape hescape
        obtain ⟨s, body, hk, htakes, hbody⟩ := ih h
        have hall := (Takes.cons hrest hescape).append htakes
        rw [← List.append_assoc] at hall
        exact ⟨s, _, hk, hall, .escape hquote htext hbody⟩
    case h_5 d rest _ _ hescapes hrest =>
      split at h
      case isTrue hcloses =>
        cases h
        exact ⟨_, [], rfl, hcloses ▸ .past hrest, .nothing⟩
      case isFalse hcloses =>
        obtain ⟨s, body, hk, htakes, hbody⟩ := ih h
        refine ⟨s, d :: body, hk, .cons hrest htakes, .plain hcloses ?_ hbody⟩
        rintro rfl
        exact hescapes rfl

/-! ### Templates -/

/-- The source of a hole is what has been read of it and a text before a brace. -/
def Closes (done : List Char) (source : String) (c c' : Cursor) : Prop :=
  ∃ text, source.toList = done.reverse ++ text ∧ c.Takes (text ++ ['\x7d']) c'

theorem Closes.cons {d : Char} {done rest : List Char} {source : String} {place : Place}
    (h : Closes (d :: done) source ⟨rest, place.past d⟩ c') :
    Closes done source ⟨d :: rest, place⟩ c' := by
  obtain ⟨text, hsource, htakes⟩ := h
  refine ⟨d :: text, ?_, .cons rfl htakes⟩
  rw [hsource, List.reverse_cons, List.append_assoc]
  rfl

theorem closes_holeSource {depth : Nat} {quote : Option Char} {done cs : List Char} {place : Place}
    {source : String} (h : holeSource depth quote done place cs = .ok (source, c')) :
    Closes done source ⟨cs, place⟩ c' := by
  fun_induction holeSource depth quote done place cs with
  | case1 | case2 => cases h
  | case3 _ _ _ _ _ _ ih => exact (ih h).cons.cons
  | case7 done place rest =>
    cases h
    exact ⟨[], by simp, .past rfl⟩
  | case4 _ _ _ _ _ _ _ ih | case5 _ _ _ _ _ _ ih | case6 _ _ _ _ _ ih | case8 _ _ _ _ _ _ ih
  | case9 _ _ _ _ _ _ _ _ ih => exact (ih h).cons

/-- In a text at a place, a source stands between `$` with a brace and the brace that closes it, and
begins at the other place. -/
def HoleIn (place : Place) (text : List Char) (source : String) (hole : Place) : Prop :=
  ∃ before after, text = before ++ ['$', '\x7b'] ++ source.toList ++ ['\x7d'] ++ after ∧
    hole = place.behind (before ++ ['$', '\x7b'])

/-- There is more text before it. -/
theorem HoleIn.behind {hole : Place} {s text : List Char} {source : String} (hs : c.Takes s c')
    (h : HoleIn c'.place text source hole) : HoleIn c.place (s ++ text) source hole := by
  obtain ⟨before, after, rfl, rfl⟩ := h
  refine ⟨s ++ before, after, by simp only [List.append_assoc], ?_⟩
  rw [hs.place, List.append_assoc, Place.behind_append _ s]

/-- There is more text after it. -/
theorem HoleIn.before {place hole : Place} {text : List Char} {source : String}
    (h : HoleIn place text source hole) (s : List Char) : HoleIn place (text ++ s) source hole := by
  obtain ⟨before, after, rfl, rfl⟩ := h
  exact ⟨before, after ++ s, by simp only [List.append_assoc], rfl⟩

theorem hole_mem_textChunk (text : List Char) {done : List Chunk} {source : String} {hole : Place} :
    .hole source hole ∈ textChunk text ++ done ↔ .hole source hole ∈ done := by
  unfold textChunk
  split <;> simp

/-- A text without the quote, and any character but the quote, go before any text within the quote:
if the last character of the text is a backslash that escapes, then what it escapes is the one
behind. -/
theorem Within.afterHole {quote d : Char} {s cs : List Char} (hs : quote ∉ s) (hd : d ≠ quote)
    (hescapes : d ≠ '\\') (h : Within quote cs) : Within quote (s ++ d :: cs) := by
  induction hn : s.length using Nat.strong_induction_on generalizing s with
  | _ n ih =>
    subst hn
    match s with
    | [] => exact .plain hd hescapes h
    | e :: s =>
      rw [List.mem_cons, not_or] at hs
      by_cases he : e = '\\'
      · subst he
        match s with
        | [] => exact .escaped h
        | e' :: s =>
          rw [List.mem_cons, not_or] at hs
          exact .escaped (ih _ (by simp only [List.length_cons]; omega) hs.2.2 rfl)
      · exact .plain (Ne.symm hs.1) he (ih _ (by simp) hs.2 rfl)

/-- The source of a chunk that is a hole. -/
def code : Chunk → List Char
  | .text _ => []
  | .hole source _ => source.toList

/-- No hole among the chunks holds the quote of a template. -/
def Shallow (chunks : List Chunk) : Prop := ∀ chunk ∈ chunks, '\x60' ∉ code chunk

instance (chunks : List Chunk) : Decidable (Shallow chunks) :=
  inferInstanceAs (Decidable (∀ chunk ∈ chunks, '\x60' ∉ code chunk))

theorem takes_templateBody {fuel : Nat} {done : List Chunk} {text : List Char} {k : Token.Kind}
    (h : templateBody fuel done text c = .ok (k, c')) :
    ∃ chunks body, k = .template chunks ∧ c.Takes (body ++ ['\x60']) c' ∧
      (∀ source hole, .hole source hole ∈ chunks →
        .hole source hole ∈ done ∨ HoleIn c.place body source hole) ∧
      (∀ source hole, .hole source hole ∈ done → .hole source hole ∈ chunks) ∧
      (Shallow chunks → Within '\x60' body) := by
  induction fuel generalizing done text c with
  | zero => cases h
  | succ fuel ih =>
    rw [templateBody] at h
    split at h
    · cases h
    case h_2 rest hrest =>
      cases h
      have hchunks {source : String} {hole : Place} :
          .hole source hole ∈ (if (textChunk text ++ done).reverse.isEmpty then [.text ""]
            else (textChunk text ++ done).reverse) ↔ .hole source hole ∈ done := by
        refine Iff.trans ?_ (hole_mem_textChunk text)
        generalize textChunk text ++ done = chunks
        cases chunks <;> simp [or_comm]
      exact ⟨_, [], rfl, .past hrest, fun source hole hmem => .inl (hchunks.mp hmem),
        fun source hole => hchunks.mpr, fun _ => .nothing⟩
    case h_3 rest hrest =>
      split at h
      · cases h
      case h_2 d c₁ hescape =>
        obtain ⟨e, text, hescape, hdigits⟩ := takes_escape hescape
        obtain ⟨chunks, body, hk, htakes, hholes, hkept, hbody⟩ := ih h
        have htext := Takes.cons hrest hescape
        have hall := htext.append htakes
        rw [← List.append_assoc] at hall
        exact ⟨chunks, _, hk, hall, fun source hole hmem =>
          (hholes source hole hmem).imp_right (HoleIn.behind htext), hkept,
          fun hshallow => .escape rfl hdigits (hbody hshallow)⟩
    case h_4 rest hrest =>
      dsimp only at h
      split at h
      · cases h
      case h_2 source c₁ hsource =>
        obtain ⟨inner, hinner, hclose⟩ := closes_holeSource hsource
        obtain ⟨chunks, body, hk, htakes, hholes, hkept, hbody⟩ := ih h
        have hmark : c.Takes ['$', '\x7b'] _ := Takes.two hrest
        have htext := hmark.append hclose
        have hall := htext.append htakes
        rw [← List.append_assoc] at hall
        refine ⟨chunks, _, hk, hall, fun source' hole hmem => ?_, fun source' hole hmem => ?_,
          fun hshallow => ?_⟩
        · rcases hholes source' hole hmem with hmem | hhole
          · rcases List.mem_cons.mp hmem with heq | hmem
            · cases heq
              refine .inr ⟨[], body, ?_, hmark.place⟩
              rw [hinner]
              simp
            · exact .inl ((hole_mem_textChunk _).mp hmem)
          · exact .inr (hhole.behind htext)
        · exact hkept _ _ (List.mem_cons_of_mem _ ((hole_mem_textChunk _).mpr hmem))
        · have hfree : '\x60' ∉ inner := by
            have hfree := hshallow _ (hkept _ _ List.mem_cons_self)
            rwa [code, hinner] at hfree
          have hhole := Within.afterHole hfree (by decide : '\x7d' ≠ '\x60') (by decide)
            (hbody hshallow)
          have hmarked := Within.after (s := ['$', '\x7b']) (by simp) hhole
          simpa using hmarked
    case h_5 d rest hcloses hescapes _ hrest =>
      obtain ⟨chunks, body, hk, htakes, hholes, hkept, hbody⟩ := ih h
      refine ⟨chunks, d :: body, hk, .cons hrest htakes, fun source hole hmem =>
        (hholes source hole hmem).imp_right (HoleIn.behind (.past hrest)), hkept,
        fun hshallow => .plain ?_ ?_ (hbody hshallow)⟩
      · rintro rfl
        exact hcloses rfl
      · rintro rfl
        exact hescapes rfl

/-! ### Tokens -/

/-- How a token that begins at a place is spelt.  Names, key words and marks are spelt as they are;
strings and templates stand between quotes, and the holes of a template stand in it. -/
inductive Spelt (place : Place) : Token.Kind → List Char → Prop
  | number {x : Float} {text : List Char} (nonempty : text ≠ [])
      (numerals : ∀ d ∈ text, isNumeral d = true) : Spelt place (.number x) text
  | string {s : String} {quote : Char} {body : List Char} (quoted : quote = '"' ∨ quote = '\'') :
      Spelt place (.string s) (quote :: body ++ [quote])
  | template {chunks : List Chunk} {body : List Char}
      (holes : ∀ source hole, .hole source hole ∈ chunks →
        HoleIn place ('\x60' :: body ++ ['\x60']) source hole) :
      Spelt place (.template chunks) ('\x60' :: body ++ ['\x60'])
  | word {w : List Char} (nonempty : w ≠ []) (letters : ∀ d ∈ w, isWordPart d = true) :
      Spelt place (.word (String.ofList w)) w
  | punct {mark : List Char} (known : mark ∈ punctuators) :
      Spelt place (.punct (String.ofList mark)) mark

namespace Spelt

variable {place : Place} {k : Token.Kind} {text : List Char}

theorem ne_eof (h : Spelt place k text) : k ≠ .eof := by
  cases h <;> exact Token.Kind.noConfusion

theorem ne_nil (h : Spelt place k text) : text ≠ [] := by
  cases h with
  | number nonempty _ => exact nonempty
  | word nonempty _ => exact nonempty
  | punct known =>
    rintro rfl
    exact absurd known (by decide)
  | _ => exact List.cons_ne_nil _ _

end Spelt

theorem takes_punctuator? {mark : List Char} (h : punctuator? c.rest = some mark) :
    mark ∈ punctuators ∧ c.Takes mark (c.drop mark.length) := by
  have hfits := List.find?_some h
  have hprefix : mark <+: c.rest := List.isPrefixOf_iff_prefix.mp (Bool.and_eq_true _ _ ▸ hfits).1
  have htakes := Takes.drop c mark.length
  rw [← List.prefix_iff_eq_take.mp hprefix] at htakes
  exact ⟨List.mem_of_find?_eq_some h, htakes⟩

/-- A string ends with the first quote that closes it, and so does a template without quotes in its
holes. -/
def Shut : Token.Kind → List Char → Prop
  | .string _, text =>
    ∃ quote body, isQuoteMark quote = true ∧ text = quote :: body ++ [quote] ∧ Within quote body
  | .template chunks, text =>
    Shallow chunks → ∃ body, text = '\x60' :: body ++ ['\x60'] ∧ Within '\x60' body
  | _, _ => True

/-- A token is taken as it is spelt, and the end only if there is no text left. -/
theorem takes_tokenKind {fuel : Nat} {k : Token.Kind} (h : tokenKind fuel c = .ok (k, c')) :
    (k = .eof ∧ c.rest = []) ∨ ∃ text, Spelt c.place k text ∧ c.Takes text c' ∧ Shut k text := by
  unfold tokenKind at h
  split at h
  case h_1 hrest =>
    cases h
    exact .inl ⟨rfl, hrest⟩
  case h_2 d rest hrest =>
    refine .inr ?_
    extract_lets pointAndDigit at h
    split at h
    · obtain ⟨x, text, rfl, htakes, hnonempty, hall⟩ := takes_number h
      exact ⟨text, .number hnonempty hall, htakes, trivial⟩
    split at h
    · rename_i hquote
      have hquoted : d = '"' ∨ d = '\'' := by simpa using hquote
      have hmark : isQuoteMark d = true := by rcases hquoted with rfl | rfl <;> rfl
      obtain ⟨s, body, rfl, htakes, hbody⟩ := takes_stringBody hmark h
      exact ⟨_, .string hquoted, .cons hrest htakes, d, body, hmark, rfl, hbody⟩
    split at h
    · rename_i hquote
      subst hquote
      obtain ⟨chunks, body, rfl, htakes, hholes, -, hbody⟩ := takes_templateBody h
      refine ⟨_, .template fun source hole hmem => ?_, .cons hrest htakes,
        fun hshallow => ⟨body, rfl, hbody hshallow⟩⟩
      have hhole := (hholes source hole hmem).resolve_left List.not_mem_nil
      exact (HoleIn.behind (.past hrest) hhole).before ['\x60']
    split at h
    · rename_i hword
      have hnonempty : (c.span isWordPart).1 ≠ [] := by
        rw [Cursor.fst_span, hrest, List.takeWhile_cons_of_pos (by simp [isWordPart, hword])]
        exact List.cons_ne_nil _ _
      cases h
      exact ⟨_, .word hnonempty all_span, .span c isWordPart, trivial⟩
    · split at h
      · rename_i mark hmark
        cases h
        obtain ⟨hknown, htakes⟩ := takes_punctuator? hmark
        exact ⟨mark, .punct hknown, htakes, trivial⟩
      · cases h

end Scan

end BrowserLab.Script
