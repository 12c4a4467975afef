import BrowserLab.Proofs.Script.Token.Takes

/-!
# Where the lexer stops

A text that cannot be cut into tokens has an error at a place in it, or directly behind its last
character.  There is one lemma for each step of the lexer, as there is for what a step takes.

* `Cursor.Meets`: the place is behind a piece that the text in front of the cursor begins with.
* `meets_tokens`: an error stands at a place that the lexer meets.
-/

namespace BrowserLab.Script

/-- The place stands in the text in front of the cursor, or at its end. -/
def Cursor.Meets (c : Cursor) (place : Place) : Prop :=
  ∃ text rest, c.rest = text ++ rest ∧ place = c.place.behind text

namespace Cursor

variable {c c' : Cursor} {text : List Char} {place : Place} {α : Type}

theorem meets_here (c : Cursor) : c.Meets c.place := ⟨[], c.rest, rfl, (Place.behind_nil _).symm⟩

theorem Takes.meets (h : c.Takes text c') (h' : c'.Meets place) : c.Meets place := by
  obtain ⟨piece, rest, hrest, hplace⟩ := h'
  refine ⟨text ++ piece, rest, ?_, ?_⟩
  · rw [h.rest, hrest, List.append_assoc]
  · rw [hplace, h.place, Place.behind_append]

/-- An error where the cursor stands is met from where it came. -/
theorem Takes.meets_fail (h : c.Takes text c') {cause : SyntaxCause} {e : SyntaxError}
    (he : (c'.fail cause : Except SyntaxError α) = .error e) : c.Meets e.place := by
  cases he
  exact h.meets (meets_here c')

theorem meets_fail {cause : SyntaxCause} {e : SyntaxError}
    (he : (c.fail cause : Except SyntaxError α) = .error e) : c.Meets e.place :=
  (Takes.nothing c).meets_fail he

end Cursor

namespace Scan

open Cursor

variable {c : Cursor} {e : SyntaxError}

theorem meets_skipComment_go {newline : Bool} {place : Place} {cs : List Char}
    (h : skipComment.go newline place cs = .error e) : (Cursor.mk cs place).Meets e.place := by
  fun_induction skipComment.go newline place cs with
  | case1 newline place =>
    cases h
    exact meets_here _
  | case2 => cases h
  | case3 newline place d rest _ ih => exact (Takes.past rfl).meets (ih h)

theorem meets_skipTrivia {fuel : Nat} {newline : Bool} (h : skipTrivia fuel newline c = .error e) :
    c.Meets e.place := by
  induction fuel generalizing c newline with
  | zero => cases h
  | succ fuel ih =>
    rw [skipTrivia] at h
    split at h
    case h_1 => exact (Takes.span c _).meets (ih h)
    case h_2 rest hrest =>
      split at h
      case h_1 e' hcomment =>
        cases h
        exact (Takes.two hrest).meets (meets_skipComment_go hcomment)
      case h_2 newline₁ c₁ hcomment =>
        obtain ⟨body, -, htakes, -⟩ := takes_skipComment_go hcomment
        exact ((Takes.two hrest).append htakes).meets (ih h)
    case h_3 d rest _ _ hrest =>
      split at h
      case isTrue => exact (Takes.past hrest).meets (ih h)
      case isFalse => cases h
    case h_4 => cases h

theorem meets_hexadecimal (h : hexadecimal c = .error e) : c.Meets e.place := by
  unfold hexadecimal at h
  have htakes := Takes.span c isHexDigit
  generalize c.span isHexDigit = r at h htakes
  obtain ⟨ds, c₁⟩ := r
  dsimp only at h htakes
  split at h
  · split at h
    · cases h
    · exact htakes.meets_fail h
  · exact htakes.meets_fail h

theorem meets_decimal (h : decimal c = .error e) : c.Meets e.place := by
  obtain ⟨text, c₁, htakes, -, hdecimal⟩ := decimal_eq c
  rw [hdecimal] at h
  split at h
  · cases h
  · exact htakes.meets_fail h

theorem meets_number (h : number c = .error e) : c.Meets e.place := by
  unfold number at h
  split at h
  case h_3 => exact meets_decimal h
  all_goals exact (Takes.drop c 2).meets (meets_hexadecimal h)

theorem meets_escape (h : escape c = .error e) : c.Meets e.place := by
  unfold escape at h
  split at h
  · exact meets_fail h
  case h_2 d rest hrest =>
    dsimp only at h
    iterate 7
      split at h
      · cases h
    split at h
    · obtain ⟨text, htext, -⟩ := takes_unicodeDigits (c.past d rest)
      split at h
      · cases h
      · exact (Takes.cons hrest htext).meets_fail h
    · cases h

theorem meets_stringBody {quote : Char} {fuel : Nat} {done : List Char}
    (h : stringBody quote fuel done c = .error e) : c.Meets e.place := by
  induction fuel generalizing done c with
  | zero => exact meets_fail h
  | succ fuel ih =>
    rw [stringBody] at h
    split at h
    case h_1 => exact meets_fail h
    case h_2 rest hrest => exact (Takes.past hrest).meets_fail h
    case h_3 rest hrest => exact (Takes.two hrest).meets (ih h)
    case h_4 rest _ hrest =>
      split at h
      case h_1 e' hescape =>
        cases h
        exact (Takes.past hrest).meets (meets_escape hescape)
      case h_2 d c₁ hescape =>
        obtain ⟨_, _, htakes, -⟩ := takes_escape hescape
        exact (Takes.cons hrest htakes).meets (ih h)
    case h_5 d rest _ _ _ hrest =>
      split at h
      case isTrue => cases h
      case isFalse => exact (Takes.past hrest).meets (ih h)

theorem meets_holeSource {depth : Nat} {quote : Option Char} {done cs : List Char} {place : Place}
    (h : holeSource depth quote done place cs = .error e) :
    (Cursor.mk cs place).Meets e.place := by
  have hpast {d : Char} {rest : List Char} {place : Place}
      (h' : (Cursor.mk rest (place.past d)).Meets e.place) :
      (Cursor.mk (d :: rest) place).Meets e.place := (Takes.past rfl).meets h'
  fun_induction holeSource depth quote done place cs with
  | case1 =>
    cases h
    exact meets_here _
  | case2 =>
    cases h
    exact hpast (meets_here _)
  | case3 _ _ _ _ _ _ ih => exact hpast (hpast (ih h))
  | case7 => cases h
  | case4 _ _ _ _ _ _ _ ih | case5 _ _ _ _ _ _ ih | case6 _ _ _ _ _ ih | case8 _ _ _ _ _ _ ih
  | case9 _ _ _ _ _ _ _ _ ih => exact hpast (ih h)

theorem meets_templateBody {fuel : Nat} {done : List Chunk} {text : List Char}
    (h : templateBody fuel done text c = .error e) : c.Meets e.place := by
  induction fuel generalizing done text c with
  | zero => exact meets_fail h
  | succ fuel ih =>
    rw [templateBody] at h
    split at h
    case h_1 => exact meets_fail h
    case h_2 => cases h
    case h_3 rest hrest =>
      split at h
      case h_1 e' hescape =>
        cases h
        exact (Takes.past hrest).meets (meets_escape hescape)
      case h_2 d c₁ hescape =>
        obtain ⟨_, _, htakes, -⟩ := takes_escape hescape
        exact (Takes.cons hrest htakes).meets (ih h)
    case h_4 rest hrest =>
      dsimp only at h
      split at h
      case h_1 e' hsource =>
        cases h
        exact (Takes.two hrest).meets (meets_holeSource hsource)
      case h_2 source c₁ hsource =>
        obtain ⟨_, -, hclose⟩ := closes_holeSource hsource
        exact ((Takes.two hrest).append hclose).meets (ih h)
    case h_5 d rest _ _ _ hrest => exact (Takes.past hrest).meets (ih h)

theorem meets_tokenKind {fuel : Nat} (h : tokenKind fuel c = .error e) : c.Meets e.place := by
  unfold tokenKind at h
  split at h
  case h_1 => cases h
  case h_2 d rest hrest =>
    extract_lets pointAndDigit at h
    split at h
    · exact meets_number h
    split at h
    · exact (Takes.past hrest).meets (meets_stringBody h)
    split at h
    · exact (Takes.past hrest).meets (meets_templateBody h)
    split at h
    · cases h
    · split at h
      · cases h
      · exact meets_fail h

theorem meets_tokens {fuel : Nat} {done : List Token} (h : tokens fuel done c = .error e) :
    c.Meets e.place := by
  induction fuel generalizing done c with
  | zero => exact meets_fail h
  | succ fuel ih =>
    rw [tokens] at h
    split at h
    case h_1 e' htrivia =>
      cases h
      exact meets_skipTrivia htrivia
    case h_2 newline c₁ htrivia =>
      obtain ⟨trivia, -, hskips, -⟩ := takes_skipTrivia htrivia
      split at h
      case h_1 e' htoken =>
        cases h
        exact hskips.meets (meets_tokenKind htoken)
      case h_2 => cases h
      case h_3 kind c₂ hkind htoken =>
        obtain ⟨rfl, -⟩ | ⟨text, -, htakes, -⟩ := takes_tokenKind htoken
        · exact (hkind rfl).elim
        · exact (hskips.append htakes).meets (ih h)

end Scan

end BrowserLab.Script
