import BrowserLab.Proofs.Script.Token.Cover

/-!
# The lexer comes to an end

Each round of the lexer takes a character at least, so fuel beyond the length of the text changes
nothing, and no text fails for want of it.  What the tokens give to read, with the sources of the
holes, is no more than the text that they were cut from.

* `tokens_fuel`: all fuels that exceed the length of the text are alike.
* `Ended`: a stream whose last token, and no other, is the end.
* `weight_tokenizeAt`: how much there is to read in the tokens of a text.
-/

namespace BrowserLab.Script

open Cursor

theorem Cursor.Takes.length {c c' : Cursor} {text : List Char} (h : c.Takes text c') :
    c.rest.length = text.length + c'.rest.length := by
  rw [h.rest, List.length_append]

namespace Scan

variable {α : Type} {n k : Nat} {c : Cursor} {newline : Bool}

/-! ### Fuel -/

theorem skipTrivia_fuel (hn : c.rest.length ≤ n) (hk : c.rest.length ≤ k) :
    skipTrivia n newline c = skipTrivia k newline c := by
  induction n generalizing c newline k with
  | zero =>
    have hrest : c.rest = [] := List.length_eq_zero_iff.mp (Nat.le_zero.mp hn)
    cases k with
    | zero => rfl
    | succ k => simp only [skipTrivia, hrest]
  | succ n ih =>
    cases k with
    | zero =>
      have hrest : c.rest = [] := List.length_eq_zero_iff.mp (Nat.le_zero.mp hk)
      simp only [skipTrivia, hrest]
    | succ k =>
      rw [skipTrivia, skipTrivia]
      split
      case h_1 rest hrest =>
        have hlength := (Takes.span c (· ≠ '\n')).length
        have hpiece : 0 < (c.span (· ≠ '\n')).1.length := by simp [Cursor.fst_span, hrest]
        exact ih (by omega) (by omega)
      case h_2 rest hrest =>
        split
        case h_1 => rfl
        case h_2 newline₁ c₁ hcomment =>
          obtain ⟨body, -, hcomment, -⟩ := takes_skipComment_go hcomment
          have hlength := ((Takes.two hrest).append hcomment).length
          simp only [List.length_append, List.length_cons] at hlength
          exact ih (by omega) (by omega)
      case h_3 d rest _ _ hrest =>
        have hlength := (Takes.past hrest).length
        rw [List.length_singleton] at hlength
        split
        · exact ih (by omega) (by omega)
        · rfl
      case h_4 => rfl

theorem stringBody_fuel {quote : Char} {done : List Char} (hn : c.rest.length < n)
    (hk : c.rest.length < k) : stringBody quote n done c = stringBody quote k done c := by
  induction n generalizing c done k with
  | zero => omega
  | succ n ih =>
    obtain ⟨k, rfl⟩ : ∃ j, k = j + 1 := ⟨k - 1, by omega⟩
    rw [stringBody, stringBody]
    split
    case h_1 | h_2 => rfl
    case h_3 rest hrest =>
      have hlength := (Takes.two hrest).length
      exact ih (by simp_all; omega) (by simp_all; omega)
    case h_4 rest _ hrest =>
      split
      case h_1 => rfl
      case h_2 d c₁ hescape =>
        obtain ⟨e, text, htakes, -⟩ := takes_escape hescape
        have hlength := (Takes.cons hrest htakes).length
        rw [List.length_cons] at hlength
        exact ih (by omega) (by omega)
    case h_5 d rest _ _ _ hrest =>
      have hlength := (Takes.past hrest).length
      rw [List.length_singleton] at hlength
      split
      · rfl
      · exact ih (by omega) (by omega)

theorem templateBody_fuel {done : List Chunk} {text : List Char} (hn : c.rest.length < n)
    (hk : c.rest.length < k) : templateBody n done text c = templateBody k done text c := by
  induction n generalizing c done text k with
  | zero => omega
  | succ n ih =>
    obtain ⟨k, rfl⟩ : ∃ j, k = j + 1 := ⟨k - 1, by omega⟩
    rw [templateBody, templateBody]
    split
    case h_1 | h_2 => rfl
    case h_3 rest hrest =>
      split
      case h_1 => rfl
      case h_2 d c₁ hescape =>
        obtain ⟨e, text, htakes, -⟩ := takes_escape hescape
        have hlength := (Takes.cons hrest htakes).length
        rw [List.length_cons] at hlength
        exact ih (by omega) (by omega)
    case h_4 rest hrest =>
      dsimp only
      split
      case h_1 => rfl
      case h_2 source c₁ hsource =>
        obtain ⟨_, -, hclose⟩ := closes_holeSource hsource
        have hlength := ((Takes.two hrest).append hclose).length
        simp only [List.length_append, List.length_cons] at hlength
        exact ih (by omega) (by omega)
    case h_5 d rest _ _ _ hrest =>
      have hlength := (Takes.past hrest).length
      rw [List.length_singleton] at hlength
      exact ih (by omega) (by omega)

theorem tokenKind_fuel (hn : c.rest.length < n) (hk : c.rest.length < k) :
    tokenKind n c = tokenKind k c := by
  unfold tokenKind
  split
  · rfl
  · rename_i d rest hrest
    have hlength := (Takes.past hrest).length
    rw [List.length_singleton] at hlength
    rw [stringBody_fuel (n := n) (k := k) (by omega) (by omega),
      templateBody_fuel (n := n) (k := k) (by omega) (by omega)]

/-- Fuel that exceeds the length of the text makes no difference. -/
theorem tokens_fuel {done : List Token} (hn : c.rest.length < n) (hk : c.rest.length < k) :
    tokens n done c = tokens k done c := by
  induction n generalizing c done k with
  | zero => omega
  | succ n ih =>
    obtain ⟨k, rfl⟩ : ∃ j, k = j + 1 := ⟨k - 1, by omega⟩
    rw [tokens, tokens, skipTrivia_fuel (n := n + 1) (k := k + 1) (by omega) (by omega)]
    split
    · rfl
    · rename_i newline c₁ htrivia
      obtain ⟨trivia, -, htrivia, -⟩ := takes_skipTrivia htrivia
      have hlength := htrivia.length
      rw [tokenKind_fuel (n := n + 1) (k := k + 1) (by omega) (by omega)]
      split
      · rfl
      · rfl
      · rename_i kind c₂ hkind htoken
        obtain ⟨rfl, -⟩ | ⟨text, hspelt, htakes, -⟩ := takes_tokenKind htoken
        · exact (hkind rfl).elim
        · have hlength' := htakes.length
          have hpositive := List.length_pos_iff.mpr hspelt.ne_nil
          exact ih (by omega) (by omega)

/-! ### Errors -/

/-- If it fails, then not for want of fuel. -/
def Ample (r : Except SyntaxError α) : Prop := ∀ e, r = .error e → e.cause ≠ .tooDeep

namespace Ample

theorem ok (a : α) : Ample (.ok a : Except SyntaxError α) := nofun

theorem fail {cause : SyntaxCause} (h : cause ≠ .tooDeep) :
    Ample (c.fail cause : Except SyntaxError α) := by
  rintro _ ⟨⟩
  exact h

/-- The error of a step is passed on. -/
theorem error {β : Type} {r : Except SyntaxError α} (h : Ample r) {e : SyntaxError}
    (he : r = .error e) : Ample (.error e : Except SyntaxError β) := by
  rintro _ ⟨⟩
  exact h e he

end Ample

theorem ample_skipComment_go {place : Place} {cs : List Char} :
    Ample (skipComment.go newline place cs) := by
  fun_induction skipComment.go newline place cs with
  | case1 => simp [Ample]
  | case2 => exact .ok _
  | case3 _ _ _ _ _ ih => exact ih

theorem ample_skipTrivia : Ample (skipTrivia n newline c) := by
  induction n generalizing c newline with
  | zero => exact .ok _
  | succ n ih =>
    rw [skipTrivia]
    split
    · exact ih
    · split
      · rename_i hcomment
        exact .error ample_skipComment_go hcomment
      · exact ih
    · split
      · exact ih
      · exact .ok _
    · exact .ok _

theorem ample_hexadecimal : Ample (hexadecimal c) := by
  unfold hexadecimal
  split
  split
  · split
    · exact .ok _
    · exact .fail (by simp)
  · exact .fail (by simp)

theorem ample_decimal : Ample (decimal c) := by
  obtain ⟨text, c₁, -, -, hdecimal⟩ := decimal_eq c
  rw [hdecimal]
  split
  · exact .ok _
  · exact .fail (by simp)

theorem ample_number : Ample (number c) := by
  unfold number
  split
  · exact ample_hexadecimal
  · exact ample_hexadecimal
  · exact ample_decimal

theorem ample_escape : Ample (escape c) := by
  unfold escape
  split
  · exact .fail (by simp)
  · dsimp only
    iterate 7
      refine iteInduction (fun _ => .ok _) fun _ => ?_
    split
    · split
      · exact .ok _
      · exact .fail (by simp)
    · exact .ok _

theorem ample_stringBody {quote : Char} {done : List Char} :
    Ample (stringBody quote n done c) := by
  induction n generalizing c done with
  | zero => exact .fail (by simp)
  | succ n ih =>
    rw [stringBody]
    split
    · exact .fail (by simp)
    · exact .fail (by simp)
    · exact ih
    · split
      · rename_i hescape
        exact .error ample_escape hescape
      · exact ih
    · split
      · exact .ok _
      · exact ih

theorem ample_holeSource {depth : Nat} {quote : Option Char} {done cs : List Char}
    {place : Place} : Ample (holeSource depth quote done place cs) := by
  fun_induction holeSource depth quote done place cs with
  | case1 | case2 => simp [Ample]
  | case7 => exact .ok _
  | case3 _ _ _ _ _ _ ih | case4 _ _ _ _ _ _ _ ih | case5 _ _ _ _ _ _ ih | case6 _ _ _ _ _ ih
  | case8 _ _ _ _ _ _ ih | case9 _ _ _ _ _ _ _ _ ih => exact ih

theorem ample_templateBody {done : List Chunk} {text : List Char} :
    Ample (templateBody n done text c) := by
  induction n generalizing c done text with
  | zero => exact .fail (by simp)
  | succ n ih =>
    rw [templateBody]
    split
    · exact .fail (by simp)
    · exact .ok _
    · split
      · rename_i hescape
        exact .error ample_escape hescape
      · exact ih
    · dsimp only
      split
      · rename_i hsource
        exact .error ample_holeSource hsource
      · exact ih
    · exact ih

theorem ample_tokenKind : Ample (tokenKind n c) := by
  unfold tokenKind
  split
  · exact .ok _
  · dsimp only
    refine iteInduction (fun _ => ample_number) fun _ => ?_
    refine iteInduction (fun _ => ample_stringBody) fun _ => ?_
    refine iteInduction (fun _ => ample_templateBody) fun _ => ?_
    refine iteInduction (fun _ => .ok _) fun _ => ?_
    split
    · exact .ok _
    · exact .fail (by simp)

/-- A text does not fail for want of fuel that exceeds its length. -/
theorem ample_tokens {done : List Token} (hn : c.rest.length < n) :
    Ample (tokens n done c) := by
  induction n generalizing c done with
  | zero => omega
  | succ n ih =>
    rw [tokens]
    split
    · rename_i htrivia
      exact .error ample_skipTrivia htrivia
    · rename_i newline c₁ htrivia
      obtain ⟨trivia, -, htrivia, -⟩ := takes_skipTrivia htrivia
      have hlength := htrivia.length
      split
      · rename_i htoken
        exact .error ample_tokenKind htoken
      · exact .ok _
      · rename_i kind c₂ hkind htoken
        obtain ⟨rfl, -⟩ | ⟨text, hspelt, htakes, -⟩ := takes_tokenKind htoken
        · exact (hkind rfl).elim
        · have hlength' := htakes.length
          have hpositive := List.length_pos_iff.mpr hspelt.ne_nil
          exact ih (by omega)

end Scan

theorem ample_tokenizeAt {place : Place} {source : String} {e : SyntaxError}
    (h : tokenizeAt place source = .error e) : e.cause ≠ .tooDeep :=
  Scan.ample_tokens (Nat.lt_succ_self _) e h

/-! ### Streams -/

/-- The last token is the end, and no other is. -/
def Ended (ts : List Token) : Prop :=
  ∃ body eof, ts = body ++ [eof] ∧ eof.kind = .eof ∧ ∀ t ∈ body, t.kind ≠ .eof

namespace Ended

variable {t t' : Token} {ts rest : List Token}

theorem ne_nil (h : Ended ts) : ts ≠ [] := by
  obtain ⟨body, eof, rfl, -⟩ := h
  simp

theorem eof (h : t.kind = .eof) : Ended [t] := ⟨[], t, rfl, h, nofun⟩

theorem cons (ht : t.kind ≠ .eof) (h : Ended ts) : Ended (t :: ts) := by
  obtain ⟨body, eof, rfl, heof, hbody⟩ := h
  exact ⟨t :: body, eof, rfl, heof, List.forall_mem_cons.mpr ⟨ht, hbody⟩⟩

/-- What is left of a stream, if there is something left, ends with the end too. -/
theorem suffix (h : Ended ts) (hsuffix : rest <:+ ts) (hrest : rest ≠ []) : Ended rest := by
  obtain ⟨body, eof, rfl, heof, hbody⟩ := h
  obtain ⟨before, hbefore⟩ := hsuffix
  obtain ⟨own, t, rfl⟩ : ∃ own t, rest = own ++ [t] :=
    ⟨_, _, (List.dropLast_append_getLast hrest).symm⟩
  rw [← List.append_assoc] at hbefore
  obtain ⟨hbody', hlast⟩ := List.append_inj' hbefore rfl
  obtain rfl : t = eof := List.singleton_inj.mp hlast
  refine ⟨own, t, rfl, heof, fun t ht => hbody t ?_⟩
  rw [← hbody']
  exact List.mem_append_right _ ht

end Ended

theorem Covers.ended {origin : Place} {before text : List Char} {ts : List Token}
    (h : Covers origin before text ts) : Ended ts := by
  induction h with
  | eof _ _ _ kind => exact .eof kind
  | token _ _ _ kind _ _ _ ih => exact .cons kind ih

theorem ended_tokenizeAt {place : Place} {source : String} {ts : List Token}
    (h : tokenizeAt place source = .ok ts) : Ended ts :=
  (covers_tokenizeAt h (Place.behind_nil place).symm).ended

/-- A hole is shorter than the text that it stands in, however deep it is nested. -/
theorem Nested.length_lt {place hole : Place} {source inner : String}
    (h : Nested place source hole inner) : inner.length < source.length := by
  have hshorter {place hole : Place} {source inner : String} (h : HoleOf place source hole inner) :
      inner.length < source.length := by
    obtain ⟨ts, htokens, t, ht, hmem⟩ := h
    have hcovers := covers_tokenizeAt htokens (Place.behind_nil place).symm
    obtain ⟨s, s', htext, -⟩ := hcovers.hole_closed ht hmem
    have hlength := congrArg List.length htext
    simp only [List.length_append, List.length_cons, String.length_toList] at hlength
    omega
  induction h with
  | outer h => exact hshorter h
  | deeper _ h ih => exact Nat.lt_trans (hshorter h) ih

/-! ### How much there is to read -/

/-- How much there is to read in a chunk: the source of a hole and the end behind it are read on
their own. -/
def Chunk.weight : Chunk → Nat
  | .text _ => 1
  | .hole source _ => source.length + 2

/-- How much there is to read in chunks. -/
def weightOf : List Chunk → Nat
  | [] => 0
  | chunk :: chunks => chunk.weight + weightOf chunks

/-- How much there is to read in a stream: each token, and the chunks that it has. -/
def weight : List Token → Nat
  | [] => 0
  | t :: ts => weightOf t.kind.chunks + 1 + weight ts

@[simp]
theorem weightOf_nil : weightOf [] = 0 := rfl

theorem weightOf_cons (chunk : Chunk) (chunks : List Chunk) :
    weightOf (chunk :: chunks) = chunk.weight + weightOf chunks := rfl

theorem weightOf_append (chunks chunks' : List Chunk) :
    weightOf (chunks ++ chunks') = weightOf chunks + weightOf chunks' := by
  induction chunks with
  | nil => rw [List.nil_append, weightOf_nil, Nat.zero_add]
  | cons chunk chunks ih => rw [List.cons_append, weightOf_cons, weightOf_cons, ih, Nat.add_assoc]

theorem weightOf_reverse (chunks : List Chunk) : weightOf chunks.reverse = weightOf chunks := by
  induction chunks with
  | nil => rfl
  | cons chunk chunks ih =>
    rw [List.reverse_cons, weightOf_append, ih, weightOf_cons, weightOf_cons, weightOf_nil,
      Nat.add_zero, Nat.add_comm]

@[simp]
theorem weight_nil : weight [] = 0 := rfl

theorem weight_cons (t : Token) (ts : List Token) :
    weight (t :: ts) = weightOf t.kind.chunks + 1 + weight ts := rfl

theorem weight_append (ts ts' : List Token) : weight (ts ++ ts') = weight ts + weight ts' := by
  induction ts with
  | nil => rw [List.nil_append, weight_nil, Nat.zero_add]
  | cons t ts ih =>
    rw [List.cons_append, weight_cons, weight_cons, ih]
    exact (Nat.add_assoc _ _ _).symm

theorem weight_reverse (ts : List Token) : weight ts.reverse = weight ts := by
  induction ts with
  | nil => rfl
  | cons t ts ih =>
    rw [List.reverse_cons, weight_append, ih, weight_cons, weight_cons, weight_nil, Nat.add_zero,
      Nat.add_comm]

theorem length_le_weight (ts : List Token) : ts.length ≤ weight ts := by
  induction ts with
  | nil => exact Nat.zero_le _
  | cons t ts ih =>
    rw [weight_cons, List.length_cons]
    omega

namespace Scan

theorem weightOf_textChunk (text : List Char) : weightOf (textChunk text) ≤ text.length := by
  cases text with
  | nil => rfl
  | cons d text => simp [textChunk, weightOf, Chunk.weight]

/-- Chunks are taken from the text in front of them. -/
theorem weight_templateBody {n : Nat} {done chunks : List Chunk} {text : List Char} {c c' : Cursor}
    (h : templateBody n done text c = .ok (.template chunks, c')) :
    weightOf chunks + c'.rest.length ≤ weightOf done + text.length + c.rest.length := by
  induction n generalizing c done text with
  | zero => cases h
  | succ n ih =>
    rw [templateBody] at h
    split at h
    · cases h
    case h_2 rest hrest =>
      have hlength := (Takes.past hrest).length
      have htext := weightOf_textChunk text
      cases h
      rw [List.length_singleton] at hlength
      have hchunks : weightOf (textChunk text ++ done).reverse ≤ weightOf done + text.length := by
        rw [weightOf_reverse, weightOf_append]
        omega
      -- an empty template has one chunk, for which its closing quote stands
      split
      · have hempty : weightOf [.text ""] = 1 := rfl
        omega
      · omega
    case h_3 rest hrest =>
      split at h
      · cases h
      case h_2 d c₁ hescape =>
        obtain ⟨e, escaped, htakes, -⟩ := takes_escape hescape
        have hlength := (Takes.cons hrest htakes).length
        have := ih h
        simp only [List.length_cons] at hlength this
        omega
    case h_4 rest hrest =>
      dsimp only at h
      split at h
      · cases h
      case h_2 source c₁ hsource =>
        obtain ⟨inner, hinner, hclose⟩ := closes_holeSource hsource
        have hlength := ((Takes.two hrest).append hclose).length
        have hsource : source.length = inner.length := by
          rw [← String.length_toList, hinner, List.reverse_nil, List.nil_append]
        have htext := weightOf_textChunk text
        have := ih h
        simp only [weightOf_cons, weightOf_append, Chunk.weight, List.length_append,
          List.length_cons, List.length_nil] at hlength this
        omega
    case h_5 d rest _ _ _ hrest =>
      have hlength := (Takes.past hrest).length
      have := ih h
      simp only [List.length_cons, List.length_nil] at hlength this
      omega

/-- A token and its chunks are taken from the text in front of them. -/
theorem weight_tokenKind {n : Nat} {kind : Token.Kind} {c c' : Cursor} (hkind : kind ≠ .eof)
    (h : tokenKind n c = .ok (kind, c')) :
    weightOf kind.chunks + 1 + c'.rest.length ≤ c.rest.length := by
  obtain ⟨rfl, -⟩ | ⟨text, hspelt, htakes, -⟩ := takes_tokenKind h
  · exact (hkind rfl).elim
  have hlength := htakes.length
  have hpositive := List.length_pos_iff.mpr hspelt.ne_nil
  have hplain (hchunks : kind.chunks = []) :
      weightOf kind.chunks + 1 + c'.rest.length ≤ c.rest.length := by
    rw [hchunks, weightOf_nil]
    omega
  cases kind with
  | template chunks =>
    have hfirst : ∃ rest, c.rest = '\x60' :: rest := by
      cases hspelt with
      | template => exact ⟨_, htakes.rest⟩
    obtain ⟨rest, hrest⟩ := hfirst
    have hpast := (Takes.past hrest).length
    have hbody : templateBody n [] [] (c.past '\x60' rest) = .ok (.template chunks, c') := by
      rw [← h, tokenKind]
      simp only [hrest]
      rfl
    have hweight := weight_templateBody hbody
    simp only [Token.Kind.chunks, List.length_cons, List.length_nil] at hpast hweight ⊢
    rw [weightOf_nil] at hweight
    omega
  | _ => exact hplain rfl

theorem weight_tokens {n : Nat} {done ts : List Token} {c : Cursor}
    (h : tokens n done c = .ok ts) : weight ts ≤ weight done + c.rest.length + 1 := by
  induction n generalizing c done with
  | zero => cases h
  | succ n ih =>
    rw [tokens] at h
    split at h
    · cases h
    rename_i newline c₁ htrivia
    obtain ⟨trivia, -, htrivia, -⟩ := takes_skipTrivia htrivia
    have hlength := htrivia.length
    split at h
    · cases h
    · cases h
      have hend : weightOf Token.Kind.eof.chunks = 0 := rfl
      rw [weight_reverse, weight_cons, hend]
      omega
    · rename_i kind c₂ hkind htoken
      have htoken := weight_tokenKind hkind htoken
      have := ih h
      rw [weight_cons] at this
      dsimp only at this
      omega

end Scan

/-- There is no more to read in the tokens of a text, and the end behind it, than the text is
long. -/
theorem weight_tokenizeAt {place : Place} {source : String} {ts : List Token}
    (h : tokenizeAt place source = .ok ts) : weight ts ≤ source.length + 1 := by
  have hweight := Scan.weight_tokens h
  rw [weight_nil, String.length_toList] at hweight
  omega

end BrowserLab.Script
