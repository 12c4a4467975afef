import BrowserLab.Proofs.Script.Token.Cut
import BrowserLab.Script.Parser

/-!
# Texts with a name in quotes

A text that is given up to a name in single quotes.  If the name has no quote, no backslash and no
line feed, then it is one token, whatever it is otherwise; so the text is cut into tokens, and read,
like one with any other name.

* `placed`: tokens of which only the places are left open.
* `tokenize_spliced`: the tokens of such a text are those before the name, the name as a string, and
  those behind it.
* `parse_of_marks`: a text is a script if its tokens are one wherever they stand.
-/

namespace BrowserLab.Script

open Scan

/-- What is read of a token: its kind, and whether a line ends before it. -/
def Token.mark (t : Token) : Token.Kind × Bool := (t.kind, t.newlineBefore)

/-- Tokens of which this is to be read, at these places. -/
def placed (places : Nat → Place) : List (Token.Kind × Bool) → List Token
  | [] => []
  | m :: ms => ⟨m.1, places 0, m.2⟩ :: placed (fun i => places (i + 1)) ms

theorem placed_mark (ts : List Token) :
    placed (fun i => (ts.map (·.place)).getD i .start) (ts.map Token.mark) = ts := by
  induction ts with
  | nil => rfl
  | cons t ts ih => exact congrArg (t :: ·) ih

/-! ### Cutting -/

section Cutting

variable {fuel : Nat} {c c' : Cursor} {name rest : List Char} {place : Place} {k : Token.Kind}
  {newline : Bool} {done : List Token}

theorem tokens_step (htrivia : skipTrivia (fuel + 1) false c = .ok (newline, ⟨rest, place⟩))
    (htoken : tokenKind (fuel + 1) ⟨rest, place⟩ = .ok (k, c')) (hk : k.isEof = false) :
    tokens (fuel + 1) done c = tokens fuel (⟨k, place, newline⟩ :: done) c' := by
  rw [tokens, htrivia]
  simp only [htoken]
  cases k with
  | eof => cases hk
  | _ => rfl

/-- The tokens read before are only put in front. -/
theorem tokens_done (fuel : Nat) (done : List Token) (c : Cursor) :
    tokens fuel done c = (tokens fuel [] c).map (done.reverse ++ ·) := by
  induction fuel generalizing done c with
  | zero => rfl
  | succ fuel ih =>
    rw [tokens, tokens]
    split
    · rfl
    · rename_i newline c₁ htrivia
      split
      · rfl
      · simp [Except.map]
      · rename_i k c₂ hk htoken
        rw [ih, ih [_]]
        cases tokens fuel [] c₂ with
        | error e => rfl
        | ok ts => simp [Except.map]

/-- A name in single quotes is a string if nothing in it ends the string or is escaped. -/
theorem stringBody_plain (hname : ∀ d ∈ name, d ≠ '\'' ∧ d ≠ '\\' ∧ d ≠ '\n') (read : List Char)
    (hfuel : name.length < fuel) :
    ∃ place', stringBody '\'' fuel read ⟨name ++ '\'' :: rest, place⟩ =
      .ok (.string (String.ofList (read.reverse ++ name)), ⟨rest, place'⟩) := by
  induction name generalizing fuel read place with
  | nil =>
    obtain _ | fuel := fuel
    · cases hfuel
    · refine ⟨place.past '\'', ?_⟩
      simp [stringBody, Cursor.past]
  | cons d name ih =>
    obtain _ | fuel := fuel
    · cases hfuel
    · obtain ⟨⟨hquote, hslash, hline⟩, hname⟩ := List.forall_mem_cons.mp hname
      obtain ⟨place', hrest⟩ :=
        @ih fuel (place.past d) hname (d :: read) (Nat.lt_of_succ_lt_succ hfuel)
      refine ⟨place', ?_⟩
      rw [List.reverse_cons, List.append_assoc] at hrest
      rw [← List.singleton_append (l := name), ← hrest]
      simp [stringBody, hquote, hslash, Cursor.past]

theorem tokenKind_quoted (hname : ∀ d ∈ name, d ≠ '\'' ∧ d ≠ '\\' ∧ d ≠ '\n')
    (hfuel : name.length < fuel) :
    ∃ place', tokenKind fuel ⟨'\'' :: (name ++ '\'' :: rest), place⟩ =
      .ok (.string (String.ofList name), ⟨rest, place'⟩) :=
  stringBody_plain hname [] hfuel

end Cutting

section Spliced

variable {source : String} {head name tail : List Char} {ms ms' : List (Token.Kind × Bool)}
  {n n' : Nat}

/-- A text with a name in quotes is cut into what the text before the name is cut into, the name,
and what the text behind it is cut into.  The numbers bound the fuel that the texts need. -/
theorem tokenize_spliced (hsource : source.toList = head ++ '\'' :: (name ++ '\'' :: tail))
    (hname : ∀ d ∈ name, d ≠ '\'' ∧ d ≠ '\\' ∧ d ≠ '\n')
    (hhead : ∀ fuel rest, ∃ (ts : List Token) (place : Place), ts.map Token.mark = ms ∧
      tokens (fuel + n) [] ⟨head ++ '\'' :: rest, .start⟩ =
        tokens (fuel + 1) ts.reverse ⟨'\'' :: rest, place⟩)
    (htail : ∀ fuel place, (tokens (fuel + n') [] ⟨tail, place⟩).map (·.map Token.mark) = .ok ms')
    (hfuel : n + n' ≤ head.length + tail.length + 3) :
    ∃ ts, tokenize source = .ok ts ∧
      ts.map Token.mark = ms ++ (.string (String.ofList name), false) :: ms' := by
  obtain ⟨fuel, hlength⟩ : ∃ fuel, source.toList.length + 1 = fuel + name.length + n' + n := by
    refine ⟨head.length + tail.length + 3 - (n + n'), ?_⟩
    rw [hsource]
    simp only [List.length_append, List.length_cons]
    omega
  obtain ⟨before, place, hbefore, hcut⟩ := hhead (fuel + name.length + n') (name ++ '\'' :: tail)
  obtain ⟨place', hstring⟩ := @tokenKind_quoted (fuel + name.length + n' + 1) name tail place hname
    (by omega)
  have hbehind := htail (fuel + name.length) place'
  cases hcuttail : tokens (fuel + name.length + n') [] ⟨tail, place'⟩ with
  | error e =>
    rw [hcuttail] at hbehind
    cases hbehind
  | ok behind =>
    rw [hcuttail] at hbehind
    have hbehind : behind.map Token.mark = ms' := Except.ok.inj hbehind
    refine ⟨before ++ ⟨.string (String.ofList name), place, false⟩ :: behind, ?_, ?_⟩
    · rw [tokenize, tokenizeAt, hlength, hsource, hcut,
        tokens_step (skipTrivia_of_not_blank (by decide) (by decide)) hstring rfl, tokens_done,
        hcuttail]
      simp [Except.map]
    · rw [List.map_append, List.map_cons, hbefore, hbehind]
      rfl

/-- A text is a script if its tokens are one wherever they stand. -/
theorem parse_of_marks {ts : List Token} {body : List Stmt} (hts : tokenize source = .ok ts)
    (hmarks : ts.map Token.mark = ms)
    (hprogram : ∀ fuel places, ∃ rest,
      Parse.program (fuel + 64) (fuel + 64) [] (placed places ms) = .ok (body, rest)) :
    parse source = .ok body := by
  obtain ⟨rest, hread⟩ := hprogram (16 * source.length) fun i => (ts.map (·.place)).getD i .start
  have hfuel : Parse.depthBound source.length = 16 * source.length + 64 := Nat.mul_add _ _ _
  rw [parse, hts]
  simp only [hfuel]
  rw [← hmarks, placed_mark] at hread
  rw [hread]

end Spliced

end BrowserLab.Script
