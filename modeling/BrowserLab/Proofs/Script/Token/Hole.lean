import BrowserLab.Proofs.Script.Token.Cover
import BrowserLab.Proofs.Script.Token.Cut

/-!
# Where a hole ends

The source of a hole is looked through for the brace that closes it before it is cut into tokens.
That scan counts braces and knows what stands between two like quotes, but no comments, and it takes
a template up to the next quote for a string, whatever holes it has.

* `Passes`: what the scan gets behind (`Passes.holeSource`, and conversely `finishes_holeSource`).
* `passes_tokens`: tokens with balanced braces are passed, if what is between them is, and if no
  template has a template in one of its holes.
* `hole_ends_at_brace`: when a text in a hole is the source of that hole.
-/

namespace BrowserLab.Script

namespace Scan

/-! ### The scan -/

/-- With so many braces open and no quote, the scan gets behind a text, and has so many braces open
then and again no quote. -/
inductive Passes : Nat → List Char → Nat → Prop
  | nothing (n : Nat) : Passes n [] n
  | plain {d : Char} {cs : List Char} {n m : Nat} (quote : isQuoteMark d = false)
      (opens : d ≠ '\x7b') (closes : d ≠ '\x7d') (rest : Passes n cs m) : Passes n (d :: cs) m
  | quoted {quote : Char} {body cs : List Char} {n m : Nat} (mark : isQuoteMark quote = true)
      (within : Within quote body) (rest : Passes n cs m) :
      Passes n (quote :: body ++ quote :: cs) m
  | opens {cs : List Char} {n m : Nat} (rest : Passes (n + 1) cs m) : Passes n ('\x7b' :: cs) m
  | closes {cs : List Char} {n m : Nat} (rest : Passes n cs m) : Passes (n + 1) ('\x7d' :: cs) m

/-- What the scan looks for: quotes and braces. -/
def isScanned (d : Char) : Bool := isQuoteMark d || decide (d = '\x7b') || decide (d = '\x7d')

/-- Quotes and braces of the text pair up in the eyes of the scan. -/
def Paired (cs : List Char) : Prop := Passes 0 cs 0

namespace Passes

variable {n m l : Nat} {cs cs' : List Char}

theorem append (h : Passes n cs m) (h' : Passes m cs' l) : Passes n (cs ++ cs') l := by
  induction h with
  | nothing => exact h'
  | plain quote opens closes _ ih => exact .plain quote opens closes (ih h')
  | @quoted quote body cs _ _ mark within _ ih =>
    rw [List.append_assoc]
    exact .quoted mark within (ih h')
  | opens _ ih => exact .opens (ih h')
  | closes _ ih => exact .closes (ih h')

/-- More braces are open before it. -/
theorem within (h : Passes n cs m) (l : Nat) : Passes (n + l) cs (m + l) := by
  induction h with
  | nothing => exact .nothing _
  | plain quote opens closes _ ih => exact .plain quote opens closes ih
  | quoted mark within _ ih => exact .quoted mark within ih
  | opens _ ih => exact .opens (Nat.add_right_comm _ 1 l ▸ ih)
  | closes _ ih => exact Nat.add_right_comm _ 1 l ▸ .closes ih

theorem plainAll (h : cs.any isScanned = false) (n : Nat) : Passes n cs n := by
  induction cs with
  | nil => exact .nothing n
  | cons d cs ih =>
    obtain ⟨hd, hcs⟩ := Bool.or_eq_false_iff.mp (List.any_cons ▸ h)
    simp only [isScanned, Bool.or_eq_false_iff, decide_eq_false_iff_not] at hd
    obtain ⟨⟨hquote, hopens⟩, hcloses⟩ := hd
    exact .plain hquote hopens hcloses (ih hcs)

end Passes

/-- The scan passes a text and has no brace open then, starting with that quote open, or none. -/
def Finishes (depth : Nat) (quote : Option Char) (text : List Char) : Prop :=
  match quote with
  | none => Passes depth text 0
  | some quote => ∃ body rest, text = body ++ quote :: rest ∧ Within quote body ∧ Passes depth rest 0

/-- What the scan has taken for the source of a hole, it passes. -/
theorem finishes_holeSource {depth : Nat} {quote : Option Char} {done cs : List Char}
    {place : Place} {source : String} {c' : Cursor}
    (h : holeSource depth quote done place cs = .ok (source, c')) :
    ∃ text, source.toList = done.reverse ++ text ∧ Finishes depth quote text := by
  fun_induction holeSource depth quote done place cs with
  | case1 | case2 => cases h
  | case3 depth done place q e rest ih =>
    obtain ⟨text, htext, body, text', rfl, hbody, hpasses⟩ := ih h
    exact ⟨'\\' :: e :: (body ++ q :: text'), by simpa using htext, '\\' :: e :: body, text', rfl,
      .escaped hbody, hpasses⟩
  | case4 depth done place d rest q hescapes ih =>
    obtain ⟨text, htext, hfinishes⟩ := ih h
    refine ⟨d :: text, by simpa using htext, ?_⟩
    by_cases hd : d = q
    · rw [if_pos hd] at hfinishes
      exact ⟨[], text, by rw [hd]; rfl, .nothing, hfinishes⟩
    · rw [if_neg hd] at hfinishes
      obtain ⟨body, text', rfl, hbody, hpasses⟩ := hfinishes
      exact ⟨d :: body, text', rfl, .plain hd hescapes hbody, hpasses⟩
  | case5 depth done place d rest hquote ih =>
    obtain ⟨text, htext, body, text', rfl, hbody, hpasses⟩ := ih h
    exact ⟨_, by simpa using htext, .quoted hquote hbody hpasses⟩
  | case6 depth done place rest hquote ih =>
    obtain ⟨text, htext, hpasses⟩ := ih h
    exact ⟨_, by simpa using htext, .opens hpasses⟩
  | case7 done place rest =>
    cases h
    exact ⟨[], by simp, .nothing 0⟩
  | case8 done place rest depth _ _ ih =>
    obtain ⟨text, htext, hpasses⟩ := ih h
    exact ⟨_, by simpa using htext, .closes hpasses⟩
  | case9 depth done place d rest hquote hopens hcloses ih =>
    obtain ⟨text, htext, hpasses⟩ := ih h
    refine ⟨_, by simpa using htext, .plain ?_ hopens hcloses hpasses⟩
    simpa [isQuoteMark] using hquote

theorem holeSource_within {quote : Char} {body : List Char} (h : Within quote body) (depth : Nat)
    (done : List Char) (place : Place) (rest : List Char) (hescapes : quote ≠ '\\') :
    holeSource depth (some quote) done place (body ++ quote :: rest) =
      holeSource depth none (quote :: (body.reverse ++ done)) (place.pastAll (body ++ [quote]))
        rest := by
  induction h generalizing done place with
  | nothing =>
    rw [List.nil_append, holeSource.eq_def]
    simp [hescapes, Place.pastAll]
  | escaped _ ih => simp [holeSource, ih, Place.pastAll]
  | plain hcloses hplain _ ih =>
    rw [List.cons_append, holeSource.eq_def]
    simp [hcloses, hplain, ih, Place.pastAll]

/-- What the scan passes, it gets behind, whatever is there. -/
theorem Passes.holeSource {n m : Nat} {cs : List Char} (h : Passes n cs m) (done : List Char)
    (place : Place) (rest : List Char) :
    holeSource n none done place (cs ++ rest) =
      holeSource m none (cs.reverse ++ done) (place.pastAll cs) rest := by
  induction h generalizing done place with
  | nothing => rfl
  | plain hquote hopens hcloses _ ih =>
    simp only [isQuoteMark] at hquote
    simp [Scan.holeSource, hquote, hopens, hcloses, ih, Place.pastAll]
  | @quoted quote body cs _ _ hmark hwithin _ ih =>
    have hescapes : quote ≠ '\\' := by
      rintro rfl
      cases hmark
    simp only [isQuoteMark] at hmark
    rw [List.append_assoc, List.cons_append, List.cons_append, Scan.holeSource.eq_def]
    dsimp only
    rw [if_pos hmark, holeSource_within hwithin _ _ _ _ hescapes, ih]
    simp [Place.pastAll]
  | opens _ ih => simp [Scan.holeSource, ih, Place.pastAll]
  | closes _ ih => simp [Scan.holeSource, ih, Place.pastAll]

/-! ### Tokens -/

/-- The braces that are open behind a token, when so many are open before it: none if it closes one
that is not open. -/
def bracesBehind (depth : Nat) : Token.Kind → Option Nat
  | .punct mark =>
    if mark = "\x7b" then some (depth + 1)
    else if mark = "\x7d" then
      match depth with
      | 0 => none
      | depth + 1 => some depth
    else some depth
  | _ => some depth

theorem passes_plain {p : Char → Bool} {text : List Char} (h : ∀ d ∈ text, p d = true)
    (hp : ['\'', '"', '\x60', '\x7b', '\x7d'].any p = false) (n : Nat) : Passes n text n := by
  refine .plainAll (List.any_eq_false.mpr fun d hd => ?_) n
  have hne {e : Char} (he : p e = false) : d ≠ e := by
    rintro rfl
    rw [h d hd] at he
    cases he
  simp only [List.any_cons, List.any_nil, Bool.or_eq_false_iff] at hp
  obtain ⟨hsingle, hdouble, hback, hopens, hcloses, -⟩ := hp
  simp [isScanned, isQuoteMark, hne hsingle, hne hdouble, hne hback, hne hopens, hne hcloses]

theorem passes_token {place : Place} {k : Token.Kind} {text : List Char} {n m : Nat}
    (hspelt : Spelt place k text) (hshut : Shut k text) (hshallow : Shallow k.chunks)
    (hbraces : bracesBehind n k = some m) : Passes n text m := by
  cases hspelt with
  | number _ numerals =>
    cases hbraces
    exact passes_plain numerals (by decide) n
  | word _ letters =>
    cases hbraces
    exact passes_plain letters (by decide +kernel) n
  | string _ =>
    cases hbraces
    obtain ⟨quote, body, hmark, htext, hbody⟩ := hshut
    rw [htext]
    exact .quoted hmark hbody (.nothing n)
  | template _ =>
    cases hbraces
    obtain ⟨body, htext, hbody⟩ := hshut hshallow
    rw [htext]
    exact .quoted rfl hbody (.nothing n)
  | punct known =>
    have hmarks : ∀ mark ∈ punctuators, mark = ['\x7b'] ∨ mark = ['\x7d'] ∨
        String.ofList mark ≠ "\x7b" ∧ String.ofList mark ≠ "\x7d" ∧
          mark.any isScanned = false := by decide +kernel
    obtain rfl | rfl | ⟨hopens, hcloses, hplain⟩ := hmarks _ known
    · cases hbraces
      exact .opens (.nothing _)
    · cases n with
      | zero => cases hbraces
      | succ n =>
        cases hbraces
        exact .closes (.nothing _)
    · simp only [bracesBehind, if_neg hopens, if_neg hcloses] at hbraces
      cases hbraces
      exact .plainAll hplain n

/-- The braces among the tokens pair up. -/
def Balanced (ts : List Token) : Prop := ts.foldlM (fun n t => bracesBehind n t.kind) 0 = some 0

instance (ts : List Token) : Decidable (Balanced ts) :=
  inferInstanceAs (Decidable (ts.foldlM (fun n t => bracesBehind n t.kind) 0 = some 0))

/-- The pieces of blanks and comments before the tokens of a text. -/
def gaps (fuel : Nat) (c : Cursor) : List (List Char) :=
  match fuel with
  | 0 => []
  | fuel + 1 =>
    match skipTrivia (fuel + 1) false c with
    | .error _ => []
    | .ok (_, c') =>
      c.rest.take (c.rest.length - c'.rest.length) ::
        match tokenKind (fuel + 1) c' with
        | .ok (.eof, _) | .error _ => []
        | .ok (_, after) => gaps fuel after

theorem passes_tokens {fuel : Nat} {done ts : List Token} {c : Cursor}
    (h : tokens fuel done c = .ok ts) (hgaps : ∀ gap ∈ gaps fuel c, Paired gap) :
    ∃ own, ts = done.reverse ++ own ∧ ∀ n m, (∀ t ∈ own, Shallow t.kind.chunks) →
      own.foldlM (fun n t => bracesBehind n t.kind) n = some m → Passes n c.rest m := by
  induction fuel generalizing done c with
  | zero => cases h
  | succ fuel ih =>
    rw [tokens] at h
    rw [gaps] at hgaps
    split at h
    · cases h
    rename_i newline c₁ htrivia
    obtain ⟨trivia, -, htakes, -⟩ := takes_skipTrivia htrivia
    rw [htrivia] at hgaps
    obtain ⟨hgap, hgaps⟩ := List.forall_mem_cons.mp hgaps
    have hbetween (n : Nat) : Passes n trivia n := by
      have hpiece : c.rest.take (c.rest.length - c₁.rest.length) = trivia := by
        rw [htakes.rest]
        simp
      rw [hpiece] at hgap
      exact Nat.zero_add n ▸ hgap.within n
    split at h
    · cases h
    · rename_i c₂ heof
      cases h
      refine ⟨_, List.reverse_cons, fun n m _ hbraces => ?_⟩
      obtain ⟨-, hrest⟩ | ⟨text, hspelt, -, -⟩ := takes_tokenKind heof
      · rw [htakes.rest, hrest, List.append_nil]
        cases hbraces
        exact hbetween n
      · exact absurd rfl hspelt.ne_eof
    · rename_i kind c₂ hkind htoken
      rw [htoken] at hgaps
      obtain ⟨own, rfl, hpasses⟩ := ih h (by simpa [hkind] using hgaps)
      refine ⟨⟨kind, c₁.place, newline⟩ :: own, by simp, fun n m hshallow hbraces => ?_⟩
      obtain ⟨hhead, hshallow⟩ := List.forall_mem_cons.mp hshallow
      rw [List.foldlM_cons] at hbraces
      obtain ⟨l, hl, hbraces⟩ := Option.bind_eq_some_iff.mp hbraces
      obtain ⟨rfl, -⟩ | ⟨text, hspelt, htext, hshut⟩ := takes_tokenKind htoken
      · exact (hkind rfl).elim
      · rw [htakes.rest, htext.rest]
        exact (hbetween n).append
          ((passes_token hspelt hshut hhead hl).append (hpasses l m hshallow hbraces))

end Scan

open Scan

/-! ### A text in a hole -/

/-- A template literal that is one hole with the text in it. -/
def asHole (e : String) : String := "\x60$\x7b" ++ e ++ "\x7d\x60"

/-- The template literal is one token, and its one hole has the text for its source. -/
def IsHole (e : String) : Prop :=
  ∃ ts, tokenize (asHole e) = .ok ts ∧ ts.map (·.kind) = [.template [.hole e ⟨1, 4⟩], .eof]

theorem tokenKind_asHole (fuel : Nat) (cs : List Char) :
    tokenKind (fuel + 1) ⟨'\x60' :: '$' :: '\x7b' :: cs, .start⟩ =
      match holeSource 0 none [] ⟨1, 4⟩ cs with
      | .error e => .error e
      | .ok (source, c) => templateBody fuel [.hole source ⟨1, 4⟩] [] c := by
  simp only [tokenKind]
  rw [templateBody]
  rfl

/-- The first step in cutting the template literal: there is nothing between tokens. -/
theorem tokenize_asHole (e : String) :
    tokenize (asHole e) =
      match tokenKind (e.toList.length + 6)
        ⟨'\x60' :: '$' :: '\x7b' :: (e.toList ++ ['\x7d', '\x60']), .start⟩ with
      | .error e => .error e
      | .ok (.eof, _) => .ok [⟨.eof, .start, false⟩]
      | .ok (k, c) => tokens (e.toList.length + 5) [⟨k, .start, false⟩] c := by
  have hlist : (asHole e).toList = '\x60' :: '$' :: '\x7b' :: (e.toList ++ ['\x7d', '\x60']) := by
    simp [asHole]
  have hlength : (asHole e).toList.length = e.toList.length + 5 := by simp [hlist]
  rw [tokenize, tokenizeAt, hlength, hlist, tokens,
    skipTrivia_of_not_blank (by decide) (by decide)]
  rfl

/-- A text is the source of the hole that it is put into just if quotes and braces pair up in it. -/
theorem isHole_iff (e : String) : IsHole e ↔ Paired e.toList := by
  constructor
  · rintro ⟨ts, hts, hkinds⟩
    rw [tokenize_asHole, tokenKind_asHole] at hts
    cases hsource : holeSource 0 none [] ⟨1, 4⟩ (e.toList ++ ['\x7d', '\x60']) with
    | error cause =>
      rw [hsource] at hts
      cases hts
    | ok result =>
      obtain ⟨source, c⟩ := result
      rw [hsource] at hts
      dsimp only at hts
      split at hts
      · cases hts
      · cases hts
        cases hkinds
      · rename_i k c' _ hbody
        obtain ⟨chunks, -, rfl, -, -, hkept, -⟩ := takes_templateBody hbody
        obtain ⟨own, rfl, -⟩ := covers_tokens hts
        obtain rfl : chunks = [.hole e ⟨1, 4⟩] := Token.Kind.template.inj (List.cons.inj hkinds).1
        have hmem := hkept source ⟨1, 4⟩ List.mem_cons_self
        obtain rfl : source = e := by simpa using hmem
        obtain ⟨text, htext, hpasses⟩ := finishes_holeSource hsource
        rw [List.reverse_nil, List.nil_append] at htext
        rw [htext]
        exact hpasses
  · intro h
    refine ⟨[⟨.template [.hole e ⟨1, 4⟩], .start, false⟩,
      ⟨.eof, ((Place.pastAll ⟨1, 4⟩ e.toList).past '\x7d').past '\x60', false⟩], ?_, rfl⟩
    rw [tokenize_asHole, tokenKind_asHole, h.holeSource]
    simp [holeSource, templateBody, textChunk, Cursor.past, tokens, skipTrivia, tokenKind]

/-- **Where a hole ends.**  Let a text be cut into tokens in which the braces pair up.  When it is
put into a hole, it is the source of that hole just if the scan finds all its quotes and braces
paired.  It does if it finds them paired in each piece of blanks and comments between the tokens,
and if no template among the tokens has the quote of a template in one of its holes. -/
theorem hole_ends_at_brace {e : String} {ts : List Token} (h : tokenize e = .ok ts)
    (hbalanced : Balanced ts) :
    (IsHole e ↔ Paired e.toList) ∧
      ((∀ gap ∈ gaps (e.toList.length + 1) (.start e.toList), Paired gap) →
        (∀ t ∈ ts, Shallow t.kind.chunks) → IsHole e) := by
  refine ⟨isHole_iff e, fun hgaps hshallow => (isHole_iff e).mpr ?_⟩
  obtain ⟨own, rfl, hpasses⟩ := passes_tokens h hgaps
  exact hpasses 0 0 hshallow hbalanced

/-- A string with an escaped quote between braces, a template with a hole, and a comment. -/
theorem hole_ends_at_brace_commented :
    let e := "f(\x7b a: 'it\\'s' \x7d, \x60b$\x7bc\x7d\x60) // d\n"
    ∃ ts, tokenize e = .ok ts ∧ Balanced ts ∧ IsHole e := by
  intro e
  have hok : (tokenize e).toOption.any
      (fun ts => decide (Balanced ts ∧ ∀ t ∈ ts, Shallow t.kind.chunks)) = true := by
    decide +kernel
  have hgaps : ∀ gap ∈ gaps (e.toList.length + 1) (.start e.toList),
      gap.any isScanned = false := by decide +kernel
  cases hts : tokenize e with
  | error cause => simp [hts, Except.toOption] at hok
  | ok ts =>
    rw [hts] at hok
    obtain ⟨hbalanced, hshallow⟩ := of_decide_eq_true hok
    exact ⟨ts, rfl, hbalanced,
      (hole_ends_at_brace hts hbalanced).2 (fun gap hgap => .plainAll (hgaps gap hgap) 0) hshallow⟩

/-- A quote in a comment: the scan takes what follows for a string, and finds no end of the hole. -/
theorem hole_lost_in_comment :
    let e := "x // don't\n"
    (∃ ts, tokenize e = .ok ts ∧ Balanced ts) ∧ (tokenize (asHole e)).isOk = false ∧
      ¬ IsHole e := by
  intro e
  have hok : (tokenize e).toOption.any (fun ts => decide (Balanced ts)) = true := by decide +kernel
  have hlost : (tokenize (asHole e)).isOk = false := by decide +kernel
  refine ⟨?_, hlost, ?_⟩
  · cases hts : tokenize e with
    | error cause => simp [hts, Except.toOption] at hok
    | ok ts =>
      rw [hts] at hok
      exact ⟨ts, rfl, of_decide_eq_true hok⟩
  · rintro ⟨ts, hts, -⟩
    rw [hts] at hlost
    cases hlost

end BrowserLab.Script
