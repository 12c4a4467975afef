import BrowserLab.Proofs.Script.Token.Takes

/-!
# Tokens cover the text

A text that is cut into tokens is what the tokens are spelt with and the blanks and comments between
them, and every token knows its place in it.  The source of a hole is cut apart later, on its own;
as a part of the text it keeps its place, and so do its tokens, however deep holes are nested.

* `covers_tokens`: one token after the other.
* `tokens_cover_source`: the tokens of a text and those of the holes in it.
-/

namespace BrowserLab.Script

open Scan

/-- Behind `before`, in a text that begins at `origin`, there are these tokens up to the end.  What
stands before a token is blanks and comments; its place is that of its first character, and it knows
whether a line ends before it. -/
inductive Covers (origin : Place) : List Char → List Char → List Token → Prop
  | eof {before trivia : List Char} {t : Token} (between : Trivia [] trivia)
      (place : t.place = origin.behind (before ++ trivia))
      (newline : t.newlineBefore = true ↔ '\n' ∈ trivia) (kind : t.kind = .eof) :
      Covers origin before trivia [t]
  | token {before trivia text rest : List Char} {t : Token} {ts : List Token}
      (between : Trivia (text ++ rest) trivia) (place : t.place = origin.behind (before ++ trivia))
      (newline : t.newlineBefore = true ↔ '\n' ∈ trivia) (kind : t.kind ≠ .eof)
      (nonempty : text ≠ []) (spelt : Spelt t.place t.kind text)
      (behind : Covers origin (before ++ trivia ++ text) rest ts) :
      Covers origin before (trivia ++ text ++ rest) (t :: ts)

theorem covers_tokens {fuel : Nat} {done ts : List Token} {c : Cursor}
    (h : tokens fuel done c = .ok ts) :
    ∃ own, ts = done.reverse ++ own ∧ ∀ origin before, c.place = origin.behind before →
      Covers origin before c.rest own := by
  induction fuel generalizing done c with
  | zero => cases h
  | succ fuel ih =>
    rw [tokens] at h
    split at h
    · cases h
    rename_i newline c₁ htrivia
    obtain ⟨trivia, hbetween, htrivia, hnewline⟩ := takes_skipTrivia htrivia
    have hplace {origin : Place} {before : List Char} (horigin : c.place = origin.behind before) :
        c₁.place = origin.behind (before ++ trivia) := by
      rw [htrivia.place, horigin, Place.behind_append]
    have hnewline : newline = true ↔ '\n' ∈ trivia := by simpa using hnewline
    split at h
    · cases h
    · rename_i c₂ heof
      cases h
      refine ⟨_, List.reverse_cons, fun origin before horigin => ?_⟩
      obtain ⟨-, hrest⟩ | ⟨text, hspelt, -, -⟩ := takes_tokenKind heof
      · rw [hrest] at hbetween
        rw [htrivia.rest, hrest, List.append_nil]
        exact .eof hbetween (hplace horigin) hnewline rfl
      · exact absurd rfl hspelt.ne_eof
    · rename_i kind c₂ hkind htoken
      obtain ⟨own, rfl, hcovers⟩ := ih h
      refine ⟨⟨kind, c₁.place, newline⟩ :: own, by simp, fun origin before horigin => ?_⟩
      obtain ⟨rfl, -⟩ | ⟨text, hspelt, htakes, -⟩ := takes_tokenKind htoken
      · exact (hkind rfl).elim
      · rw [htrivia.rest, htakes.rest, ← List.append_assoc]
        rw [htakes.rest] at hbetween
        refine .token hbetween (hplace horigin) hnewline hspelt.ne_eof hspelt.ne_nil hspelt ?_
        refine hcovers origin _ ?_
        rw [htakes.place, hplace horigin, Place.behind_append _ _ text]

/-! ### Holes -/

/-- The chunks of a token: a template has them. -/
def Token.Kind.chunks : Token.Kind → List Chunk
  | .template chunks => chunks
  | _ => []

/-- The text, when it is cut into tokens, has a template with this hole. -/
def HoleOf (place : Place) (source : String) (hole : Place) (inner : String) : Prop :=
  ∃ ts, tokenizeAt place source = .ok ts ∧ ∃ t ∈ ts, .hole inner hole ∈ t.kind.chunks

instance (place : Place) (source : String) (hole : Place) (inner : String) :
    Decidable (HoleOf place source hole inner) :=
  match h : tokenizeAt place source with
  | .ok ts => decidable_of_iff (∃ t ∈ ts, .hole inner hole ∈ t.kind.chunks) (by simp [HoleOf, h])
  | .error _ => .isFalse (by simp [HoleOf, h])

/-- A hole of a token stands in its text. -/
theorem Scan.Spelt.hole {place hole : Place} {k : Token.Kind} {text : List Char} {inner : String}
    (h : Spelt place k text) (hmem : .hole inner hole ∈ k.chunks) :
    HoleIn place text inner hole := by
  cases h with
  | template holes => exact holes inner hole hmem
  | _ => cases hmem

/-- The text has this hole, or a hole in it has it. -/
inductive Nested (place : Place) (source : String) : Place → String → Prop
  | outer {hole : Place} {inner : String} (h : HoleOf place source hole inner) :
      Nested place source hole inner
  | deeper {hole hole' : Place} {inner inner' : String} (h : Nested place source hole inner)
      (h' : HoleOf hole inner hole' inner') : Nested place source hole' inner'

/-- The source of a hole is a piece of the text, begins at its place and ends before a brace. -/
theorem Covers.hole_closed {origin hole : Place} {before text : List Char} {ts : List Token}
    (h : Covers origin before text ts) {t : Token} {inner : String} (ht : t ∈ ts)
    (hmem : .hole inner hole ∈ t.kind.chunks) :
    ∃ s s', text = s ++ inner.toList ++ '\x7d' :: s' ∧ hole = origin.behind (before ++ s) := by
  induction h with
  | eof _ _ _ kind =>
    obtain rfl := List.mem_singleton.mp ht
    rw [kind] at hmem
    cases hmem
  | @token before trivia text rest t' ts _ place _ _ _ spelt behind ih =>
    rcases List.mem_cons.mp ht with rfl | ht
    · obtain ⟨s, s', htext, hhole⟩ := spelt.hole hmem
      refine ⟨trivia ++ (s ++ ['$', '\x7b']), s' ++ rest, ?_, ?_⟩
      · rw [htext]
        simp
      · rw [hhole, place, ← Place.behind_append, List.append_assoc]
    · obtain ⟨s, s', hrest, hhole⟩ := ih ht
      refine ⟨trivia ++ text ++ s, s', ?_, ?_⟩
      · rw [hrest]
        simp only [List.append_assoc]
      · rw [hhole]
        simp only [List.append_assoc]

/-- The source of a hole is a piece of the text and begins at its place. -/
theorem Covers.hole {origin hole : Place} {before text : List Char} {ts : List Token}
    (h : Covers origin before text ts) {t : Token} {inner : String} (ht : t ∈ ts)
    (hmem : .hole inner hole ∈ t.kind.chunks) :
    ∃ s s', text = s ++ inner.toList ++ s' ∧ hole = origin.behind (before ++ s) := by
  obtain ⟨s, s', htext, hhole⟩ := h.hole_closed ht hmem
  exact ⟨s, '\x7d' :: s', htext, hhole⟩

theorem covers_tokenizeAt {place : Place} {source : String} {ts : List Token}
    (h : tokenizeAt place source = .ok ts) {origin : Place} {before : List Char}
    (hplace : place = origin.behind before) : Covers origin before source.toList ts := by
  obtain ⟨own, rfl, hcovers⟩ := covers_tokens h
  exact hcovers origin before hplace

/-- **The tokens of a text cover it.**  Whatever place a text begins at, if it is cut into tokens
then it consists of their spellings with blanks and comments between them; the last token is the
end, and no other token is empty.  Every token has the place of its first character, and tells
whether there is a line feed in what is before it.  The source of every hole, however deep it is
nested, is a piece of the text, and if it is cut into tokens then these have the places that their
characters have in the whole text. -/
theorem tokens_cover_source {place : Place} {source : String} {ts : List Token}
    (h : tokenizeAt place source = .ok ts) :
    Covers place [] source.toList ts ∧
      ∀ hole inner, Nested place source hole inner →
        ∃ before after, source.toList = before ++ inner.toList ++ after ∧
          hole = place.behind before ∧
          ∀ ts', tokenizeAt hole inner = .ok ts' → Covers place before inner.toList ts' := by
  refine ⟨covers_tokenizeAt h (Place.behind_nil place).symm, fun hole inner hnested => ?_⟩
  have hpiece : ∃ before after, source.toList = before ++ inner.toList ++ after ∧
      hole = place.behind before := by
    induction hnested with
    | outer hhole =>
      obtain ⟨ts', hts', t, ht, hmem⟩ := hhole
      exact (covers_tokenizeAt hts' (Place.behind_nil place).symm).hole ht hmem
    | deeper _ hhole ih =>
      obtain ⟨before, after, hsource, hplace⟩ := ih
      obtain ⟨ts', hts', t, ht, hmem⟩ := hhole
      obtain ⟨s, s', hinner, hhole⟩ := (covers_tokenizeAt hts' hplace).hole ht hmem
      refine ⟨before ++ s, s' ++ after, ?_, hhole⟩
      rw [hsource, hinner]
      simp only [List.append_assoc]
  obtain ⟨before, after, hsource, hplace⟩ := hpiece
  exact ⟨before, after, hsource, hplace, fun ts' hts' => covers_tokenizeAt hts' hplace⟩

/-- A comment over two lines, and a hole in a hole. -/
theorem tokens_cover_source_nested :
    let source := "a /* 1\n */ + `x$\x7b `$\x7bb\x7d` \x7d` // c"
    ∃ ts, tokenizeAt ⟨3, 5⟩ source = .ok ts ∧ Covers ⟨3, 5⟩ [] source.toList ts ∧
      Nested ⟨3, 5⟩ source ⟨4, 15⟩ "b" ∧
      ∃ before after, source.toList = before ++ "b".toList ++ after ∧
        (⟨4, 15⟩ : Place) = Place.behind ⟨3, 5⟩ before := by
  intro source
  have hok : (tokenizeAt ⟨3, 5⟩ source).isOk = true := by decide +kernel
  have houter : HoleOf ⟨3, 5⟩ source ⟨4, 11⟩ " `$\x7bb\x7d` " := by decide +kernel
  have hinner : HoleOf ⟨4, 11⟩ " `$\x7bb\x7d` " ⟨4, 15⟩ "b" := by decide +kernel
  have hnested : Nested ⟨3, 5⟩ source ⟨4, 15⟩ "b" := .deeper (.outer houter) hinner
  cases hts : tokenizeAt ⟨3, 5⟩ source with
  | error e => simp [hts, Except.isOk, Except.toBool] at hok
  | ok ts =>
    have hcover := tokens_cover_source hts
    obtain ⟨before, after, hsource, hplace, -⟩ := hcover.2 _ _ hnested
    exact ⟨ts, rfl, hcover.1, hnested, before, after, hsource, hplace⟩

end BrowserLab.Script
