import BrowserLab.Proofs.Script.Grammar.Stream
import BrowserLab.Proofs.Script.Token.Ends

/-!
# Rules that come to an end

Two runs of a rule, with different fuel, are compared on one stream.  They settle if they come to the
same end: both leave the same end of the stream, which is not empty, or both fail, and then not for
want of fuel.  A rule is in front as long as it has taken nothing.  With the first token that it
takes there is so much less to read that the fuel that is left is enough for every rule.

* `Settles`: what two runs come to on a stream, and whether they have taken something.
* `Takes`, `Safe`: on every stream for which the fuel is enough, in front and behind.
* `Front`: nothing has been taken yet.
-/

namespace BrowserLab.Script

/-- Behind every token that is not the end there is another one. -/
theorem Ended.exists_tail {ts : List Token} (hts : Ended ts) (hkind : kindAt ts 0 ≠ .eof) :
    ∃ t rest, ts = t :: rest ∧ kindAt ts 0 = t.kind ∧ Ended rest := by
  obtain ⟨_ | ⟨t, body⟩, eof, rfl, heof, hbody⟩ := hts
  · exact absurd heof hkind
  · exact ⟨t, body ++ [eof], rfl, rfl, body, eof, rfl, heof,
      fun t ht => hbody t (List.mem_cons_of_mem _ ht)⟩

theorem Ended.eq_singleton {ts : List Token} (hts : Ended ts) (heof : kindAt ts 0 = .eof) :
    ∃ eof, ts = [eof] ∧ eof.kind = .eof := by
  obtain ⟨_ | ⟨t, body⟩, eof, rfl, heof', hbody⟩ := hts
  · exact ⟨eof, rfl, heof'⟩
  · exact absurd heof (hbody t List.mem_cons_self)

theorem weight_pos {ts : List Token} (hts : Ended ts) : 0 < weight ts :=
  Nat.lt_of_lt_of_le (List.length_pos_iff.mpr hts.ne_nil) (length_le_weight ts)

theorem weight_le_of_suffix {ts rest : List Token} (h : rest <:+ ts) : weight rest ≤ weight ts := by
  obtain ⟨before, rfl⟩ := h
  rw [weight_append]
  exact Nat.le_add_left _ _

theorem weightOf_kindAt {ts : List Token} {chunks : List Chunk}
    (h : kindAt ts 0 = .template chunks) : weightOf chunks + 1 ≤ weight ts := by
  cases ts with
  | nil => cases h
  | cons t ts =>
    have h : t.kind = .template chunks := h
    rw [weight_cons, h]
    exact Nat.le_add_right _ _

namespace Token.Kind

variable {k : Token.Kind}

theorem ne_eof_of_isPunct {p : String} (h : k.isPunct p = true) : k ≠ .eof := by
  rintro rfl
  cases h

theorem ne_eof_of_isWord {w : String} (h : k.isWord w = true) : k ≠ .eof := by
  rintro rfl
  cases h

theorem eq_eof_of_isEof (h : k.isEof = true) : k = .eof := by
  cases k <;> first | rfl | cases h

end Token.Kind

namespace Parse

/-- What is left of a stream, and whether something has been taken. -/
structure Left (take : Bool) (ts rest : List Token) : Prop where
  suffix : rest <:+ ts
  ne_nil : rest ≠ []
  lighter : take = true → weight rest < weight ts

/-- Both runs come to the same end on the stream. -/
def Settles {α : Type} (take : Bool) (x y : Parse α) (ts : List Token) : Prop :=
  y ts = x ts ∧
    match x ts with
    | .ok (_, rest) => Left take ts rest
    | .error e => e.cause ≠ .tooDeep

/-- On every stream for which fuel `b` is enough, both runs come to the same end. -/
def Safe {α : Type} (b : Nat) (x y : Parse α) : Prop :=
  ∀ ts, Ended ts → 16 * weight ts + 15 ≤ b → Settles false x y ts

/-- On every stream for which fuel `b` is enough, both runs come to the same end, and have taken
something if they succeed.  The rank tells apart the rules that call each other before they take a
token. -/
def Takes {α : Type} (b rank : Nat) (x y : Parse α) : Prop :=
  ∀ ts, Ended ts → 16 * weight ts + rank ≤ b → Settles true x y ts

/-- Nothing has been taken, and fuel `b` is enough for every rule behind the next token. -/
structure Front (b : Nat) (ts : List Token) : Prop where
  ended : Ended ts
  enough : 16 * weight ts ≤ b + 1

variable {α β : Type} {b rank : Nat} {take : Bool} {x y : Parse α} {f g : α → Parse β}
  {ts rest : List Token} {e : SyntaxError}

/-! ### What is left -/

namespace Left

theorem refl (hts : ts ≠ []) : Left false ts ts := ⟨List.suffix_refl ts, hts, nofun⟩

theorem ended (h : Left take ts rest) (hts : Ended ts) : Ended rest := hts.suffix h.suffix h.ne_nil

theorem weight_le (h : Left take ts rest) : weight rest ≤ weight ts := weight_le_of_suffix h.suffix

/-- Something has been taken in the first part or in the second. -/
theorem trans {take' : Bool} {rest' : List Token} (h : Left take ts rest)
    (h' : Left take' rest rest') : Left (take || take') ts rest' := by
  refine ⟨h'.suffix.trans h.suffix, h'.ne_nil, fun htake => ?_⟩
  rcases Bool.or_eq_true _ _ ▸ htake with htake | htake
  · exact Nat.lt_of_le_of_lt h'.weight_le (h.lighter htake)
  · exact Nat.lt_of_lt_of_le (h'.lighter htake) h.weight_le

theorem of_true (h : Left true ts rest) : Left take ts rest :=
  ⟨h.suffix, h.ne_nil, fun _ => h.lighter rfl⟩

theorem tail {t : Token} (hrest : Ended rest) : Left true (t :: rest) rest := by
  refine ⟨List.suffix_cons t rest, hrest.ne_nil, fun _ => ?_⟩
  rw [weight_cons]
  omega

/-- There are fewer tokens left. -/
theorem length_lt (h : Left true ts rest) : rest.length < ts.length := by
  obtain ⟨before, rfl⟩ := h.suffix
  have hlighter := h.lighter rfl
  cases before with
  | nil => exact absurd hlighter (Nat.lt_irrefl _)
  | cons t before =>
    rw [List.length_append, List.length_cons]
    omega

end Left

/-! ### Putting rules together -/

namespace Settles

theorem of_true (h : Settles true x y ts) : Settles take x y ts := by
  refine ⟨h.1, ?_⟩
  have h := h.2
  split at h
  · exact h.of_true
  · exact h

/-- A rule that succeeds without fuel. -/
theorem run {a : α} (hx : x ts = .ok (a, rest)) (hrest : Left take ts rest) :
    Settles take x x ts := by
  refine ⟨rfl, ?_⟩
  rw [hx]
  exact hrest

theorem pure (a : α) (hts : Ended ts) :
    Settles false (Pure.pure a : Parse α) (Pure.pure a) ts := ⟨rfl, .refl hts.ne_nil⟩

theorem bind {take' : Bool} (hx : Settles take x y ts)
    (hf : ∀ a rest, Left take ts rest → Settles take' (f a) (g a) rest) :
    Settles (take || take') (x >>= f) (y >>= g) ts := by
  have hrun (z : Parse α) (q : α → Parse β) :
      (z >>= q) ts = Except.bind (z ts) fun r => q r.1 r.2 := rfl
  obtain ⟨hsame, hx⟩ := hx
  rw [Settles, hrun, hrun, hsame]
  cases h : x ts with
  | error e =>
    rw [h] at hx
    exact ⟨rfl, hx⟩
  | ok r =>
    obtain ⟨a, rest⟩ := r
    rw [h] at hx
    obtain ⟨hsame', hf⟩ := hf a rest hx
    refine ⟨hsame', ?_⟩
    show match f a rest with
      | .ok (_, rest') => Left (take || take') ts rest'
      | .error e => e.cause ≠ .tooDeep
    split at hf
    · exact hx.trans hf
    · exact hf

/-- A rule that only looks at the stream. -/
theorem look {a : α} (hx : x ts = .ok (a, ts)) (hf : Settles take (f a) (g a) ts) :
    Settles take (x >>= f) (x >>= g) ts := by
  rw [Settles, run_bind hx, run_bind hx]
  exact hf

/-- The rule in front has taken something, so any rule can follow. -/
theorem next (hx : Settles true x y ts) (h : Front b ts) (hf : ∀ a, Safe b (f a) (g a)) :
    Settles take (x >>= f) (y >>= g) ts := by
  have hf (a : α) (rest : List Token) (hrest : Left true ts rest) :
      Settles false (f a) (g a) rest := by
    have hlighter := hrest.lighter rfl
    have henough := h.enough
    exact hf a rest (hrest.ended h.ended) (by omega)
  exact of_true (hx.bind hf)

/-- Something with a known value has been taken. -/
theorem took {a : α} (hx : x ts = .ok (a, rest)) (hrest : Left true ts rest) (h : Front b ts)
    (hf : Safe b (f a) (g a)) : Settles take (x >>= f) (x >>= g) ts := by
  have hlighter := hrest.lighter rfl
  have henough := h.enough
  have hf := hf rest (hrest.ended h.ended) (by omega)
  rw [Settles, run_bind hx, run_bind hx]
  refine ⟨hf.1, ?_⟩
  have hf := hf.2
  split at hf
  · exact (hrest.trans hf).of_true
  · exact hf

theorem map (hx : Settles take x y ts) (hts : Ended ts) (q : α → β) :
    Settles take (q <$> x) (q <$> y) ts := by
  have hq := hx.bind fun a rest hrest => pure (q a) (hrest.ended hts)
  rwa [Bool.or_false] at hq

end Settles

namespace Safe

theorem of (h : ∀ ts, Ended ts → Settles take x y ts) : Safe b x y := by
  intro ts hts _
  have h := h ts hts
  refine ⟨h.1, ?_⟩
  have h := h.2
  split at h
  · exact ⟨h.suffix, h.ne_nil, nofun⟩
  · exact h

theorem zero : Safe 0 x y := by
  intro ts _ hb
  omega

theorem pure (a : α) : Safe b (Pure.pure a : Parse α) (Pure.pure a) := fun _ hts _ => .pure a hts

theorem bind (hx : Safe b x y) (hf : ∀ a, Safe b (f a) (g a)) : Safe b (x >>= f) (y >>= g) := by
  intro ts hts hb
  refine (hx ts hts hb).bind fun a rest hrest => ?_
  have hle := hrest.weight_le
  exact hf a rest (hrest.ended hts) (by omega)

theorem map (hx : Safe b x y) (q : α → β) : Safe b (q <$> x) (q <$> y) :=
  fun ts hts hb => (hx ts hts hb).map hts q

theorem ite {c : Prop} [Decidable c] {x' y' : Parse α} (hx : Safe b x y) (hx' : Safe b x' y') :
    Safe b (if c then x else x') (if c then y else y') := by
  split
  · exact hx
  · exact hx'

/-- Two ways to a value with which the rule goes on. -/
theorem choice {c : Prop} [Decidable c] {x' y' : Parse α} (hx : Safe b x y) (hx' : Safe b x' y')
    (hf : ∀ a, Safe b (f a) (g a)) :
    Safe b (if c then x >>= f else x' >>= f) (if c then y >>= g else y' >>= g) :=
  .ite (hx.bind hf) (hx'.bind hf)

/-- Behind the next token the fuel of another round is enough. -/
theorem front (hts : Ended ts) (hb : 16 * weight ts + 15 ≤ b) : Front (b - 16) ts :=
  ⟨hts, by omega⟩

end Safe

namespace Takes

theorem safe (h : Takes b rank x y) (hrank : rank ≤ 15) : Safe b x y :=
  fun ts hts hb => (h ts hts (by omega)).of_true

theorem mono {b' : Nat} (h : Takes b rank x y) (hb : b' ≤ b) : Takes b' rank x y :=
  fun ts hts hb' => h ts hts (Nat.le_trans hb' hb)

theorem map (h : Takes b rank x y) (q : α → β) : Takes b rank (q <$> x) (q <$> y) :=
  fun ts hts hb => (h ts hts hb).map hts q

/-- A rule that perhaps takes something comes first. -/
theorem after {x : Parse α} {f g : α → Parse β} (hx : ∀ {b : Nat}, Safe b x x)
    (hf : ∀ a, Takes b rank (f a) (g a)) : Takes b rank (x >>= f) (x >>= g) := by
  intro ts hts hb
  have hf (a : α) (rest : List Token) (hrest : Left false ts rest) :
      Settles true (f a) (g a) rest := by
    have hle := hrest.weight_le
    exact hf a rest (hrest.ended hts) (by omega)
  exact (hx ts hts (Nat.le_refl _)).bind hf

/-- A rule that perhaps goes on behind another one. -/
theorem first {c : Prop} [Decidable c] {x : Parse α} {y z : Parse β}
    (hx : ∀ {b : Nat}, Safe b x x) (h : Takes b rank y z) :
    Takes b rank (if c then x >>= fun _ => y else y) (if c then x >>= fun _ => z else z) := by
  split
  · exact .after hx fun _ => h
  · exact h

theorem zero : Takes 0 rank x y := by
  intro ts hts hb
  have hpos := weight_pos hts
  omega

end Takes

/-! ### One token -/

theorem settles_fail {cause : SyntaxCause} (hcause : cause ≠ .tooDeep) :
    Settles take (fail cause : Parse α) (fail cause) ts := ⟨rfl, hcause⟩

theorem settles_unexpected : Settles take (unexpected : Parse α) unexpected ts := ⟨rfl, nofun⟩

theorem safe_fail {cause : SyntaxCause} (hcause : cause ≠ .tooDeep) :
    Safe b (fail cause : Parse α) (fail cause) := fun _ _ _ => settles_fail hcause

theorem safe_unexpected : Safe b (unexpected : Parse α) unexpected :=
  fun _ _ _ => settles_unexpected

theorem safe_look {a : List Token → α} (hx : ∀ ts, x ts = .ok (a ts, ts)) : Safe b x x :=
  fun ts hts _ => .run (hx ts) (.refl hts.ne_nil)

theorem safe_peek : Safe b peek peek := safe_look run_peek

theorem safe_kind : Safe b kind kind := safe_look run_kind

theorem safe_isPunct (p : String) : Safe b (isPunct p) (isPunct p) := safe_look (run_isPunct p)

/-- The next token is not the end and is taken. -/
theorem exists_advance (hts : Ended ts) (hkind : kindAt ts 0 ≠ .eof) :
    ∃ rest, advance ts = .ok ((), rest) ∧ Left true ts rest := by
  obtain ⟨t, rest, rfl, -, hrest⟩ := hts.exists_tail hkind
  exact ⟨rest, run_advance hrest.ne_nil, .tail hrest⟩

/-- The end is not taken. -/
theorem advance_eof (hts : Ended ts) (hkind : kindAt ts 0 = .eof) : advance ts = .ok ((), ts) := by
  obtain ⟨eof, rfl, -⟩ := hts.eq_singleton hkind
  rfl

theorem safe_advance : Safe b advance advance := by
  intro ts hts _
  by_cases hkind : kindAt ts 0 = .eof
  · exact .run (advance_eof hts hkind) (.refl hts.ne_nil)
  · obtain ⟨rest, hrun, hrest⟩ := exists_advance hts hkind
    exact .run hrun hrest.of_true

theorem Settles.advance {f g : Unit → Parse β} (h : Front b ts) (hkind : kindAt ts 0 ≠ .eof)
    (hf : Safe b (f ()) (g ())) : Settles take (advance >>= f) (advance >>= g) ts := by
  obtain ⟨rest, hrun, hrest⟩ := exists_advance h.ended hkind
  exact .took hrun hrest h hf

/-- A token that is known not to be the end is taken. -/
theorem Settles.advance_of_kind {f g : Unit → Parse β} (h : Front b ts) {kind : Token.Kind}
    (hkind : kindAt ts 0 = kind) (hne : kind ≠ .eof) (hf : Safe b (f ()) (g ())) :
    Settles take (Parse.advance >>= f) (Parse.advance >>= g) ts :=
  .advance h (hkind ▸ hne) hf

/-- A mark that is next is taken. -/
theorem exists_eatPunct {p : String} (hts : Ended ts) (hp : (kindAt ts 0).isPunct p = true) :
    ∃ rest, eatPunct p ts = .ok (true, rest) ∧ Left true ts rest := by
  obtain ⟨rest, hrun, hrest⟩ := exists_advance hts (Token.Kind.ne_eof_of_isPunct hp)
  refine ⟨rest, ?_, hrest⟩
  have hfound : isPunct p ts = .ok (true, ts) := by rw [run_isPunct, hp]
  rw [eatPunct, run_bind hfound]
  exact run_bind (f := fun _ => pure true) hrun

/-- A mark is taken, or the rule goes on without it. -/
theorem Settles.eatPunct {p : String} {f g : Bool → Parse β} (h : Front b ts)
    (hyes : Safe b (f true) (g true)) (hno : Settles take (f false) (g false) ts) :
    Settles take (eatPunct p >>= f) (eatPunct p >>= g) ts := by
  cases hp : (kindAt ts 0).isPunct p with
  | true =>
    obtain ⟨rest, hrun, hrest⟩ := exists_eatPunct h.ended hp
    exact .took hrun hrest h hyes
  | false => exact .look (run_eatPunct_not hp) hno

theorem safe_eatPunct (p : String) : Safe b (eatPunct p) (eatPunct p) := by
  intro ts hts _
  cases hp : (kindAt ts 0).isPunct p with
  | true =>
    obtain ⟨rest, hrun, hrest⟩ := exists_eatPunct hts hp
    exact .run hrun hrest.of_true
  | false => exact .run (run_eatPunct_not hp) (.refl hts.ne_nil)

theorem safe_eatWord (w : String) : Safe b (eatWord w) (eatWord w) :=
  safe_kind.bind fun _ => .ite (safe_advance.bind fun _ => .pure _) (.pure _)

theorem settles_expectPunct (p : String) (hts : Ended ts) :
    Settles true (expectPunct p) (expectPunct p) ts := by
  cases hp : (kindAt ts 0).isPunct p with
  | true =>
    obtain ⟨rest, hrun, hrest⟩ := exists_eatPunct hts hp
    have hdone : expectPunct p ts = .ok ((), rest) := by
      rw [expectPunct, run_bind hrun]
      rfl
    exact .run hdone hrest
  | false => exact .look (run_eatPunct_not hp) (.look (run_kind ts) (settles_fail (by simp)))

theorem safe_expectPunct (p : String) : Safe b (expectPunct p) (expectPunct p) :=
  .of fun _ => settles_expectPunct p

theorem settles_identifier (hts : Ended ts) : Settles true identifier identifier ts := by
  refine .look (run_kind ts) ?_
  split
  · rename_i w hkind
    split
    · exact settles_unexpected
    · obtain ⟨rest, hrun, hrest⟩ := exists_advance hts (by rw [hkind]; nofun)
      exact .run (a := w) (run_bind hrun) hrest
  · exact settles_unexpected

theorem settles_propertyName (hts : Ended ts) : Settles true propertyName propertyName ts := by
  refine .look (run_kind ts) ?_
  split
  · rename_i w hkind
    obtain ⟨rest, hrun, hrest⟩ := exists_advance hts (by rw [hkind]; nofun)
    exact .run (a := w) (run_bind hrun) hrest
  · exact settles_unexpected

theorem safe_identifier : Safe b identifier identifier := .of fun _ => settles_identifier

theorem safe_propertyName : Safe b propertyName propertyName := .of fun _ => settles_propertyName

theorem safe_semicolon : Safe b semicolon semicolon :=
  safe_peek.bind fun _ => .ite safe_advance (.ite (.pure _) safe_unexpected)

/-- The key word of a declaration is taken, or there is none. -/
theorem exists_declarationKind? (hts : Ended ts) :
    (∃ kind rest, declarationKind? ts = .ok (some kind, rest) ∧ Left true ts rest) ∨
      declarationKind? ts = .ok (none, ts) := by
  generalize hrun : declarationKind? ts = r
  have htook {kind : DeclarationKind} {k : Token.Kind} (hkind : kindAt ts 0 = k) (hk : k ≠ .eof)
      (hrun : (advance >>= fun _ => pure (some kind)) ts = r) :
      ∃ kind rest, r = .ok (some kind, rest) ∧ Left true ts rest := by
    obtain ⟨rest, hadvance, hrest⟩ := exists_advance hts (hkind ▸ hk)
    exact ⟨kind, rest, hrun.symm.trans (run_bind hadvance), hrest⟩
  rw [declarationKind?, run_bind (run_kind ts)] at hrun
  generalize hkind : kindAt ts 0 = k at hrun
  split at hrun
  case h_4 => exact .inr hrun.symm
  all_goals exact .inl (htook hkind nofun hrun)

/-- The key word of a declaration is taken, or the rule goes on without it. -/
theorem Settles.declaration {f g : Option DeclarationKind → Parse β} (h : Front b ts)
    (hyes : ∀ kind, Safe b (f (some kind)) (g (some kind)))
    (hno : Settles take (f none) (g none) ts) :
    Settles take (declarationKind? >>= f) (declarationKind? >>= g) ts := by
  obtain ⟨kind, rest, hrun, hrest⟩ | hrun := exists_declarationKind? h.ended
  · exact .took hrun hrest h (hyes kind)
  · exact .look hrun hno

theorem safe_declarationKind? : Safe b declarationKind? declarationKind? := by
  refine safe_kind.bind fun k => ?_
  split
  case h_4 => exact .pure _
  all_goals exact safe_advance.bind fun _ => .pure _

/-! ### Repetition

The fuel of a loop is for its rounds, and every round takes a token. -/

theorem safe_items {close : String} (h : Takes b rank x y) (hrank : rank ≤ 15) {n k : Nat}
    (hn : b ≤ 16 * n) (hk : b ≤ 16 * k) (done : List α) :
    Safe b (items close x n done) (items close y k done) := by
  induction n generalizing b k done with
  | zero =>
    obtain rfl : b = 0 := Nat.le_zero.mp hn
    exact .zero
  | succ n ih =>
    intro ts hts hb
    obtain ⟨k, rfl⟩ : ∃ k', k = k' + 1 := ⟨k - 1, by omega⟩
    have hfront := Safe.front hts hb
    have ih (done : List α) : Safe (b - 16) (items close x n done) (items close y k done) :=
      ih (h.mono (Nat.sub_le _ _)) (by omega) (by omega) done
    rw [items, items]
    refine .eatPunct hfront (.pure _) ?_
    refine (h ts hts (by omega)).next hfront fun a => (safe_eatPunct ",").bind fun _ => ?_
    exact .ite (ih _) ((safe_expectPunct close).bind fun _ => .pure _)

theorem safe_itemsWithHoles {close : String} {hole : α} (h : Takes b rank x y) (hrank : rank ≤ 15)
    {n k : Nat} (hn : b ≤ 16 * n) (hk : b ≤ 16 * k) (done : List α) :
    Safe b (itemsWithHoles close hole x n done) (itemsWithHoles close hole y k done) := by
  induction n generalizing b k done with
  | zero =>
    obtain rfl : b = 0 := Nat.le_zero.mp hn
    exact .zero
  | succ n ih =>
    intro ts hts hb
    obtain ⟨k, rfl⟩ : ∃ k', k = k' + 1 := ⟨k - 1, by omega⟩
    have hfront := Safe.front hts hb
    have ih (done : List α) : Safe (b - 16) (itemsWithHoles close hole x n done)
        (itemsWithHoles close hole y k done) :=
      ih (h.mono (Nat.sub_le _ _)) (by omega) (by omega) done
    rw [itemsWithHoles, itemsWithHoles]
    refine .eatPunct hfront (.pure _) (.eatPunct hfront (ih _) ?_)
    refine (h ts hts (by omega)).next hfront fun a => (safe_eatPunct ",").bind fun _ => ?_
    exact .ite (ih _) ((safe_expectPunct close).bind fun _ => .pure _)

theorem safe_sequence (h : Takes b rank x y) (hrank : rank ≤ 15) {n k : Nat} (hn : b ≤ 16 * n)
    (hk : b ≤ 16 * k) (done : List α) : Safe b (sequence x n done) (sequence y k done) := by
  induction n generalizing b k done with
  | zero =>
    obtain rfl : b = 0 := Nat.le_zero.mp hn
    exact .zero
  | succ n ih =>
    intro ts hts hb
    obtain ⟨k, rfl⟩ : ∃ k', k = k' + 1 := ⟨k - 1, by omega⟩
    have hfront := Safe.front hts hb
    have ih (done : List α) : Safe (b - 16) (sequence x n done) (sequence y k done) :=
      ih (h.mono (Nat.sub_le _ _)) (by omega) (by omega) done
    rw [sequence, sequence]
    refine (h ts hts (by omega)).next hfront fun a => (safe_eatPunct ",").bind fun _ => ?_
    exact .ite (ih _) (.pure _)

/-- An import ends with the stream at the latest, so more rounds than tokens change nothing. -/
theorem skipImport_fuel {n k : Nat} (hts : Ended ts) (hn : ts.length ≤ n) (hk : ts.length ≤ k) :
    skipImport n ts = skipImport k ts := by
  induction n generalizing k ts with
  | zero => exact absurd (List.length_eq_zero_iff.mp (Nat.le_zero.mp hn)) hts.ne_nil
  | succ n ih =>
    have hpos := List.length_pos_iff.mpr hts.ne_nil
    obtain ⟨k, rfl⟩ : ∃ k', k = k' + 1 := ⟨k - 1, by omega⟩
    rw [skipImport, skipImport, run_bind (run_peek ts), run_bind (run_peek ts)]
    split
    · rfl
    · rename_i hkind
      split
      · rfl
      · rw [kind_headD] at hkind
        have hkind : kindAt ts 0 ≠ .eof := fun heof => hkind (by rw [heof]; rfl)
        obtain ⟨rest, hrun, hrest⟩ := exists_advance hts hkind
        have hlength := hrest.length_lt
        rw [run_bind hrun, run_bind hrun]
        exact ih (hrest.ended hts) (by omega) (by omega)

theorem safe_skipImport (n : Nat) : Safe b (skipImport n) (skipImport n) := by
  induction n with
  | zero => exact .pure _
  | succ n ih =>
    refine safe_peek.bind fun t => .ite (.pure _) (.ite safe_advance ?_)
    exact safe_advance.bind fun _ => ih

/-! ### Holes -/

/-- The expression in a hole is read on tokens of its own, and there is less to read in them than
in the hole. -/
theorem settles_hole {x y : Parse Expr} {source : String} {place : Place} (h : Takes b rank x y)
    (hb : 16 * (source.length + 1) + rank ≤ b) (hts : Ended ts) :
    Settles false (hole x source place) (hole y source place) ts := by
  unfold Settles hole
  cases htokens : tokenizeAt place source with
  | error e => exact ⟨rfl, ample_tokenizeAt htokens⟩
  | ok inner =>
    have hweight := weight_tokenizeAt htokens
    obtain ⟨hsame, hx⟩ := h inner (ended_tokenizeAt htokens) (by omega)
    dsimp only
    rw [hsame]
    refine ⟨rfl, ?_⟩
    cases hread : x inner with
    | error e =>
      rw [hread] at hx
      exact hx
    | ok r =>
      obtain ⟨e, rest⟩ := r
      dsimp only
      by_cases hend : (kindAt rest 0).isEof = true
      · rw [if_pos hend]
        exact .refl hts.ne_nil
      · rw [if_neg hend]
        exact nofun

end Parse
end BrowserLab.Script
