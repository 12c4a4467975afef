import BrowserLab.Script.Parser

/-!
# Rules on streams of tokens

What the rules of the grammar do when they succeed, one lemma for each way in which they can.  A
stream is taken apart from its beginning; what a rule leaves of it is what was behind the tokens
that it has taken.

* `Spelt ks ts rest`: the stream `ts` begins with tokens of the kinds `ks`, all on one line, and
  `rest` is behind them.
* `grip`: how tightly a token takes hold of the expression in front of it.
-/

namespace BrowserLab.Script

/-! ### Streams -/

/-- The stream begins with tokens of the given kinds on one line, and there are others behind. -/
def Spelt : List Token.Kind → List Token → List Token → Prop
  | [], ts, rest => ts = rest
  | k :: ks, ts, rest =>
    ∃ place mid, ts = ⟨k, place, false⟩ :: mid ∧ mid ≠ [] ∧ Spelt ks mid rest

theorem spelt_append {ks ks' : List Token.Kind} {ts rest : List Token} :
    Spelt (ks ++ ks') ts rest ↔ ∃ mid, Spelt ks ts mid ∧ Spelt ks' mid rest := by
  induction ks generalizing ts with
  | nil => simp [Spelt]
  | cons k ks ih =>
    simp only [List.cons_append, Spelt, ih]
    constructor
    · rintro ⟨place, mid, rfl, hmid, mid', hks, hks'⟩
      exact ⟨mid', ⟨place, mid, rfl, hmid, hks⟩, hks'⟩
    · rintro ⟨mid', ⟨place, mid, rfl, hmid, hks⟩, hks'⟩
      exact ⟨place, mid, rfl, hmid, mid', hks, hks'⟩

@[simp] theorem kindAt_nil (n : Nat) : kindAt [] n = .eof := by simp [kindAt]

@[simp] theorem kindAt_cons_zero (t : Token) (ts : List Token) : kindAt (t :: ts) 0 = t.kind := rfl

@[simp] theorem kindAt_cons_succ (t : Token) (ts : List Token) (n : Nat) :
    kindAt (t :: ts) (n + 1) = kindAt ts n := by
  simp [kindAt]

/-- A stream that is spelt begins with the first of the kinds. -/
theorem Spelt.kindAt_zero {k : Token.Kind} {ks : List Token.Kind} {ts rest : List Token}
    (h : Spelt (k :: ks) ts rest) : kindAt ts 0 = k := by
  obtain ⟨place, mid, rfl, -, -⟩ := h
  rfl

theorem Token.Kind.isPunct_eq_false {k : Token.Kind} {p : String} (h : k ≠ .punct p) :
    k.isPunct p = false := by
  cases k with
  | punct q =>
    rw [isPunct, beq_eq_false_iff_ne]
    exact fun hq => h (by rw [hq])
  | _ => rfl

/-- A test that tells the token from a mark shows that it is not this mark. -/
theorem Token.Kind.isPunct_of_test {test : Token.Kind → Bool} {b : Bool} {k : Token.Kind}
    (h : test k = b) {p : String} (hp : test (.punct p) = !b) : k.isPunct p = false := by
  refine isPunct_eq_false fun hk => ?_
  rw [hk, hp] at h
  cases b <;> cases h

theorem Token.Kind.isWord_eq_false {k : Token.Kind} {w : String} (h : k ≠ .word w) :
    k.isWord w = false := by
  cases k with
  | word v =>
    rw [isWord, beq_eq_false_iff_ne]
    exact fun hv => h (by rw [hv])
  | _ => rfl

/-- How tightly a token takes hold of the expression in front of it: infix operators by their
tightness, then the marks behind an operand, then those that continue a chain.  A token that can
only stand behind an expression takes no hold of it, and one that cannot stand there is out of
reach. -/
def grip (k : Token.Kind) : Nat :=
  match Parse.infix? k with
  | some (tightness, _) => tightness
  | none =>
    match k with
    | .punct p =>
      if p ∈ ["++", "--"] then 12
      else if p ∈ ["(", "?."] then 13
      else if p ∈ [".", "["] then 14
      else if p ∈ [")", "]", "\x7d", ",", ":", ";", "?", "=", "+=", "-=", "*=", "/="] then 0
      else 15
    | .eof => 0
    | _ => 15

/-- The token ends the expression in front of it. -/
def closes (k : Token.Kind) : Bool :=
  match k with
  | .punct p => [")", "]", "\x7d", ",", ":", ";"].contains p
  | .eof => true
  | _ => false

namespace Parse

variable {α β : Type}

/-! ### Putting rules together -/

/-- One rule and then another. -/
theorem run_bind {x : Parse α} {f : α → Parse β} {ts rest : List Token} {a : α}
    (h : x ts = .ok (a, rest)) : (x >>= f) ts = f a rest := by
  show StateT.bind x f ts = _
  unfold StateT.bind
  rw [h]
  rfl

theorem run_map {x : Parse α} {f : α → β} {ts rest : List Token} {a : α}
    (h : x ts = .ok (a, rest)) : (f <$> x) ts = .ok (f a, rest) := by
  show StateT.map f x ts = _
  unfold StateT.map
  rw [h]
  rfl

theorem run_pure (a : α) (ts : List Token) : (pure a : Parse α) ts = .ok (a, ts) := rfl

theorem run_get (ts : List Token) : (get : Parse (List Token)) ts = .ok (ts, ts) := rfl

theorem run_peek (ts : List Token) : peek ts = .ok (ts.headD ⟨.eof, .start, false⟩, ts) := rfl

theorem run_peek_cons (t : Token) (ts : List Token) : peek (t :: ts) = .ok (t, t :: ts) := rfl

theorem kind_headD (ts : List Token) : (ts.headD ⟨.eof, .start, false⟩).kind = kindAt ts 0 := by
  cases ts <;> rfl

theorem run_kind (ts : List Token) : kind ts = .ok (kindAt ts 0, ts) := rfl

theorem run_isPunct (p : String) (ts : List Token) :
    isPunct p ts = .ok ((kindAt ts 0).isPunct p, ts) := rfl

theorem run_advance {t : Token} {ts : List Token} (h : ts ≠ []) :
    advance (t :: ts) = .ok ((), ts) := by
  cases ts with
  | nil => exact absurd rfl h
  | cons t ts => rfl

theorem run_eatPunct {p : String} {place : Place} {ts : List Token} (h : ts ≠ []) :
    eatPunct p (⟨.punct p, place, false⟩ :: ts) = .ok (true, ts) := by
  have hfound : isPunct p (⟨.punct p, place, false⟩ :: ts) =
      .ok (true, ⟨.punct p, place, false⟩ :: ts) := by
    rw [run_isPunct]
    simp [Token.Kind.isPunct]
  rw [eatPunct, run_bind hfound]
  exact run_bind (f := fun _ => pure true) (run_advance h)

theorem run_eatPunct_not {p : String} {ts : List Token} (h : (kindAt ts 0).isPunct p = false) :
    eatPunct p ts = .ok (false, ts) := by
  rw [eatPunct, run_bind (run_isPunct p ts), h]
  rfl

theorem run_expectPunct {p : String} {place : Place} {ts : List Token} (h : ts ≠ []) :
    expectPunct p (⟨.punct p, place, false⟩ :: ts) = .ok ((), ts) := by
  rw [expectPunct, run_bind (run_eatPunct h)]
  rfl

theorem run_identifier {w : String} {place : Place} {ts : List Token} (hw : isReserved w = false)
    (h : ts ≠ []) : identifier (⟨.word w, place, false⟩ :: ts) = .ok (w, ts) := by
  rw [identifier, run_bind (run_kind _)]
  simp only [kindAt_cons_zero, hw]
  exact run_bind (f := fun _ => pure w) (run_advance h)

theorem run_propertyName {w : String} {place : Place} {ts : List Token} (h : ts ≠ []) :
    propertyName (⟨.word w, place, false⟩ :: ts) = .ok (w, ts) := by
  rw [propertyName, run_bind (run_kind _)]
  exact run_bind (f := fun _ => pure w) (run_advance h)

end Parse

end BrowserLab.Script
