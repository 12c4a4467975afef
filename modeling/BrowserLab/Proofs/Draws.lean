import BrowserLab.Backend

/-!
# What depends on draws

Two sources `Agree` if the same numbers are drawn from both, until those that they have in common
are spent.  A computation is `Stable` if nothing but the numbers that it draws makes a difference to
it: from sources that agree comes the same, after equally many draws, unless more has been drawn
than they have in common.

* `Backend.stable_respond`: the backend is stable.
-/

namespace BrowserLab

namespace Draws

/-- The source after some draws. -/
def skip (d : Draws) (n : Nat) : Draws := { d with position := d.position + n }

@[simp] theorem skip_skip (d : Draws) (n k : Nat) : (d.skip n).skip k = d.skip (n + k) := by
  rw [skip, skip, skip, Nat.add_assoc]

/-- The same numbers are drawn from both sources until the first one is spent. -/
def Agree (spent : Draws → Prop) (d d' : Draws) : Prop :=
  ∀ i, ¬ spent (d.skip (i + 1)) → d'.source (d'.position + i) = d.source (d.position + i)

theorem Agree.refl (spent : Draws → Prop) (d : Draws) : Agree spent d d := fun _ _ => rfl

variable {spent : Draws → Prop}

theorem Agree.skip {d d' : Draws} (h : Agree spent d d') (n : Nat) :
    Agree spent (d.skip n) (d'.skip n) := by
  intro i hi
  rw [skip_skip, ← Nat.add_assoc] at hi
  have := h (n + i) hi
  rw [← Nat.add_assoc, ← Nat.add_assoc] at this
  exact this

/-- The same numbers come from both sources while the first one goes on to `last`. -/
def AlikeUntil (d d' last : Draws) : Prop :=
  ∀ i, d.position + i < last.position → d'.source (d'.position + i) = d.source (d.position + i)

theorem AlikeUntil.skip {d d' last : Draws} (h : AlikeUntil d d' last) (n : Nat) :
    AlikeUntil (d.skip n) (d'.skip n) last := by
  intro i hi
  have := h (n + i) (by rw [← Nat.add_assoc]; exact hi)
  rw [← Nat.add_assoc, ← Nat.add_assoc] at this
  exact this

theorem AlikeUntil.agree {d d' last : Draws} (h : AlikeUntil d d' last) :
    Agree (fun c => last.position < c.position) d d' :=
  fun i hi => h i (Nat.lt_of_succ_le (Nat.not_lt.mp hi))

/-- A source that is spent remains so. -/
def Lasting (spent : Draws → Prop) : Prop := ∀ d n, spent d → spent (d.skip n)

/-- From sources that agree comes the same after equally many draws, unless the first one is then
spent. -/
def Stable {α : Type} (f : Draws → α × Draws) : Prop :=
  ∀ spent, Lasting spent → ∀ d d', Agree spent d d' →
    ∃ n a, f d = (a, d.skip n) ∧ (¬ spent (d.skip n) → f d' = (a, d'.skip n))

theorem Stable.pure {α : Type} (a : α) : Stable fun d => (a, d) :=
  fun _ _ _ _ _ => ⟨0, a, rfl, fun _ => rfl⟩

theorem Stable.bind {α β : Type} {f : Draws → α × Draws} {g : α → Draws → β × Draws}
    (hf : Stable f) (hg : ∀ a, Stable (g a)) :
    Stable fun d =>
      match f d with
      | (a, d) => g a d := by
  intro spent hlasting d d' h
  obtain ⟨n, a, hn, hn'⟩ := hf spent hlasting d d' h
  obtain ⟨k, b, hk, hk'⟩ := hg a spent hlasting _ _ (h.skip n)
  rw [skip_skip] at hk hk'
  refine ⟨n + k, b, ?_, fun hspent => ?_⟩
  · simp only [hn]
    exact hk
  · -- what was not spent at the end was not spent in between
    have hbetween : ¬ spent (d.skip n) := fun hs => by
      have := hlasting _ k hs
      rw [skip_skip] at this
      exact hspent this
    simp only [hn' hbetween]
    rw [skip_skip] at hk'
    exact hk' hspent

theorem Stable.map {α β : Type} {f : Draws → α × Draws} (hf : Stable f) (g : α → β) :
    Stable fun d =>
      match f d with
      | (a, d) => (g a, d) :=
  hf.bind fun a => .pure (g a)

theorem stable_next : Stable next := by
  intro spent _ d d' h
  refine ⟨1, d.source d.position, rfl, fun hspent => ?_⟩
  have h0 : d'.source d'.position = d.source d.position := h 0 hspent
  rw [next, h0]
  rfl

theorem stable_below (bound : Nat) : Stable fun d => d.below bound :=
  stable_next.map (· % bound)

theorem stable_manyBelow (bound : Nat) : ∀ count, Stable fun d => d.manyBelow bound count
  | 0 => .pure []
  | count + 1 =>
    (stable_below bound).bind fun n => (stable_manyBelow bound count).map (n :: ·)

theorem length_manyBelow (d : Draws) (bound count : Nat) :
    (d.manyBelow bound count).1.length = count := by
  induction count generalizing d with
  | zero => rfl
  | succ count ih => exact congrArg Nat.succ (ih d.next.2)

theorem lt_of_mem_manyBelow {bound : Nat} (hbound : 0 < bound) (d : Draws) (count : Nat) :
    ∀ n ∈ (d.manyBelow bound count).1, n < bound := by
  induction count generalizing d with
  | zero =>
    intro n hn
    cases hn
  | succ count ih => exact List.forall_mem_cons.mpr ⟨Nat.mod_lt _ hbound, ih d.next.2⟩

theorem stable_unit : Stable unit :=
  (stable_below (Nat.pow 2 53)).map fun n => Float.ofNat n / Float.ofNat (Nat.pow 2 53)

end Draws

namespace Backend

theorem stable_token : Draws.Stable token :=
  (Draws.stable_manyBelow 36 6).map fun ns =>
    "mock_jwt_access_token_" ++ String.ofList (ns.map fun n => tokenAlphabet.getD n '0')

theorem stable_serve (method url : String) (body : Option Json) (headers : Dict Json) :
    Draws.Stable (serve method url body headers) := by
  unfold serve
  split
  · exact stable_token.map fun text => (⟨200, .obj [("access_token", .str text),
      ("expires_in", .int 3600), ("refresh_token", .str "mock_refresh_token"),
      ("token_type", .str "Bearer")]⟩ : Response)
  · split
    · split
      · exact .pure _
      · exact .pure _
    · split
      · exact (Draws.stable_below 1000).map fun id => (⟨201, echo body id⟩ : Response)
      · exact .pure _

/-- Nothing but the numbers drawn makes a difference to an answer, besides the request and the
interceptions. -/
theorem stable_respond (method url : String) (body : Option Json) (headers : Dict Json)
    (interceptions : List Interception) :
    Draws.Stable (respond method url body headers interceptions) := by
  unfold respond
  cases covering? method url interceptions with
  | some i => exact .pure _
  | none => exact stable_serve _ _ _ _

end Backend

end BrowserLab
