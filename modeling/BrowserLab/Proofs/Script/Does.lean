import BrowserLab.Proofs.Draws
import BrowserLab.Proofs.Script.Follows

/-!
# What a computation may do

Most computations work on the heap, and some move the browser.  `Does mayFail move` says that
nothing else is touched, that the browser is moved as `move` tells, and that it is left alone if the
computation fails: `Still` computations neither fail nor act, `Tame` ones do not act, those that
`Act` do not fail, and those that may do both are `Atomic`.

* `Browser.Moves`: a move of the browser, and which events may be announced by it.
* `Does.bind`, `Does.bindStill`: what does not act may come before an act, and what is still may
  come behind it.
-/

namespace BrowserLab.Script

/-- The browser has announced one event at most, which is as `may` tells, and no time has passed
before.  Its interceptions are those that it had and the one that it has announced, it may have
drawn numbers, and its style and its calls are the same. -/
structure Browser.Moves (may : Event → Prop) (b b' : Browser) : Prop where
  style : b'.style = b.style
  calls : b'.calls = b.calls
  announced : ∃ es : List Event, es.length ≤ 1 ∧ (∀ e ∈ es, may e) ∧
    b'.timeline.toList = b.timeline.toList ++ es.map (b.clock, ·) ∧
    b'.interceptions = b.interceptions ++ es.filterMap (·.interception)
  clock : b.clock ≤ b'.clock
  draws : ∃ n, b'.draws = b.draws.skip n

/-- The computation changes the heap and the browser only.  It comes to a value after it has moved
the browser; or, if it may fail, it has thrown a value and left the browser alone. -/
def Does (mayFail : Bool) (move : Browser → Browser → Prop) {α : Type} (x : Eval α) : Prop :=
  ∀ m, ∃ r heap browser, x.runOn m = (r, { m with heap, browser }) ∧
    match r with
    | .ok _ => move m.browser browser
    | .error (.thrown _) => mayFail = true ∧ m.browser = browser
    | .error .exhausted => False

/-- The computation comes to a value and leaves the browser alone. -/
abbrev Still {α : Type} (x : Eval α) : Prop := Does false Eq x

/-- The computation comes to a value after one move of the browser. -/
abbrev Acts (may : Event → Prop) {α : Type} (x : Eval α) : Prop := Does false (Browser.Moves may) x

/-- The computation leaves the browser alone, whether it comes to a value or fails. -/
abbrev Tame {α : Type} (x : Eval α) : Prop := Does true Eq x

/-- The computation moves the browser once, or fails and leaves it alone. -/
abbrev Atomic (may : Event → Prop) {α : Type} (x : Eval α) : Prop :=
  Does true (Browser.Moves may) x

variable {α β : Type} {may may' : Event → Prop} {mayFail : Bool}
  {move move' : Browser → Browser → Prop}

/-! ### Moves -/

namespace Browser.Moves

variable {b b' : Browser}

/-- Nothing is announced. -/
theorem silent (hstyle : b'.style = b.style) (hcalls : b'.calls = b.calls)
    (htimeline : b'.timeline = b.timeline) (hinterceptions : b'.interceptions = b.interceptions)
    (hclock : b.clock ≤ b'.clock) (hdraws : ∃ n, b'.draws = b.draws.skip n) : b.Moves may b' :=
  ⟨hstyle, hcalls, ⟨[], by simp, by simp, by simp [htimeline], by simp [hinterceptions]⟩, hclock,
    hdraws⟩

instance : Std.Refl (Browser.Moves may) :=
  ⟨fun _ => .silent rfl rfl rfl rfl (Nat.le_refl _) ⟨0, rfl⟩⟩

/-- One event is announced, and then some time passes. -/
theorem told {e : Event} (he : may e) (hnone : e.interception = none) (delay : Nat) :
    b.Moves may
      { b with timeline := b.timeline.push (b.clock, e), clock := b.clock + delay } :=
  ⟨rfl, rfl, ⟨[e], by simp, by simpa using he, by simp, by simp [hnone]⟩, Nat.le_add_right _ _,
    ⟨0, rfl⟩⟩

theorem mono (h : b.Moves may b') (hmay : ∀ e, may e → may' e) : b.Moves may' b' := by
  obtain ⟨es, hlength, hes, htold⟩ := h.announced
  exact ⟨h.style, h.calls, ⟨es, hlength, fun e he => hmay e (hes e he), htold⟩, h.clock, h.draws⟩

end Browser.Moves

/-! ### Putting computations together -/

namespace Does

/-- What leaves the browser alone neither fails nor acts. -/
theorem still [Std.Refl move] {x : Eval α}
    (hx : ∀ m, ∃ a heap, x.runOn m = (.ok a, { m with heap })) : Does mayFail move x := by
  intro m
  obtain ⟨a, heap, hrun⟩ := hx m
  exact ⟨_, heap, m.browser, hrun, Std.Refl.refl m.browser⟩

theorem pure [Std.Refl move] (a : α) : Does mayFail move (pure a : Eval α) :=
  still fun m => ⟨a, m.heap, rfl⟩

/-- What leaves the browser alone may come first. -/
theorem bind {x : Eval α} {f : α → Eval β} (hx : Does mayFail Eq x)
    (hf : ∀ a, Does mayFail move (f a)) : Does mayFail move (x >>= f) := by
  intro m
  obtain ⟨r, heap, browser, hrun, hr⟩ := hx m
  rw [Eval.runOn_bind, hrun]
  match r, hr with
  | .ok a, hr =>
    obtain rfl : m.browser = browser := hr
    exact hf a _
  | .error (.thrown v), hr => exact ⟨_, heap, browser, rfl, hr⟩
  | .error .exhausted, hr => exact hr.elim

/-- What is still may come behind. -/
theorem bindStill {x : Eval α} {f : α → Eval β} (hx : Does mayFail move x)
    (hf : ∀ a, Still (f a)) : Does mayFail move (x >>= f) := by
  intro m
  obtain ⟨r, heap, browser, hrun, hr⟩ := hx m
  rw [Eval.runOn_bind, hrun]
  match r, hr with
  | .ok a, hr =>
    obtain ⟨r', heap', browser', hrun', hr'⟩ := hf a { m with heap, browser }
    refine ⟨r', heap', browser', hrun', ?_⟩
    match r', hr' with
    | .ok b, hr' =>
      obtain rfl : browser = browser' := hr'
      exact hr
    | .error (.thrown _), hr' => exact absurd hr'.1 Bool.false_ne_true
    | .error .exhausted, hr' => exact hr'.elim
  | .error (.thrown v), hr => exact ⟨_, heap, browser, rfl, hr⟩
  | .error .exhausted, hr => exact hr.elim

/-- What moves the browser in a narrower way, and does not fail, may be said to do more. -/
theorem mono {x : Eval α} (hx : Does mayFail move x) (hmove : ∀ {b b'}, move b b' → move' b b') :
    Does true move' x := by
  intro m
  obtain ⟨r, heap, browser, hrun, hr⟩ := hx m
  refine ⟨r, heap, browser, hrun, ?_⟩
  match r, hr with
  | .ok a, hr => exact hmove hr
  | .error (.thrown _), hr => exact ⟨rfl, hr.2⟩
  | .error .exhausted, hr => exact hr

theorem atomic {x : Eval α} (hx : Acts may x) : Atomic may x := hx.mono fun h => h

/-- The browser has been moved once, if at all. -/
theorem moves {x : Eval α} (hx : Atomic may x) (m : Machine) :
    ∃ r heap browser, x.runOn m = (r, { m with heap, browser }) ∧
      m.browser.Moves may browser := by
  obtain ⟨r, heap, browser, hrun, hr⟩ := hx m
  refine ⟨r, heap, browser, hrun, ?_⟩
  match r, hr with
  | .ok _, hr => exact hr
  | .error (.thrown _), hr =>
    obtain rfl : m.browser = browser := hr.2
    exact Std.Refl.refl _
  | .error .exhausted, hr => exact hr.elim

/-- A move that cannot fail. -/
theorem acts {x : Eval α}
    (hx : ∀ m, ∃ a browser, x.runOn m = (.ok a, { m with browser }) ∧
      m.browser.Moves may browser) : Does mayFail (Browser.Moves may) x := by
  intro m
  obtain ⟨a, browser, hrun, hmoves⟩ := hx m
  exact ⟨_, m.heap, browser, hrun, hmoves⟩

/-! ### Working on the heap -/

section Leaves

variable [Std.Refl move]

theorem heap (f : Heap → α) : Does mayFail move (Eval.heap f) := still fun m => ⟨_, m.heap, rfl⟩

theorem modifyHeap (f : Heap → Heap) : Does mayFail move (Eval.modifyHeap f) :=
  still fun m => ⟨_, f m.heap, rfl⟩

theorem allocate (f : Heap → Value × Heap) : Does mayFail move (Eval.allocate f) :=
  still fun m => ⟨_, (f m.heap).2, rfl⟩

theorem browser (f : Browser → α) : Does mayFail move (Eval.browser f) :=
  still fun m => ⟨_, m.heap, rfl⟩

theorem display (v : Value) : Does mayFail move (Eval.display v) := heap _

theorem number (v : Value) : Does mayFail move (Eval.number v) := heap _

theorem json (v : Value) : Does mayFail move (Eval.json v) := heap _

theorem option? (v : Value) (key : String) : Does mayFail move (Eval.option? v key) := heap _

theorem newArray (items : Array Value) : Does mayFail move (Eval.newArray items) := allocate _

theorem newObject (members : List (String × Value)) :
    Does mayFail move (Eval.newObject members) :=
  allocate _

theorem ofJson (j : Json) : Does mayFail move (Eval.ofJson j) := allocate _

end Leaves

/-! ### Errors -/

theorem throwValue (v : Value) : Does true move (Eval.throwValue v : Eval α) :=
  fun m => ⟨_, m.heap, m.browser, rfl, rfl, rfl⟩

theorem raise (name message : String) : Does true move (Eval.raise name message : Eval α) :=
  (newObject _).bind fun e => throwValue e

theorem typeError (message : String) : Does true move (Eval.typeError message : Eval α) :=
  raise _ _

end Does

end BrowserLab.Script
