import BrowserLab.Playground.View

/-!
# What a playground hears

A playground stays of its kind whatever it hears, and when it was opened matters to nothing but the
time that has passed since: `Playground.hear_openedAt` and `Playground.view_openedAt`.
-/

namespace BrowserLab.Playground

/-- The page as if it had been opened at another time. -/
def openedAt (p : Playground) (now : Nat) : Playground := { p with mounted := now }

@[simp] theorem openedAt_kind (p : Playground) (now : Nat) : (p.openedAt now).kind = p.kind := rfl

@[simp] theorem openedAt_mounted (p : Playground) (now : Nat) :
    (p.openedAt now).mounted = now := rfl

theorem ite_openedAt {c : Prop} [Decidable c] (p q : Playground) (now : Nat) :
    (if c then p else q).openedAt now = if c then p.openedAt now else q.openedAt now := by
  split <;> rfl

theorem new_openedAt (kind : Environment) (now later : Nat) :
    (new kind now).openedAt later = new kind later := rfl

/-! ### One event -/

theorem click_kind (p : Playground) (e : Event) : (p.click e).kind = p.kind := by
  unfold click
  dsimp only
  split <;> first | rfl | (split <;> rfl)

theorem fill_kind (p : Playground) (e : Event) : (p.fill e).kind = p.kind := by
  unfold fill
  split
  · rfl
  · dsimp only
    split
    · rfl
    · split <;> rfl

theorem request_kind (p : Playground) (e : Event) : (p.request e).kind = p.kind := by
  unfold request
  split <;> rfl

theorem intercept_kind (p : Playground) (e : Event) : (p.intercept e).kind = p.kind := by
  unfold intercept
  split <;> rfl

/-- A page stays of its kind. -/
@[simp] theorem hear_kind (p : Playground) (e : Event) : (p.hear e).kind = p.kind := by
  unfold hear
  split
  · exact p.click_kind e
  · exact p.fill_kind e
  · split <;> rfl
  · split <;> rfl
  · exact p.intercept_kind e
  · exact p.request_kind e
  · split <;> rfl
  · split <;> rfl
  · rfl

theorem click_openedAt (p : Playground) (e : Event) (now : Nat) :
    (p.openedAt now).click e = (p.click e).openedAt now := by
  unfold click
  dsimp only [openedAt_kind]
  split <;> first | rfl | (rw [ite_openedAt]; rfl)

theorem fill_openedAt (p : Playground) (e : Event) (now : Nat) :
    (p.openedAt now).fill e = (p.fill e).openedAt now := by
  unfold fill
  dsimp only [openedAt_kind]
  rw [ite_openedAt, ite_openedAt, ite_openedAt]
  rfl

theorem request_openedAt (p : Playground) (e : Event) (now : Nat) :
    (p.openedAt now).request e = (p.request e).openedAt now := by
  unfold request
  split <;> rfl

theorem intercept_openedAt (p : Playground) (e : Event) (now : Nat) :
    (p.openedAt now).intercept e = (p.intercept e).openedAt now := by
  unfold intercept
  split <;> rfl

/-- When the page was opened makes no difference to what it hears. -/
theorem hear_openedAt (p : Playground) (e : Event) (now : Nat) :
    (p.openedAt now).hear e = (p.hear e).openedAt now := by
  unfold hear
  dsimp only [openedAt_kind]
  split
  · exact p.click_openedAt e now
  · exact p.fill_openedAt e now
  · rw [ite_openedAt]; rfl
  · rw [ite_openedAt]; rfl
  · exact p.intercept_openedAt e now
  · exact p.request_openedAt e now
  · rw [ite_openedAt]; rfl
  · rw [ite_openedAt]; rfl
  · rfl

/-! ### Many events -/

/-- What events do to the page, one after the other. -/
def hearAll (p : Playground) (events : List Event) : Playground := events.foldl hear p

@[simp] theorem hearAll_nil (p : Playground) : p.hearAll [] = p := rfl

@[simp] theorem hearAll_cons (p : Playground) (e : Event) (events : List Event) :
    p.hearAll (e :: events) = (p.hear e).hearAll events := rfl

@[simp] theorem hearAll_kind (p : Playground) (events : List Event) :
    (p.hearAll events).kind = p.kind := by
  induction events generalizing p with
  | nil => rfl
  | cons e rest ih => rw [hearAll_cons, ih, hear_kind]

theorem hearAll_openedAt (p : Playground) (events : List Event) (now : Nat) :
    (p.openedAt now).hearAll events = (p.hearAll events).openedAt now := by
  induction events generalizing p with
  | nil => rfl
  | cons e rest ih => rw [hearAll_cons, hearAll_cons, hear_openedAt, ih]

/-- What is heard does not change when the page was opened. -/
@[simp] theorem hearAll_mounted (p : Playground) (events : List Event) :
    (p.hearAll events).mounted = p.mounted := by
  have h : p.hearAll events = (p.hearAll events).openedAt p.mounted :=
    p.hearAll_openedAt events p.mounted
  rw [h, openedAt_mounted]

/-! ### What is shown -/

/-- A page shows the same after the same time, whenever it was opened. -/
theorem view_openedAt (p : Playground) {opened now now' : Nat}
    (h : now' - opened = now - p.mounted) : (p.openedAt opened).view now' = p.view now := by
  have hbutton : (p.openedAt opened).buttonRevealed now' = p.buttonRevealed now := by
    rw [buttonRevealed, buttonRevealed, openedAt_mounted, h]
  have hlines : (p.openedAt opened).lines now' = p.lines now := by
    unfold lines
    rw [hbutton]
    rfl
  rw [view, view, hlines]

end BrowserLab.Playground
