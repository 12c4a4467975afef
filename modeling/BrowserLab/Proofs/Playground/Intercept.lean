import BrowserLab.Proofs.Playground.Hear

/-!
# The interceptions that a playground knows of

A playground hears of interceptions by events, and nothing else that it hears changes what it knows
of them.  The page of an exercise on interceptions asks for its data when its button is clicked, and
at no other time.

* `Playground.hearAll_interceptions`: the interceptions are those of the events, in their order.
* `Playground.informed_hearAll`: the one that is shown is the last one.
* `Playground.hear_apiResponse`: when the data is asked for, and what is stored.
-/

namespace BrowserLab

theorem filterMap_cons_toList {α β : Type} (f : α → Option β) (a : α) (rest : List α) :
    (a :: rest).filterMap f = (f a).toList ++ rest.filterMap f := by
  rw [List.filterMap_cons]
  cases f a <;> rfl

/-- The interception that an event tells of. -/
def Event.registered? (e : Event) : Option Interception :=
  if e.kind = .routeIntercept then e.interception else none

/-- The interceptions that events tell of, the first one first. -/
def registered (events : List Event) : List Interception := events.filterMap Event.registered?

@[simp] theorem registered_nil : registered [] = [] := rfl

theorem registered_cons (e : Event) (events : List Event) :
    registered (e :: events) = e.registered?.toList ++ registered events :=
  filterMap_cons_toList _ e events

theorem registered_snoc (events : List Event) (e : Event) :
    registered (events ++ [e]) = registered events ++ e.registered?.toList := by
  rw [registered, List.filterMap_append]
  rfl

theorem Event.registered?_of_ne {e : Event} (h : e.kind ≠ .routeIntercept) :
    e.registered? = none := if_neg h

namespace Playground

/-- The interception that is shown is the last one. -/
def Informed (p : Playground) : Prop := p.mock = p.interceptions.getLast?

/-- The page knows of the same interceptions. -/
structure SameInterceptions (p q : Playground) : Prop where
  interceptions : q.interceptions = p.interceptions
  mock : q.mock = p.mock

theorem SameInterceptions.rfl {p : Playground} : SameInterceptions p p := ⟨Eq.refl _, Eq.refl _⟩

theorem SameInterceptions.ite {p q : Playground} {c : Prop} [Decidable c]
    (h : SameInterceptions p q) : SameInterceptions p (if c then q else p) := by
  split
  · exact h
  · exact .rfl

/-! ### One event -/

theorem sameInterceptions_fetchProfile (p : Playground) : SameInterceptions p p.fetchProfile :=
  ⟨rfl, rfl⟩

theorem sameInterceptions_click (p : Playground) (e : Event) : SameInterceptions p (p.click e) := by
  unfold click
  dsimp only
  split <;> first
    | exact .rfl
    | exact .ite ⟨rfl, rfl⟩

theorem sameInterceptions_fill (p : Playground) (e : Event) : SameInterceptions p (p.fill e) := by
  unfold fill
  split
  · exact .rfl
  · dsimp only
    split
    · exact ⟨rfl, rfl⟩
    · exact .ite ⟨rfl, rfl⟩

theorem sameInterceptions_request (p : Playground) (e : Event) :
    SameInterceptions p (p.request e) := by
  unfold request
  split
  · exact .rfl
  · exact ⟨rfl, rfl⟩

/-- Whatever else is heard, the page knows of the same interceptions. -/
theorem sameInterceptions_hear (p : Playground) {e : Event} (he : e.kind ≠ .routeIntercept) :
    SameInterceptions p (p.hear e) := by
  unfold hear
  split
  · exact p.sameInterceptions_click e
  · exact p.sameInterceptions_fill e
  · exact .ite ⟨rfl, rfl⟩
  · exact .ite ⟨rfl, rfl⟩
  · next h => exact absurd h he
  · exact p.sameInterceptions_request e
  · exact .ite p.sameInterceptions_fetchProfile
  · exact .ite ⟨rfl, rfl⟩
  · exact .rfl

theorem hear_routeIntercept (p : Playground) {e : Event} (he : e.kind = .routeIntercept) :
    p.hear e = p.intercept e := by
  unfold hear
  rw [he]

theorem hear_interceptions (p : Playground) (e : Event) :
    (p.hear e).interceptions = p.interceptions ++ e.registered?.toList := by
  by_cases he : e.kind = .routeIntercept
  · rw [hear_routeIntercept p he, Event.registered?, if_pos he, intercept]
    cases e.interception with
    | none => exact (List.append_nil _).symm
    | some i => rfl
  · rw [(p.sameInterceptions_hear he).interceptions, Event.registered?_of_ne he]
    exact (List.append_nil _).symm

theorem informed_hear {p : Playground} (h : p.Informed) (e : Event) : (p.hear e).Informed := by
  by_cases he : e.kind = .routeIntercept
  · rw [hear_routeIntercept p he, intercept]
    cases e.interception with
    | none => exact h
    | some i => exact List.getLast?_concat.symm
  · have hsame := p.sameInterceptions_hear he
    rw [Informed, hsame.mock, hsame.interceptions]
    exact h

/-! ### Many events -/

/-- The page knows of the interceptions that it has heard of, in their order. -/
theorem hearAll_interceptions (p : Playground) (events : List Event) :
    (p.hearAll events).interceptions = p.interceptions ++ registered events := by
  induction events generalizing p with
  | nil => exact (List.append_nil _).symm
  | cons e rest ih =>
    rw [hearAll_cons, ih, hear_interceptions, registered_cons, List.append_assoc]

theorem informed_hearAll {p : Playground} (h : p.Informed) (events : List Event) :
    (p.hearAll events).Informed := by
  induction events generalizing p with
  | nil => exact h
  | cons e rest ih => exact ih (informed_hear h e)

/-! ### The data of the page -/

/-- The page asks for its data when it hears the event. -/
def Fetches (p : Playground) (e : Event) : Prop :=
  p.kind = .apiMock ∧ e.kind = .click ∧
    (e.names "Fetch Data" = true ∨ e.selectorIs "button" = true)

/-- What the page is answered when it asks for its data. -/
def dataAnswer (interceptions : List Interception) : Response :=
  match Backend.covering? "GET" "/api/data" interceptions with
  | some i => i.answer
  | none => ⟨200, .obj [("data", .str "Success! Loaded real data.")]⟩

theorem fetchData_apiResponse (p : Playground) :
    p.fetchData.apiResponse = some (dataAnswer p.interceptions) := rfl

theorem click_apiResponse_of_ne {p : Playground} (h : p.kind ≠ .apiMock) (e : Event) :
    (p.click e).apiResponse = p.apiResponse := by
  unfold click
  dsimp only
  split <;> first
    | rfl
    | (split <;> rfl)
    | (next hkind => exact absurd hkind h)

theorem click_apiMock {p : Playground} (h : p.kind = .apiMock) (e : Event) :
    p.click e =
      if e.names "Fetch Data" || e.selectorIs "button" then p.fetchData else p := by
  unfold click
  rw [h]

/-- What is stored changes only when the page asks for its data. -/
theorem hear_apiResponse (p : Playground) (e : Event) :
    (p.Fetches e → (p.hear e).apiResponse = some (dataAnswer p.interceptions)) ∧
      (¬ p.Fetches e → (p.hear e).apiResponse = p.apiResponse) := by
  refine ⟨fun ⟨hkind, hclick, hbutton⟩ => ?_, fun hnot => ?_⟩
  · have hhear : p.hear e = p.click e := by
      unfold hear
      rw [hclick]
    rw [hhear, click_apiMock hkind, if_pos (by simpa using hbutton), fetchData_apiResponse]
  · unfold hear
    split
    · next hclick =>
      by_cases hkind : p.kind = .apiMock
      · rw [click_apiMock hkind, if_neg]
        intro hbutton
        exact hnot ⟨hkind, hclick, by simpa using hbutton⟩
      · exact click_apiResponse_of_ne hkind e
    · unfold fill
      split
      · rfl
      · dsimp only
        split
        · rfl
        · split <;> rfl
    · split <;> rfl
    · split <;> rfl
    · unfold intercept
      split <;> rfl
    · unfold request
      split <;> rfl
    · split <;> rfl
    · split <;> rfl
    · rfl

end Playground

end BrowserLab
