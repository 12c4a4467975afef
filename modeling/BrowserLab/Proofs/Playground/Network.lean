import BrowserLab.Proofs.Playground.Reacts

/-!
# Whose the lines of the network panel are

A line of the network panel is there because the test made a request or because the page did.  The
lines that some of the events bring are cut out of the panel itself: `Playground.gains` takes what
each of these events has put behind the lines that were there.

* `Playground.gains_requests`: requests of the test bring the lines that their events tell of.
* `Playground.interleaves_networkLog`: the panel has these lines and those of the page's own
  requests, each in their order, and no others.
* `Playground.networkLog_of_kind`: most pages make no request.
-/

namespace BrowserLab

/-- The last list has the items of the other two, and the items of each are in their order. -/
inductive Interleaves {α : Type} : List α → List α → List α → Prop
  | nil : Interleaves [] [] []
  | left {xs ys zs : List α} (a : α) (h : Interleaves xs ys zs) :
      Interleaves (a :: xs) ys (a :: zs)
  | right {xs ys zs : List α} (a : α) (h : Interleaves xs ys zs) :
      Interleaves xs (a :: ys) (a :: zs)

namespace Interleaves

variable {α : Type}

theorem append_left (added : List α) {xs ys zs : List α} (h : Interleaves xs ys zs) :
    Interleaves (added ++ xs) ys (added ++ zs) := by
  induction added with
  | nil => exact h
  | cons a rest ih => exact .left a ih

theorem append_right (added : List α) {xs ys zs : List α} (h : Interleaves xs ys zs) :
    Interleaves xs (added ++ ys) (added ++ zs) := by
  induction added with
  | nil => exact h
  | cons a rest ih => exact .right a ih

/-- Nothing was woven in. -/
theorem eq_of_nil {xs zs : List α} (h : Interleaves xs [] zs) : xs = zs := by
  induction xs generalizing zs with
  | nil =>
    cases h
    rfl
  | cons a rest ih =>
    cases h with
    | left _ h => rw [ih h]

end Interleaves

namespace Playground

/-! ### The two kinds of lines -/

/-- The lines that the network panel gains by those of the events that are asked for. -/
def gains (which : Event → Bool) (p : Playground) : List Event → List NetworkEntry
  | [] => []
  | e :: rest =>
    (if which e then (p.hear e).networkLog.drop p.networkLog.length else []) ++
      gains which (p.hear e) rest

/-- The lines of the page's own requests. -/
def fetches (p : Playground) : List Event → List NetworkEntry
  | [] => []
  | e :: rest => (p.fetched? e).toList ++ fetches (p.hear e) rest

theorem hear_gain (p : Playground) (e : Event) :
    (p.hear e).networkLog.drop p.networkLog.length =
      e.requested?.toList ++ (p.fetched? e).toList := by
  rw [hear_networkLog, List.drop_left]

/-- A request of the test is no reason for one of the page's own. -/
theorem hear_gain_of_apiCall (p : Playground) {e : Event} (h : e.kind = .apiCall) :
    (p.hear e).networkLog.drop p.networkLog.length = e.requested?.toList := by
  have hnone : p.fetched? e = none :=
    fetched?_of_event (by rw [h]; decide) (by rw [h]; decide) p
  rw [hear_gain, hnone, Option.toList_none, List.append_nil]

/-! ### All lines -/

/-- Requests of the test bring the lines that their events tell of. -/
theorem gains_requests (p : Playground) (events : List Event) :
    p.gains (·.kind = .apiCall) events = events.filterMap Event.requested? := by
  induction events generalizing p with
  | nil => rfl
  | cons e rest ih =>
    have hrest : (p.hear e).gains (·.kind = .apiCall) rest = rest.filterMap Event.requested? :=
      ih (p.hear e)
    rw [gains, hrest, filterMap_cons_toList]
    by_cases he : e.kind = .apiCall
    · rw [if_pos (decide_eq_true he), p.hear_gain_of_apiCall he]
    · rw [if_neg (by simpa using he), Event.requested?_of_ne he]
      rfl

/-- What is in the network panel behind the lines that were there. -/
theorem interleaves_hearAll (p : Playground) (events : List Event) :
    ∃ lines, (p.hearAll events).networkLog = p.networkLog ++ lines ∧
      Interleaves (events.filterMap Event.requested?) (p.fetches events) lines := by
  induction events generalizing p with
  | nil => exact ⟨[], (List.append_nil _).symm, .nil⟩
  | cons e rest ih =>
    obtain ⟨lines, hlines, hinter⟩ := ih (p.hear e)
    refine ⟨e.requested?.toList ++ ((p.fetched? e).toList ++ lines), ?_, ?_⟩
    · rw [hearAll_cons, hlines, hear_networkLog]
      simp only [List.append_assoc]
    · rw [filterMap_cons_toList, fetches]
      exact (hinter.append_right (p.fetched? e).toList).append_left e.requested?.toList

/-- The network panel of a page that was opened for the events. -/
theorem interleaves_networkLog (kind : Environment) (opened : Nat) (events : List Event) :
    Interleaves ((new kind opened).gains (·.kind = .apiCall) events)
      ((new kind opened).fetches events) ((new kind opened).hearAll events).networkLog := by
  obtain ⟨lines, hlines, hinter⟩ := (new kind opened).interleaves_hearAll events
  have hall : ((new kind opened).hearAll events).networkLog = lines := hlines
  rw [gains_requests, hall]
  exact hinter

theorem fetches_of_kind {p : Playground} (hdata : p.kind ≠ .apiMock)
    (hprofile : p.kind ≠ .profileRepair) (events : List Event) : p.fetches events = [] := by
  induction events generalizing p with
  | nil => rfl
  | cons e rest ih =>
    have hkind : (p.hear e).kind = p.kind := p.hear_kind e
    rw [fetches, fetched?_of_kind hdata hprofile e]
    exact ih (by rw [hkind]; exact hdata) (by rw [hkind]; exact hprofile)

/-- A page that makes no requests shows those of the test. -/
theorem networkLog_of_kind {kind : Environment} (hdata : kind ≠ .apiMock)
    (hprofile : kind ≠ .profileRepair) (opened : Nat) (events : List Event) :
    (new kind opened).gains (·.kind = .apiCall) events =
      ((new kind opened).hearAll events).networkLog := by
  have hinter := interleaves_networkLog kind opened events
  rw [fetches_of_kind hdata hprofile] at hinter
  exact hinter.eq_of_nil

end Playground

end BrowserLab
