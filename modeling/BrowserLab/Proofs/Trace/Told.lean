import BrowserLab.Trace.Recorder

/-!
# What a trace tells

`Step.Tells` says that a step is the one that an event leaves, and `Told` that a list of steps is
what a recorder has made of a list of events, one step per event and in their order.  `told_record`
is the only fact about the recorder that is needed to keep `Told` up: writing an event down adds its
step at the end.
-/

namespace BrowserLab

/-- The step at a position of the trace is the one of an event that happened a while after the run
began.  Only the duration is left open: it is drawn at random. -/
structure Step.Tells (s : Step) (index elapsed : Nat) (e : Event) : Prop where
  index : s.index = index
  action : s.action = e.kind
  selector : s.selector = e.selector
  label : s.label = e.label
  value : s.value = e.value
  frame : s.frame = e.frame
  elapsed : s.elapsed = elapsed
  status : s.status = .passed
  network : s.network = e.network.map fun x => { x with method := x.effectiveMethod }
  interception : s.interception = e.interception

/-- The steps are those of the events, in the same order, of a run that began at a time. -/
def Told (started : Nat) (said : List (Nat × Event)) (steps : List Step) : Prop :=
  steps.length = said.length ∧
    ∀ (i now : Nat) (e : Event) (step : Step), said[i]? = some (now, e) → steps[i]? = some step →
      step.Tells i (now - started) e

theorem told_nil (started : Nat) : Told started [] [] :=
  ⟨rfl, fun _ _ _ _ h _ => by simp at h⟩

theorem Told.snoc {started now : Nat} {said : List (Nat × Event)} {steps : List Step} {e : Event}
    {step : Step} (h : Told started said steps)
    (hstep : step.Tells steps.length (now - started) e) :
    Told started (said ++ [(now, e)]) (steps ++ [step]) := by
  obtain ⟨hlen, hall⟩ := h
  refine ⟨by simp [hlen], fun i now' e' step' hsaid hsteps => ?_⟩
  by_cases hi : i < steps.length
  · rw [List.getElem?_append_left (by omega)] at hsaid
    rw [List.getElem?_append_left hi] at hsteps
    exact hall i now' e' step' hsaid hsteps
  · have hlast : i = steps.length := by
      have := (List.getElem?_eq_some_iff.mp hsteps).1
      rw [List.length_append, List.length_singleton] at this
      omega
    subst hlast
    rw [List.getElem?_concat_length] at hsteps
    rw [hlen, List.getElem?_concat_length] at hsaid
    cases hsteps
    cases hsaid
    exact hstep

/-- Each step tells of one of the events. -/
theorem Told.of_mem {started : Nat} {said : List (Nat × Event)} {steps : List Step}
    (h : Told started said steps) {step : Step} (hstep : step ∈ steps) :
    ∃ i now e, (now, e) ∈ said ∧ step.Tells i (now - started) e := by
  obtain ⟨i, hi⟩ := List.mem_iff_getElem?.mp hstep
  have hlt : i < said.length := by
    rw [← h.1]
    exact (List.getElem?_eq_some_iff.mp hi).1
  have htells := h.2 i _ _ step (List.getElem?_eq_getElem hlt) hi
  exact ⟨i, _, _, List.getElem_mem hlt, htells⟩

/-- What steps have in common with their events is the same in the trace and in what it tells of. -/
theorem Told.map_eq {α : Type} {started : Nat} {said : List (Nat × Event)} {steps : List Step}
    {f : Step → α} {g : Event → α} (h : Told started said steps)
    (hfg : ∀ {step : Step} {i elapsed : Nat} {e : Event}, step.Tells i elapsed e → f step = g e) :
    steps.map f = said.map fun x => g x.2 := by
  refine List.ext_getElem (by simp [h.1]) fun i hi hi' => ?_
  rw [List.length_map] at hi hi'
  rw [List.getElem_map, List.getElem_map]
  exact hfg (h.2 i _ _ _ (List.getElem?_eq_getElem hi') (List.getElem?_eq_getElem hi))

/-- The steps are of the kinds of the events. -/
theorem Told.actions {started : Nat} {said : List (Nat × Event)} {steps : List Step}
    (h : Told started said steps) : steps.map (·.action) = said.map (·.2.kind) :=
  h.map_eq fun htells => htells.action

/-- The interceptions in the first steps are those of the first events. -/
theorem Told.interceptions {started : Nat} {said : List (Nat × Event)} {steps : List Step}
    (h : Told started said steps) (n : Nat) :
    (steps.take n).filterMap (·.interception) =
      (said.take n).filterMap (·.2.interception) := by
  have hsame := congrArg (List.take n) (h.map_eq fun htells => htells.interception)
  rw [← List.map_take, ← List.map_take] at hsame
  have hkept := congrArg (List.filterMap id) hsame
  rwa [List.filterMap_map, List.filterMap_map] at hkept

namespace Recorder

theorem tells_stepOf (r : Recorder) (now duration : Nat) (e : Event) :
    (r.stepOf now duration e).Tells r.steps.length (now - r.started) e :=
  ⟨rfl, rfl, rfl, rfl, rfl, rfl, rfl, rfl, rfl, rfl⟩

@[simp] theorem record_started (r : Recorder) (now : Nat) (e : Event) :
    (r.record now e).2.started = r.started := rfl

/-- Writing an event down adds its step at the end. -/
theorem record_steps (r : Recorder) (now : Nat) (e : Event) :
    (r.record now e).2.steps = r.steps ++ [(r.record now e).1] := rfl

theorem tells_record (r : Recorder) (now : Nat) (e : Event) :
    (r.record now e).1.Tells r.steps.length (now - r.started) e :=
  r.tells_stepOf now _ e

theorem told_record {r : Recorder} {said : List (Nat × Event)}
    (h : Told r.started said r.steps) (now : Nat) (e : Event) :
    Told r.started (said ++ [(now, e)]) (r.record now e).2.steps :=
  h.snoc (r.tells_record now e)

/-- Writes events down, each at its time. -/
def recordAll (r : Recorder) (timeline : List (Nat × Event)) : Recorder :=
  timeline.foldl (fun r (now, e) => (r.record now e).2) r

@[simp] theorem recordAll_nil (r : Recorder) : r.recordAll [] = r := rfl

@[simp] theorem recordAll_cons (r : Recorder) (now : Nat) (e : Event)
    (timeline : List (Nat × Event)) :
    r.recordAll ((now, e) :: timeline) = (r.record now e).2.recordAll timeline := rfl

@[simp] theorem recordAll_started (r : Recorder) (timeline : List (Nat × Event)) :
    (r.recordAll timeline).started = r.started := by
  induction timeline generalizing r with
  | nil => rfl
  | cons said rest ih => rw [recordAll_cons, ih, record_started]

@[simp] theorem recordAll_config (r : Recorder) (timeline : List (Nat × Event)) :
    (r.recordAll timeline).config = r.config := by
  induction timeline generalizing r with
  | nil => rfl
  | cons said rest ih => rw [recordAll_cons, ih]; rfl

/-- The trace tells all that has been written down. -/
theorem told_recordAll {r : Recorder} {said : List (Nat × Event)}
    (h : Told r.started said r.steps) (timeline : List (Nat × Event)) :
    Told r.started (said ++ timeline) (r.recordAll timeline).steps := by
  induction timeline generalizing r said with
  | nil => simpa using h
  | cons head rest ih =>
    obtain ⟨now, e⟩ := head
    have hrecord : Told (r.record now e).2.started (said ++ [(now, e)]) (r.record now e).2.steps :=
      told_record h now e
    have := ih hrecord
    simpa using this

end Recorder

end BrowserLab
