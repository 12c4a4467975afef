import BrowserLab.Concurrent
import BrowserLab.Proofs.Trace.Told

/-!
# Runs side by side do not mix

Any number of runs share one bus and one recorder.  A run begins once, with an empty trace, and from
then on only announces events; `Interleaved` says that a list of acts is put together from such
runs, in whatever order.  Every prefix of an interleaving is one, so what is proved of interleavings
holds at every moment.

* `Isolated` is the invariant: the bus has counted the runs, the token of the run that began last is
  the current one and all other tokens are older, and the recorder tells what that run has said.
* `isolated_of_interleaved`: it holds after every interleaving.
* `steps_told_by_latest_run`: the trace is what the latest run has announced since it began;
  an announcement of another run changes nothing.
-/

namespace BrowserLab.Concurrent

/-! ### What the runs have done -/

/-- The time and the run of an act that begins a run. -/
def beginning? : Nat × Nat × Act → Option (Nat × Nat)
  | (now, run, .begin _) => some (now, run)
  | _ => none

/-- The runs that have begun and when, in order. -/
def begun (acts : List (Nat × Nat × Act)) : List (Nat × Nat) := acts.filterMap beginning?

/-- When the latest run began, and which it is. -/
def latest? (acts : List (Nat × Nat × Act)) : Option (Nat × Nat) := (begun acts).getLast?

/-- What an act says for a run, and when. -/
def saying? (run : Nat) : Nat × Nat × Act → Option (Nat × Event)
  | (now, r, .announce e) => if r = run then some (now, e) else none
  | _ => none

/-- What a run has announced, in order. -/
def announced (run : Nat) (acts : List (Nat × Nat × Act)) : List (Nat × Event) :=
  acts.filterMap (saying? run)

/-- Acts of runs that each begin once, with an empty trace, and afterwards announce events until
they finish. -/
inductive Interleaved : List (Nat × Nat × Act) → Prop
  | nil : Interleaved []
  | begin {acts : List (Nat × Nat × Act)} {run : Nat} (h : Interleaved acts) (now : Nat)
      (hnew : run ∉ (begun acts).map Prod.snd) : Interleaved (acts ++ [(now, run, .begin true)])
  | announce {acts : List (Nat × Nat × Act)} {run : Nat} (h : Interleaved acts) (now : Nat)
      (e : Event) (hbegun : run ∈ (begun acts).map Prod.snd) :
      Interleaved (acts ++ [(now, run, .announce e)])
  | finish {acts : List (Nat × Nat × Act)} {run : Nat} (h : Interleaved acts) (now : Nat)
      (hbegun : run ∈ (begun acts).map Prod.snd) : Interleaved (acts ++ [(now, run, .finish)])

section Snoc

variable (acts : List (Nat × Nat × Act)) (now run : Nat)

@[simp] theorem begun_begin (clears : Bool) :
    begun (acts ++ [(now, run, .begin clears)]) = begun acts ++ [(now, run)] := by
  simp [begun, beginning?]

@[simp] theorem begun_announce (e : Event) :
    begun (acts ++ [(now, run, .announce e)]) = begun acts := by
  simp [begun, beginning?]

@[simp] theorem begun_finish : begun (acts ++ [(now, run, .finish)]) = begun acts := by
  simp [begun, beginning?]

@[simp] theorem latest?_begin (clears : Bool) :
    latest? (acts ++ [(now, run, .begin clears)]) = some (now, run) := by
  simp [latest?]

@[simp] theorem latest?_announce (e : Event) :
    latest? (acts ++ [(now, run, .announce e)]) = latest? acts := by
  simp [latest?]

@[simp] theorem latest?_finish : latest? (acts ++ [(now, run, .finish)]) = latest? acts := by
  simp [latest?]

@[simp] theorem announced_begin (clears : Bool) (r : Nat) :
    announced r (acts ++ [(now, run, .begin clears)]) = announced r acts := by
  simp [announced, saying?]

@[simp] theorem announced_finish (r : Nat) :
    announced r (acts ++ [(now, run, .finish)]) = announced r acts := by
  simp [announced, saying?]

@[simp] theorem announced_announce (e : Event) :
    announced run (acts ++ [(now, run, .announce e)]) = announced run acts ++ [(now, e)] := by
  simp [announced, saying?]

theorem announced_announce_of_ne (e : Event) {r : Nat} (h : run ≠ r) :
    announced r (acts ++ [(now, run, .announce e)]) = announced r acts := by
  simp [announced, saying?, h]

theorem Stage.play_snoc (s : Stage) (a : Act) :
    s.play (acts ++ [(now, run, a)]) = (s.play acts).act now run a := by
  simp [Stage.play]

end Snoc

/-- A run has announced nothing before it begins. -/
theorem announced_eq_nil {acts : List (Nat × Nat × Act)} (h : Interleaved acts) {run : Nat}
    (hnew : run ∉ (begun acts).map Prod.snd) : announced run acts = [] := by
  induction h with
  | nil => rfl
  | begin h now _ ih =>
    rw [announced_begin]
    exact ih (fun hmem => hnew (by simp only [begun_begin, List.map_append]; simp [hmem]))
  | @announce acts r h now e hbegun ih =>
    rw [begun_announce] at hnew
    have hne : r ≠ run := fun he => hnew (he ▸ hbegun)
    rw [announced_announce_of_ne _ _ _ _ hne]
    exact ih hnew
  | finish h now _ ih =>
    rw [begun_finish] at hnew
    rw [announced_finish]
    exact ih hnew

/-! ### The invariant -/

/-- What the recorder has written down since the latest run began. -/
def Recorded (acts : List (Nat × Nat × Act)) (r : Recorder) : Prop :=
  match latest? acts with
  | none => r.steps = []
  | some (started, run) => r.started = started ∧ Told started (announced run acts) r.steps

/-- How the bus, the tokens and the recorder hang together after some acts. -/
structure Isolated (acts : List (Nat × Nat × Act)) (s : Stage) : Prop where
  generation : s.bus.generation = (begun acts).length
  current : ∀ started run, latest? acts = some (started, run) → s.token run = s.bus.current
  older : ∀ started run other, latest? acts = some (started, run) →
    other ∈ (begun acts).map Prod.snd → other ≠ run →
      (s.token other).generation < s.bus.generation
  recorder : ∃ r, s.bus.listeners = [(.recorder, r)] ∧ Recorded acts r

namespace Isolated

variable {acts : List (Nat × Nat × Act)} {s : Stage}

theorem steps_eq (h : Isolated acts s) : ∃ r, s.bus.listeners = [(.recorder, r)] ∧
    s.steps = r.steps ∧ Recorded acts r := by
  obtain ⟨r, hr, hrec⟩ := h.recorder
  exact ⟨r, hr, by simp [Stage.steps, Bus.listener?, hr], hrec⟩

/-- What the latest run announces is heard, and its step is added to the trace. -/
theorem publish_latest (h : Isolated acts s) {started run : Nat}
    (hlatest : latest? acts = some (started, run)) (now : Nat) (e : Event) :
    ∃ r, s.bus.listeners = [(.recorder, r)] ∧ r.started = started ∧
      s.publish now run e =
        (true, { s with bus := { s.bus with listeners := [(.recorder, (r.record now e).2)] } }) := by
  obtain ⟨r, hr, hrec⟩ := h.recorder
  rw [Recorded, hlatest] at hrec
  have hcurrent : s.bus.isCurrent (s.token run) = true := by
    rw [h.current started run hlatest]
    simp [Bus.isCurrent, Bus.current]
  refine ⟨r, hr, hrec.1, ?_⟩
  simp [Stage.publish, Bus.publish, hcurrent, Bus.mapListeners, hr]

/-- What another run announces is not heard. -/
theorem publish_superseded (h : Isolated acts s) {run : Nat}
    (hbegun : run ∈ (begun acts).map Prod.snd)
    (hlatest : ∀ started, latest? acts ≠ some (started, run)) (now : Nat) (e : Event) :
    s.publish now run e = (false, s) := by
  cases hl : latest? acts with
  | none =>
    rw [latest?, List.getLast?_eq_none_iff] at hl
    simp [hl] at hbegun
  | some last =>
    obtain ⟨started, latest⟩ := last
    have hne : run ≠ latest := fun he => hlatest started (he ▸ hl)
    have hold := h.older started latest run hl hbegun hne
    have hstale : s.bus.isCurrent (s.token run) = false := by
      simp only [Bus.isCurrent, decide_eq_false_iff_not]
      omega
    simp [Stage.publish, Bus.publish, hstale]

theorem begin (hacts : Interleaved acts) (h : Isolated acts s) {run : Nat} (now : Nat)
    (hnew : run ∉ (begun acts).map Prod.snd) :
    Isolated (acts ++ [(now, run, .begin true)]) (s.act now run (.begin true)) := by
  obtain ⟨r, hr, _⟩ := h.recorder
  have hself : (s.act now run (.begin true)).token run = ⟨s.bus.generation + 1⟩ := by
    simp [Stage.act, Stage.token, Bus.begin]
  have hother : ∀ other, other ≠ run →
      (s.act now run (.begin true)).token other = s.token other := by
    intro other hne
    simp [Stage.act, Stage.token, Bus.begin, hne.symm]
  have hgen : (s.act now run (.begin true)).bus.generation = s.bus.generation + 1 := rfl
  refine ⟨?_, ?_, ?_, r.reset now, ?_, ?_⟩
  · rw [hgen, h.generation, begun_begin, List.length_append, List.length_singleton]
  · intro started latest hl
    rw [latest?_begin] at hl
    cases hl
    rw [hself, Bus.current, hgen]
  · intro started latest other hl hmem hne
    rw [latest?_begin] at hl
    cases hl
    rw [hother other hne, hgen]
    have hmem' : other ∈ (begun acts).map Prod.snd := by
      simpa [hne] using hmem
    -- the run that was the latest so far has the greatest token among the earlier runs
    cases hl : latest? acts with
    | none =>
      rw [latest?, List.getLast?_eq_none_iff] at hl
      simp [hl] at hmem'
    | some last =>
      obtain ⟨started', latest'⟩ := last
      by_cases he : other = latest'
      · rw [he, h.current started' latest' hl]
        exact Nat.lt_succ_self _
      · exact Nat.lt_succ_of_lt (h.older started' latest' other hl hmem' he)
  · simp [Stage.act, Bus.begin, Bus.mapListeners, hr]
  · rw [Recorded, latest?_begin]
    refine ⟨rfl, ?_⟩
    rw [announced_begin, announced_eq_nil hacts hnew]
    exact told_nil now

theorem announce (h : Isolated acts s) {run : Nat} (now : Nat) (e : Event)
    (hbegun : run ∈ (begun acts).map Prod.snd) :
    Isolated (acts ++ [(now, run, .announce e)]) (s.act now run (.announce e)) := by
  by_cases hlatest : ∃ started, latest? acts = some (started, run)
  · obtain ⟨started, hl⟩ := hlatest
    obtain ⟨r, hr, hstarted, hpublish⟩ := h.publish_latest hl now e
    have hact : s.act now run (.announce e) =
        { s with bus := { s.bus with listeners := [(.recorder, (r.record now e).2)] } } := by
      rw [Stage.act, hpublish]
    rw [hact]
    refine ⟨?_, ?_, ?_, (r.record now e).2, rfl, ?_⟩
    · rw [begun_announce]
      exact h.generation
    · rw [latest?_announce]
      exact h.current
    · rw [latest?_announce, begun_announce]
      exact h.older
    · obtain ⟨r', hr', hrec⟩ := h.recorder
      rw [hr] at hr'
      obtain rfl : r = r' := by simpa using hr'
      rw [Recorded, hl] at hrec
      rw [Recorded, latest?_announce, hl]
      refine ⟨hrec.1, ?_⟩
      rw [announced_announce, ← hrec.1]
      exact Recorder.told_record (hrec.1 ▸ hrec.2) now e
  · have hpublish := h.publish_superseded hbegun (fun started he => hlatest ⟨started, he⟩) now e
    have hact : s.act now run (.announce e) = s := by rw [Stage.act, hpublish]
    rw [hact]
    refine ⟨?_, ?_, ?_, ?_⟩
    · rw [begun_announce]
      exact h.generation
    · rw [latest?_announce]
      exact h.current
    · rw [latest?_announce, begun_announce]
      exact h.older
    · obtain ⟨r, hr, hrec⟩ := h.recorder
      refine ⟨r, hr, ?_⟩
      rw [Recorded] at hrec ⊢
      rw [latest?_announce]
      cases hl : latest? acts with
      | none => rw [hl] at hrec; exact hrec
      | some last =>
        obtain ⟨started, latest⟩ := last
        rw [hl] at hrec
        have hne : run ≠ latest := fun he => hlatest ⟨started, he ▸ hl⟩
        exact ⟨hrec.1, (announced_announce_of_ne acts now run e hne).symm ▸ hrec.2⟩

theorem finish (h : Isolated acts s) (now run : Nat) :
    Isolated (acts ++ [(now, run, .finish)]) (s.act now run .finish) := by
  refine ⟨?_, ?_, ?_, ?_⟩
  · rw [begun_finish]
    exact h.generation
  · rw [latest?_finish]
    exact h.current
  · rw [latest?_finish, begun_finish]
    exact h.older
  · obtain ⟨r, hr, hrec⟩ := h.recorder
    refine ⟨r, hr, ?_⟩
    simpa only [Recorded, latest?_finish, announced_finish] using hrec

end Isolated

theorem isolated_start (config : Recorder.Config) (draws : Draws) (born : Nat) :
    Isolated [] (.start (.new config draws born)) :=
  ⟨rfl, fun _ _ h => by simp [latest?, begun] at h, fun _ _ _ h => by simp [latest?, begun] at h,
    .new config draws born, rfl, rfl⟩

/-- **The invariant holds after every interleaving.** -/
theorem isolated_of_interleaved (config : Recorder.Config) (draws : Draws) (born : Nat)
    {acts : List (Nat × Nat × Act)} (h : Interleaved acts) :
    Isolated acts ((Stage.start (.new config draws born)).play acts) := by
  induction h with
  | nil => exact isolated_start config draws born
  | begin h now hnew ih => rw [Stage.play_snoc]; exact ih.begin h now hnew
  | announce h now e hbegun ih => rw [Stage.play_snoc]; exact ih.announce now e hbegun
  | finish h now _ ih => rw [Stage.play_snoc]; exact ih.finish now _

/-! ### Isolation -/

/-- **The trace belongs to the latest run.**  However runs are interleaved, the recorder has one step
for each event that the run which began last has announced since, in this order and with its
position as index.  If that run announces another event, it is heard and adds one step; an
announcement of any other run is not heard and changes nothing.  The bus counts the runs. -/
theorem steps_told_by_latest_run (config : Recorder.Config) (draws : Draws) (born : Nat)
    {acts : List (Nat × Nat × Act)} (h : Interleaved acts) :
    let s := (Stage.start (.new config draws born)).play acts
    s.bus.generation = (begun acts).length ∧
    (latest? acts = none → s.steps = []) ∧
    (∀ started run, latest? acts = some (started, run) →
      Told started (announced run acts) s.steps ∧
      ∀ now e, (s.publish now run e).1 = true ∧ ∃ step : Step,
        step.Tells s.steps.length (now - started) e ∧
        (s.publish now run e).2.steps = s.steps ++ [step]) ∧
    ∀ run ∈ (begun acts).map Prod.snd, (∀ started, latest? acts ≠ some (started, run)) →
      ∀ now e, s.publish now run e = (false, s) := by
  intro s
  have hs : Isolated acts s := isolated_of_interleaved config draws born h
  obtain ⟨r, hr, hsteps, hrec⟩ := hs.steps_eq
  refine ⟨hs.generation, fun hl => ?_, fun started run hl => ⟨?_, fun now e => ?_⟩,
    fun run hbegun hl now e => hs.publish_superseded hbegun hl now e⟩
  · rw [Recorded, hl] at hrec
    rw [hsteps, hrec]
  · rw [Recorded, hl] at hrec
    rw [hsteps]
    exact hrec.2
  · obtain ⟨r', hr', hstarted, hpublish⟩ := hs.publish_latest hl now e
    rw [hr] at hr'
    obtain rfl : r = r' := by simpa using hr'
    rw [hpublish]
    refine ⟨rfl, (r.record now e).1, ?_, ?_⟩
    · rw [hsteps, ← hstarted]
      exact r.tells_record now e
    · rw [hsteps]
      rfl

/-- A run is superseded while it waits, and what it announces then leaves no step. -/
theorem steps_told_by_latest_run_superseded :
    let acts : List (Nat × Nat × Act) :=
      [(0, 0, .begin true), (0, 0, .announce { kind := .navigate }), (100, 1, .begin true),
        (300, 1, .announce { kind := .fill }), (500, 0, .announce { kind := .click })]
    let s := (Stage.start (.new {} .zeros 0)).play acts
    Interleaved acts ∧ s.bus.generation = 2 ∧ Told 100 [(300, { kind := .fill })] s.steps ∧
      s.publish 600 0 { kind := .click } = (false, s) := by
  intro acts s
  have h : Interleaved acts :=
    ((((Interleaved.nil.begin 0 (by simp [begun])).announce 0 _ (by simp [begun, beginning?])).begin
      100 (by simp [begun, beginning?])).announce 300 _ (by simp [begun, beginning?])).announce 500
      _ (by simp [begun, beginning?])
  have hlatest : latest? acts = some (100, 1) := rfl
  obtain ⟨hgen, _, htold, hsuper⟩ := steps_told_by_latest_run {} .zeros 0 h
  refine ⟨h, hgen, (htold 100 1 hlatest).1,
    hsuper 0 (by simp [acts, begun, beginning?]) (fun started hl => ?_) 600 { kind := .click }⟩
  rw [hlatest] at hl
  cases hl

end BrowserLab.Concurrent
