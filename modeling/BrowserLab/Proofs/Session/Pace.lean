import BrowserLab.Proofs.Script.Run
import BrowserLab.Proofs.Session.Valid
import BrowserLab.Proofs.Surface.Invoke

/-!
# The trace explains the clock

In a run whose page takes its time, time passes only because events are announced: each is announced
first, and then the page takes the time that the configuration gives for its kind.

* `Paced` says so of a timeline and the clock at its end.
* `admits_inPace`: it outlasts whatever a script does, unless the script asks a page to wait.
* `trace_explains_clock`: when a step happened, and how long the run took, is what the pauses of the
  steps before it add up to.
-/

namespace BrowserLab

/-- How long the page takes for all of some events. -/
def Latency.pauses (l : Latency) : List Event.Kind → Nat
  | [] => 0
  | kind :: rest => l.pauseAfter kind + l.pauses rest

theorem Latency.pauses_snoc (l : Latency) (kinds : List Event.Kind) (kind : Event.Kind) :
    l.pauses (kinds ++ [kind]) = l.pauses kinds + l.pauseAfter kind := by
  induction kinds with
  | nil => exact Nat.add_comm _ _
  | cons head rest ih =>
    rw [List.cons_append, pauses, pauses, ih, Nat.add_assoc]

/-- The kinds of the events of a timeline. -/
def kindsOf (timeline : List (Nat × Event)) : List Event.Kind :=
  timeline.map (·.2.kind)

/-- Each event of the timeline happened after the pauses of those before it, and the clock shows the
time after all of them. -/
structure Paced (l : Latency) (started : Nat) (timeline : List (Nat × Event)) (clock : Nat) :
    Prop where
  clock : clock = started + l.pauses (kindsOf timeline)
  times : ∀ (i now : Nat) (e : Event), timeline[i]? = some (now, e) →
    now = started + l.pauses (kindsOf (timeline.take i))

theorem paced_nil (l : Latency) (started : Nat) : Paced l started [] started :=
  ⟨rfl, fun _ _ _ h => by simp at h⟩

/-- One more event, and the pause after it. -/
theorem Paced.snoc {l : Latency} {started clock : Nat} {timeline : List (Nat × Event)}
    (h : Paced l started timeline clock) (e : Event) :
    Paced l started (timeline ++ [(clock, e)]) (clock + l.pauseAfter e.kind) := by
  refine ⟨?_, fun i now e' hi => ?_⟩
  · rw [kindsOf, List.map_append, List.map_singleton, Latency.pauses_snoc, ← Nat.add_assoc]
    exact congrArg (· + _) h.clock
  · by_cases hlt : i < timeline.length
    · rw [List.getElem?_append_left hlt] at hi
      rw [List.take_append_of_le_length (Nat.le_of_lt hlt)]
      exact h.times i now e' hi
    · have hlast : i = timeline.length := by
        have := (List.getElem?_eq_some_iff.mp hi).1
        rw [List.length_append, List.length_singleton] at this
        omega
      subst hlast
      rw [List.getElem?_concat_length] at hi
      cases hi
      rw [List.take_left]
      exact h.clock

namespace Script

/-- A page has been asked to wait. -/
def Browser.AskedToWait (b : Browser) : Prop :=
  ∃ frame, (.page frame, "waitForTimeout") ∈ b.calls

/-- The browser of a run that began at the time `started`. -/
structure InPace (l : Latency) (started : Nat) (b b' : Browser) : Prop where
  eq : b' = b
  style : b.style = .playwright
  latency : b.latency = l
  paced : ¬ b.AskedToWait → Paced l started b.timeline.toList b.clock

/-- Whatever a script does, time passes only because of the events that it announces. -/
theorem admits_inPace (l : Latency) (started : Nat) :
    Admits .playwright (.endless (InPace l started)) where
  ofStyle h := h.style
  spentStyle h := h.elim
  same h := by
    obtain rfl := h.eq
    exact ⟨rfl, rfl, rfl, rfl, rfl⟩
  agree h := by
    obtain rfl := h.eq
    exact .refl _ _
  tell {b b'} h e _ _ := by
    obtain ⟨rfl, hstyle, hlatency, hpaced⟩ := h
    refine ⟨rfl, hstyle, hlatency, fun hwait => ?_⟩
    have hpause : b'.pauseAfter e.kind = l.pauseAfter e.kind := by
      rw [Browser.pauseAfter, hstyle, hlatency]
    show Paced l started (b'.timeline.push (b'.clock, e)).toList (b'.clock + b'.pauseAfter e.kind)
    rw [Array.toList_push, hpause]
    exact (hpaced hwait).snoc e
  visit h url := { h with eq := by rw [h.eq] }
  register {b b'} h i _ := { h with
    eq := by rw [h.eq]
    paced := fun hwait => by
      show Paced l started (b.timeline.push (b.clock, i.event)).toList b.clock
      rw [Array.toList_push]
      exact (h.paced hwait).snoc i.event }
  define h name v := { h with eq := by rw [h.eq] }
  draw h n _ := { h with eq := by rw [h.eq] }
  call h c := { h with
    eq := by rw [h.eq]
    paced := fun hwait => h.paced fun ⟨frame, hframe⟩ =>
      hwait ⟨frame, List.mem_cons_of_mem _ hframe⟩ }
  wait _ {b b'} h frame n := { h with
    eq := by rw [h.eq]
    paced := fun hwait => absurd ⟨frame, List.mem_cons_self⟩ hwait }

end Script

namespace Session

open Script

/-- The methods of handles that a script would call on the session, the last one first. -/
def calls (fuel : Nat) (s : Session) (code : String) : List (Handle × String) :=
  match compile code with
  | .ok program => (program.run fuel s.begin.2.browser).2.browser.calls
  | .error _ => []

variable {catalog : Catalog} {config : Config} {stepDraws draws : Draws} {runs : Nat} {s : Session}

/-- The trace after a program tells what the program has announced. -/
theorem told_after (s : Session) (m : Machine) :
    Told s.begin.2.clock m.browser.timeline.toList (s.begin.2.after m).trace :=
  Recorder.told_recordAll (r := s.begin.2.recorder) (told_nil _) m.browser.timeline.toList

/-- A trace that tells of a timeline in pace explains when its steps happened. -/
theorem elapsed_of_paced {l : Latency} {started clock : Nat} {timeline : List (Nat × Event)}
    {steps : List Step} (htold : Told started timeline steps)
    (hpaced : Paced l started timeline clock) {i : Nat} {step : Step}
    (hi : steps[i]? = some step) : step.elapsed = l.pauses ((steps.take i).map (·.action)) := by
  have hlt : i < timeline.length := by
    rw [← htold.1]
    exact (List.getElem?_eq_some_iff.mp hi).1
  have hsaid := List.getElem?_eq_getElem hlt
  have hnow := hpaced.times i _ _ hsaid
  rw [(htold.2 i _ _ step hsaid hi).elapsed, hnow, Nat.add_sub_cancel_left, kindsOf,
    List.map_take, List.map_take, htold.actions]

/-- **The trace explains the clock.**  Whatever a script does, and however it ends, a step happens
when the page has taken its time for all steps before it, and the run takes as long as the page
takes for all steps: nothing else lets time pass, unless a page is asked to wait. -/
theorem trace_explains_clock (h : Reached catalog config stepDraws draws runs s)
    (hstyle : s.style = .playwright) (fuel : Nat) (code : String)
    (hcalls : ∀ frame, (.page frame, "waitForTimeout") ∉ s.calls fuel code) :
    (∀ (i : Nat) (step : Step), (s.runWith fuel code).1.steps[i]? = some step →
      step.elapsed = config.latency.pauses
        (((s.runWith fuel code).1.steps.take i).map (·.action))) ∧
      (s.runWith fuel code).1.duration =
        config.latency.pauses ((s.runWith fuel code).1.steps.map (·.action)) := by
  have hvalid := valid_of_reached h
  cases hcode : compile code with
  | error e =>
    rw [runWith_error hvalid hcode]
    exact ⟨fun _ _ hi => by simp at hi, rfl⟩
  | ok program =>
    rw [runWith_ok hvalid hcode]
    have hbegin : InPace config.latency s.begin.2.clock s.begin.2.browser s.begin.2.browser :=
      ⟨rfl, hstyle, congrArg Config.latency hvalid.config_eq, fun _ => paced_nil _ _⟩
    obtain ⟨⟨m', halike⟩, -⟩ :=
      (admits_inPace _ _).upholds.run (Nat.le_refl fuel) program hbegin rfl id
    have hwait : ¬ (program.run fuel s.begin.2.browser).2.browser.AskedToWait := by
      rintro ⟨frame, hframe⟩
      refine hcalls frame ?_
      rw [calls, hcode]
      exact hframe
    have hpaced := halike.browsers.paced hwait
    have htold := s.told_after (program.run fuel s.begin.2.browser).2
    refine ⟨fun i step hi => elapsed_of_paced htold hpaced hi, ?_⟩
    show _ - _ = _
    rw [hpaced.clock, Nat.add_sub_cancel_left, kindsOf, ← htold.actions]

/-- A script visits a page, clicks there, and then fails. -/
theorem trace_explains_clock_failed :
    let s := ((new .builtin (.standard "lab") .zeros .zeros).select "pw-trace-viewer").2
    let code := "await page.goto('/'); await page.click('#go'); missing()"
    (s.runWith 100 code).1.outcome =
        .failed .execution "missing is not defined" ∧
      (s.runWith 100 code).1.steps.map (·.action) = [.navigate, .click] ∧
      (s.runWith 100 code).1.duration = 800 := by
  intro s code
  have h : Reached .builtin (.standard "lab") .zeros .zeros 0 s := .select .new _
  have hactions : (s.runWith 100 code).1.steps.map (·.action) = [.navigate, .click] := by
    decide +kernel
  have hcalls : (s.calls 100 code).all (·.2 ≠ "waitForTimeout") = true := by decide +kernel
  have hexplained := trace_explains_clock h (by decide +kernel) 100 code fun frame hframe => by
    simpa using List.all_eq_true.mp hcalls _ hframe
  refine ⟨by decide +kernel, hactions, ?_⟩
  rw [hexplained.2, hactions]
  rfl

end Session

end BrowserLab
