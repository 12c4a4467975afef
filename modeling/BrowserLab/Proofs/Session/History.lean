import BrowserLab.Proofs.Script.Run
import BrowserLab.Proofs.Session.Valid
import BrowserLab.Proofs.Surface.Invoke
import Mathlib.Data.List.Forall2

/-!
# A run does not depend on what came before it

Two sessions of one catalog and configuration, whatever has been done with them, that have come to
the same scenario and style: a script that is run on both does the same on both.

* `InStep` relates the browsers of the two runs.  Everything is the same but the time, and the times
  differ by as much as those at which the runs began.
* `admits_inStep`: no script can tell the two browsers apart.
* `Recorder.steps_recordAll_inStep`: nor can the recorder.
* `run_independent_of_history`: the reports agree, and so do the playgrounds and what they show.
-/

namespace BrowserLab

/-- The same events at times that differ by as much as `c` and `c'` do. -/
def Shifted (c c' : Nat) : List (Nat × Event) → List (Nat × Event) → Prop :=
  List.Forall₂ fun said said' => said'.2 = said.2 ∧ said.1 + c' = said'.1 + c

theorem Shifted.snoc {c c' now now' : Nat} {timeline timeline' : List (Nat × Event)}
    (h : Shifted c c' timeline timeline') (hnow : now + c' = now' + c) (e : Event) :
    Shifted c c' (timeline ++ [(now, e)]) (timeline' ++ [(now', e)]) :=
  List.rel_append h (.cons ⟨rfl, hnow⟩ .nil)

theorem Shifted.events {c c' : Nat} {timeline timeline' : List (Nat × Event)}
    (h : Shifted c c' timeline timeline') :
    timeline'.map Prod.snd = timeline.map Prod.snd := by
  induction h with
  | nil => rfl
  | cons hhead _ ih => rw [List.map_cons, List.map_cons, ih, hhead.1]

namespace Script

/-- The browsers of two runs that began at the times `c` and `c'`, and draw the same numbers while
the first one goes on to `last`. -/
structure InStep (style : Style) (last : Draws) (c c' : Nat) (b b' : Browser) : Prop where
  ofStyle : b.style = style
  same : b.Same b'
  draws : b.draws.AlikeUntil b'.draws last
  clock : b.clock + c' = b'.clock + c
  timeline : Shifted c c' b.timeline.toList b'.timeline.toList

/-- The browsers are in step until the first one has drawn more than up to `last`. -/
def inStep (style : Style) (last : Draws) (c c' : Nat) : Link where
  related := InStep style last c c'
  spent b := b.style = style ∧ last.position < b.draws.position
  lasting h hstyle hdraws := by
    rw [hstyle, hdraws]
    exact ⟨h.1, Nat.lt_add_right _ h.2⟩

theorem Browser.Same.pauseAfter {b b' : Browser} (h : b.Same b') (kind : Event.Kind) :
    b'.pauseAfter kind = b.pauseAfter kind := by
  rw [Browser.pauseAfter, Browser.pauseAfter, h.style, h.latency]

/-- No script can tell the browsers of the two runs apart. -/
theorem admits_inStep (style : Style) (last : Draws) (c c' : Nat) :
    Admits style (inStep style last c c') where
  ofStyle h := h.ofStyle
  spentStyle h := h.1
  same h := h.same
  agree h := fun i hi => h.draws.agree i fun hlt => hi ⟨h.ofStyle, hlt⟩
  tell {b b'} h e _ _ := by
    obtain ⟨hstyle, hsame, hdraws, hclock, htimeline⟩ := h
    refine ⟨hstyle, { hsame with }, hdraws, ?_, ?_⟩
    · show b.clock + b.pauseAfter e.kind + c' = b'.clock + b'.pauseAfter e.kind + c
      rw [hsame.pauseAfter]
      omega
    · show Shifted c c' (b.timeline.push _).toList (b'.timeline.push _).toList
      rw [Array.toList_push, Array.toList_push]
      exact htimeline.snoc hclock e
  visit h url := { h with same := { h.same with url := rfl } }
  register {b b'} h i _ := { h with
    same := { h.same with interceptions := congrArg (· ++ [i]) h.same.interceptions }
    timeline := by
      show Shifted c c' (b.timeline.push _).toList (b'.timeline.push _).toList
      rw [Array.toList_push, Array.toList_push]
      exact h.timeline.snoc h.clock i.event }
  define {b b'} h name v := { h with same := { h.same with
    commands := congrArg (Dict.insert · name v) h.same.commands } }
  draw h n _ := { h with same := { h.same with }, draws := h.draws.skip n }
  call h c := { h with same := { h.same with } }
  wait _ {b b'} h frame n := { h with
    same := { h.same with }
    clock := by
      have := h.clock
      show b.clock + n + c' = b'.clock + n + c
      omega }

end Script

/-! ### The traces of two runs -/

namespace Recorder

/-- How long the next step takes, as drawn. -/
def nextDuration (r : Recorder) : Nat :=
  r.config.minimum + r.draws.source r.draws.position % max r.config.spread 1

theorem record_eq (r : Recorder) (now : Nat) (e : Event) :
    r.record now e =
      (r.stepOf now r.nextDuration e,
        { r with
          steps := r.steps ++ [r.stepOf now r.nextDuration e]
          draws := r.draws.skip 1 }) :=
  rfl

/-- The recorder draws once for each step. -/
theorem position_recordAll (r : Recorder) (timeline : List (Nat × Event)) :
    (r.recordAll timeline).draws.position = r.draws.position + timeline.length := by
  induction timeline generalizing r with
  | nil => rfl
  | cons said rest ih =>
    rw [recordAll_cons, ih, List.length_cons, Nat.add_comm rest.length, ← Nat.add_assoc]
    rfl

/-- The recorders of the two runs write down the same steps. -/
theorem steps_recordAll_inStep {timeline : List (Nat × Event)} :
    ∀ {timeline' : List (Nat × Event)} {r r' : Recorder}, r'.config = r.config →
      r'.steps = r.steps → r.draws.AlikeUntil r'.draws (r.recordAll timeline).draws →
      Shifted r.started r'.started timeline timeline' →
      (r'.recordAll timeline').steps = (r.recordAll timeline).steps := by
  induction timeline with
  | nil =>
    intro timeline' r r' _ hsteps _ h
    cases h
    exact hsteps
  | cons said rest ih =>
    intro timeline' r r' hconfig hsteps hdraws h
    obtain _ | ⟨⟨hevent, hnow⟩, hrest⟩ := h
    next said' rest' =>
    obtain ⟨now, e⟩ := said
    obtain ⟨now', e'⟩ := said'
    dsimp only at hevent hnow
    subst hevent
    have hnext : r'.nextDuration = r.nextDuration := by
      have hdrawn := hdraws 0 (by rw [position_recordAll, List.length_cons]; omega)
      rw [Nat.add_zero, Nat.add_zero] at hdrawn
      rw [nextDuration, nextDuration, hconfig, hdrawn]
    have hstep : r'.stepOf now' r'.nextDuration e' = r.stepOf now r.nextDuration e' := by
      have helapsed : now' - r'.started = now - r.started := by omega
      rw [stepOf, stepOf, hsteps, helapsed, hnext]
    rw [recordAll_cons, record_eq] at hdraws
    rw [recordAll_cons, recordAll_cons, record_eq, record_eq, hstep]
    refine ih hconfig ?_ (hdraws.skip 1) hrest
    dsimp only
    rw [hsteps]

end Recorder

/-! ### The sessions after two runs -/

namespace Session

open Script

variable {catalog : Catalog} {config : Config} {runs₁ runs₂ : Nat} {s₁ s₂ : Session}

theorem playground_begin {s : Session} {runs : Nat} (h : s.Valid catalog config runs) :
    s.begin.2.playground = .new s.activeScenario.environment s.clock := by
  rw [← h.kind_eq]
  exact playground_modify (f := (·.reset s.clock)) h.active_lt rfl rfl

theorem playground_after {s : Session} {runs : Nat} (h : s.Valid catalog config runs)
    (m : Machine) :
    (s.begin.2.after m).playground =
      (Playground.new s.activeScenario.environment s.clock).hearAll
        (m.browser.timeline.toList.map Prod.snd) := by
  rw [← playground_begin h]
  exact playground_modify (f := (·.hearAll (m.browser.timeline.toList.map Prod.snd)))
    h.begin.active_lt rfl rfl

/-- The browsers of the two runs are in step when the runs begin. -/
theorem inStep_begin (h₁ : s₁.Valid catalog config runs₁) (h₂ : s₂.Valid catalog config runs₂)
    (hstyle : s₂.style = s₁.style) {last : Draws} (hdraws : s₁.draws.AlikeUntil s₂.draws last) :
    InStep s₁.style last s₁.begin.2.clock s₂.begin.2.clock
      s₁.begin.2.browser s₂.begin.2.browser where
  ofStyle := rfl
  same := ⟨hstyle, by
    show s₂.config.latency = s₁.config.latency
    rw [h₁.config_eq, h₂.config_eq], rfl, rfl, rfl⟩
  draws := hdraws
  clock := Nat.add_comm _ _
  timeline := .nil

/-- What is left of two sessions once programs have been run on them that were in step. -/
theorem after_inStep (h₁ : s₁.Valid catalog config runs₁) (h₂ : s₂.Valid catalog config runs₂)
    (hscenario : s₂.scenario = s₁.scenario) {m₁ m₂ : Machine} {last : Draws}
    (hsteps : s₁.recorder.draws.AlikeUntil s₂.recorder.draws (s₁.begin.2.after m₁).recorder.draws)
    (h : InStep s₁.style last s₁.begin.2.clock s₂.begin.2.clock m₁.browser m₂.browser) :
    (s₂.begin.2.after m₂).trace = (s₁.begin.2.after m₁).trace ∧
      (s₂.begin.2.after m₂).playground = (s₁.begin.2.after m₁).playground.openedAt s₂.clock ∧
      (s₂.begin.2.after m₂).view = (s₁.begin.2.after m₁).view := by
  have hactive : s₂.activeScenario = s₁.activeScenario := by
    rw [activeScenario, activeScenario, h₁.catalog_eq, h₂.catalog_eq, hscenario]
  have htrace : (s₂.begin.2.after m₂).trace = (s₁.begin.2.after m₁).trace := by
    have hconfig : s₂.begin.2.recorder.config = s₁.begin.2.recorder.config := by
      rw [h₁.begin.recorder_config, h₂.begin.recorder_config]
    exact Recorder.steps_recordAll_inStep hconfig rfl hsteps h.timeline
  have hplayground : (s₂.begin.2.after m₂).playground =
      (s₁.begin.2.after m₁).playground.openedAt s₂.clock := by
    rw [playground_after h₁, playground_after h₂, hactive, h.timeline.events,
      ← Playground.hearAll_openedAt, Playground.new_openedAt]
  refine ⟨htrace, hplayground, ?_⟩
  rw [view, view, hplayground]
  refine Playground.view_openedAt _ ?_
  have hmounted : (s₁.begin.2.after m₁).playground.mounted = s₁.clock := by
    rw [playground_after h₁, Playground.hearAll_mounted]
    rfl
  have hclock : m₁.browser.clock + (s₂.clock + s₂.config.latency.warmup) =
      m₂.browser.clock + (s₁.clock + s₁.config.latency.warmup) := h.clock
  rw [h₁.config_eq, h₂.config_eq] at hclock
  rw [hmounted]
  show m₂.browser.clock - s₂.clock = m₁.browser.clock - s₁.clock
  omega

/-- **A run does not depend on what came before it.**  Two sessions of one catalog and
configuration, whatever has been done with them, have come to the same scenario and style.  If a
script comes to an end on the first one, it does so on the second one, if what is drawn in the run
is the same for both: the reports differ in the number of the run at most, and the playgrounds,
which are the same but for the time at which they were opened, show the same. -/
theorem run_independent_of_history {stepDraws₁ draws₁ stepDraws₂ draws₂ : Draws}
    (h₁ : Reached catalog config stepDraws₁ draws₁ runs₁ s₁)
    (h₂ : Reached catalog config stepDraws₂ draws₂ runs₂ s₂)
    (hscenario : s₂.scenario = s₁.scenario) (hstyle : s₂.style = s₁.style)
    {fuel fuel' : Nat} (hfuel : fuel ≤ fuel') (code : String)
    (hdraws : s₁.draws.AlikeUntil s₂.draws (s₁.runWith fuel code).2.draws)
    (hsteps : s₁.recorder.draws.AlikeUntil s₂.recorder.draws
      (s₁.runWith fuel code).2.recorder.draws)
    (hend : (s₁.runWith fuel code).1.outcome ≠ .unfinished) :
    (s₂.runWith fuel' code).1 = { (s₁.runWith fuel code).1 with generation := runs₂ + 1 } ∧
      (s₂.runWith fuel' code).2.playground =
        (s₁.runWith fuel code).2.playground.openedAt s₂.clock ∧
      (s₂.runWith fuel' code).2.view = (s₁.runWith fuel code).2.view := by
  have hvalid₁ := valid_of_reached h₁
  have hvalid₂ := valid_of_reached h₂
  have hactive : s₂.activeScenario = s₁.activeScenario := by
    rw [activeScenario, activeScenario, hvalid₁.catalog_eq, hvalid₂.catalog_eq, hscenario]
  cases hcode : compile code with
  | error e =>
    -- nothing is run, so the browsers are as they were
    rw [runWith_error hvalid₁ hcode, runWith_error hvalid₂ hcode, hactive, hstyle]
    refine ⟨rfl, ?_, ?_⟩
    · rw [playground_begin hvalid₁, playground_begin hvalid₂, hactive]
      rfl
    · rw [view, view, playground_begin hvalid₁, playground_begin hvalid₂, hactive]
      refine Playground.view_openedAt (.new s₁.activeScenario.environment s₁.clock) ?_
      show s₂.clock + s₂.config.latency.warmup - s₂.clock =
        s₁.clock + s₁.config.latency.warmup - s₁.clock
      rw [hvalid₁.config_eq, hvalid₂.config_eq, Nat.add_sub_cancel_left, Nat.add_sub_cancel_left]
  | ok program =>
    rw [runWith_ok hvalid₁ hcode] at hdraws hsteps hend ⊢
    rw [runWith_ok hvalid₂ hcode, hactive, hstyle]
    have hbegin := inStep_begin hvalid₁ hvalid₂ hstyle hdraws
    have hupholds := (admits_inStep s₁.style (program.run fuel s₁.begin.2.browser).2.browser.draws
      s₁.begin.2.clock s₂.begin.2.clock).upholds
    have hrun := (hupholds.run hfuel program hbegin rfl fun hspent => Nat.lt_irrefl _ hspent.2).2
      (fun hexhausted => hend (by rw [hexhausted]; rfl))
    obtain ⟨hending, halike⟩ := hrun
    have hafter := after_inStep hvalid₁ hvalid₂ hscenario hsteps halike.browsers
    clear hend hdraws hsteps hbegin
    generalize program.run fuel s₁.begin.2.browser = r₁ at hending halike hafter ⊢
    generalize program.run fuel' s₂.begin.2.browser = r₂ at hending halike hafter ⊢
    have hduration : r₂.2.browser.clock - s₂.begin.2.clock =
        r₁.2.browser.clock - s₁.begin.2.clock := by
      have := halike.browsers.clock
      omega
    have hconsole : r₂.2.console = r₁.2.console := by rw [halike.same]
    refine ⟨?_, hafter.2⟩
    rw [hduration, hending, hconsole, hafter.1]

/-- Another script has been run on the second session, and time has passed. -/
theorem run_independent_of_history_second :
    let s₁ := new .builtin (.standard "lab") .zeros .zeros
    let s₂ := (s₁.runWith 100 "cy.get('#go').click()").2.sleep 250
    let code := "cy.visit('/').url().should('include', '/')"
    (s₁.runWith 100 code).1.steps.length = 1 ∧
      (s₂.runWith 100 code).1 = { (s₁.runWith 100 code).1 with generation := 2 } ∧
      (s₂.runWith 100 code).2.view = (s₁.runWith 100 code).2.view := by
  intro s₁ s₂ code
  have h₁ : Reached .builtin (.standard "lab") .zeros .zeros 0 s₁ := .new
  have h₂ : Reached .builtin (.standard "lab") .zeros .zeros 1 s₂ := .sleep (.run .new _ _) _
  obtain ⟨hdrawn, hsteps, hlength⟩ : (s₁.runWith 100 code).2.draws.position = 0 ∧
      (s₁.runWith 100 code).2.recorder.draws.position = 1 ∧
        (s₁.runWith 100 code).1.steps.length = 1 := by
    decide +kernel
  have hrun := run_independent_of_history h₁ h₂ (by decide +kernel) (by decide +kernel)
    (Nat.le_refl 100) code
    (fun i hi => by rw [hdrawn] at hi; exact absurd hi (Nat.not_lt_zero _))
    (fun i hi => by
      -- one step is written down, and its number is drawn
      have : i = 0 := by rw [hsteps] at hi; omega
      subst this
      decide +kernel)
    (by decide +kernel)
  exact ⟨hlength, hrun.1, hrun.2.2⟩

end Session

end BrowserLab
