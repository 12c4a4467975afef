import BrowserLab.Proofs.Script.Reach
import BrowserLab.Proofs.Session.Pace

/-!
# The two surfaces never mix

The page and the commands are for scripts of one style each.  A script of commands never comes by a
handle of the page, so everything it does is announced plainly, and no time passes while it runs.

* `Quiet` says so of a browser, and `admits_quiet` that it outlasts whatever a script of commands
  does.
* `commands_keep_apart`: what a script of commands can come to at any moment, and what its report
  tells.
-/

namespace BrowserLab

/-- What scripts of commands bring about. -/
def Event.Kind.commands : List Event.Kind :=
  [.navigate, .click, .fill, .select, .upload, .drag, .routeIntercept, .apiCall]

/-- The event is one that scripts of commands bring about, and carries no label. -/
structure Event.Plain (e : Event) : Prop where
  label : e.label = none
  kind : e.kind ∈ Event.Kind.commands

theorem Interception.plain_event (i : Interception) : i.event.Plain :=
  ⟨rfl, by simp [Interception.event, Event.Kind.commands]⟩

theorem Style.Announces.plain {e : Event} (h : Style.cypress.Announces e) : e.Plain := by
  refine ⟨h.1, ?_⟩
  have hkind := h.2
  simp only [List.mem_cons, List.not_mem_nil, or_false] at hkind
  rcases hkind with h | h | h | h | h | h | h <;> simp [h, Event.Kind.commands]

namespace Script

/-- The handle is one of the page's: a script of commands should not come by it. -/
def Handle.OfPage : Handle → Prop
  | .page _ => True
  | .locator _ => True
  | .route _ => True
  | .request => True
  | .response _ => True
  | .accessibility => True
  | _ => False

theorem Handle.not_ofPage {h : Handle} (hh : h.Of .cypress) : ¬ h.OfPage := by
  cases h <;> first | exact id | (cases hh)

/-- The browser of a run that began at the time `started`: all that has happened was plain, and no
time has passed. -/
structure Quiet (started : Nat) (b b' : Browser) : Prop where
  eq : b' = b
  style : b.style = .cypress
  clock : b.clock = started
  timeline : ∀ said ∈ b.timeline.toList, said.1 = started ∧ said.2.Plain

/-- One more plain event. -/
theorem Quiet.snoc {started : Nat} {b b' : Browser} (h : Quiet started b b') {e : Event}
    (he : e.Plain) :
    ∀ said ∈ (b.timeline.push (b.clock, e)).toList, said.1 = started ∧ said.2.Plain := by
  intro said hsaid
  rw [Array.toList_push, List.mem_append, List.mem_singleton] at hsaid
  rcases hsaid with hsaid | rfl
  · exact h.timeline said hsaid
  · exact ⟨h.clock, he⟩

/-- Whatever a script of commands does, the browser stays quiet. -/
theorem admits_quiet (started : Nat) : Admits .cypress (.endless (Quiet started)) where
  ofStyle h := h.style
  spentStyle h := h.elim
  same h := by
    obtain rfl := h.eq
    exact ⟨rfl, rfl, rfl, rfl, rfl⟩
  agree h := by
    obtain rfl := h.eq
    exact .refl _ _
  tell {b b'} h e he _ := by
    have hpause : b.pauseAfter e.kind = 0 := by rw [Browser.pauseAfter, h.style]
    refine ⟨by rw [h.eq], h.style, ?_, h.snoc he.plain⟩
    show b.clock + b.pauseAfter e.kind = started
    rw [hpause]
    exact h.clock
  visit h url := { h with eq := by rw [h.eq] }
  register {b b'} h i _ := ⟨by rw [h.eq], h.style, h.clock, h.snoc i.plain_event⟩
  define h name v := { h with eq := by rw [h.eq] }
  draw h n _ := { h with eq := by rw [h.eq] }
  call h c := { h with eq := by rw [h.eq] }
  wait h := by cases h

end Script

namespace Session

open Script

variable {catalog : Catalog} {config : Config} {stepDraws draws : Draws} {runs : Nat} {s : Session}

/-- The machine of a run of commands at any moment, with the browser that it drives. -/
theorem alike_quiet (hstyle : s.style = .cypress) (steps : Option Nat) (fuel : Nat)
    (program : Program) :
    ∃ m', Alike (Handle.Of .cypress) (.endless (Quiet s.begin.2.clock))
      (program.runFor steps fuel s.begin.2.browser).2 m' := by
  have hbegin : Quiet s.begin.2.clock s.begin.2.browser s.begin.2.browser :=
    ⟨rfl, hstyle, rfl, fun _ h => by simp [Session.browser] at h⟩
  exact ((admits_quiet _).upholds.runFor (Nat.le_refl fuel) program steps hbegin rfl id).1

/-- A trace of plain events that all happened when the run began. -/
theorem plain_of_told {started : Nat} {timeline : List (Nat × Event)} {steps : List Step}
    (htold : Told started timeline steps)
    (hplain : ∀ said ∈ timeline, said.1 = started ∧ said.2.Plain) {step : Step}
    (hstep : step ∈ steps) :
    step.action ∈ Event.Kind.commands ∧ step.label = none ∧ step.elapsed = 0 := by
  obtain ⟨i, now, e, hsaid, htells⟩ := htold.of_mem hstep
  obtain ⟨hnow, he⟩ := hplain _ hsaid
  refine ⟨?_, ?_, ?_⟩
  · rw [htells.action]
    exact he.kind
  · rw [htells.label]
    exact he.label
  · rw [htells.elapsed]
    exact Nat.sub_eq_zero_of_le (Nat.le_of_eq hnow)

/-- **The two surfaces never mix.**  Whatever a script of commands does, at no moment of its run, and
not at its end, can it come to a handle of the page: not from what it has made or named or
registered, and not from what any expression would yield or throw.  So each step of the report is of
a kind that commands bring about, carries no label and happened when the run began; and the run
takes no time. -/
theorem commands_keep_apart (h : Reached catalog config stepDraws draws runs s)
    (hstyle : s.style = .cypress) (fuel : Nat) (code : String) :
    (∀ program, compile code = .ok program → ∀ steps,
      (program.runFor steps fuel s.begin.2.browser).2.Lacks Handle.OfPage) ∧
      (∀ step ∈ (s.runWith fuel code).1.steps,
        step.action ∈ Event.Kind.commands ∧ step.label = none ∧ step.elapsed = 0) ∧
      (s.runWith fuel code).1.duration = 0 := by
  have hvalid := valid_of_reached h
  refine ⟨fun program _ steps => ?_, ?_⟩
  · obtain ⟨m', halike⟩ := alike_quiet hstyle steps fuel program
    exact (admits_quiet _).upholds.lacks (fun _ => Handle.not_ofPage) halike fun _ => id
  · cases hcode : compile code with
    | error e =>
      rw [runWith_error hvalid hcode]
      exact ⟨fun _ hstep => by simp at hstep, rfl⟩
    | ok program =>
      rw [runWith_ok hvalid hcode]
      obtain ⟨m', halike⟩ := alike_quiet hstyle none fuel program
      refine ⟨fun step hstep => ?_, ?_⟩
      · exact plain_of_told (s.told_after _) halike.browsers.timeline hstep
      · show _ - _ = 0
        rw [show (program.run fuel s.begin.2.browser).2.browser.clock = s.begin.2.clock from
          halike.browsers.clock, Nat.sub_self]

/-- A script adds a command, calls it in a callback and then fails. -/
theorem commands_keep_apart_failed :
    let s := new .builtin (.standard "lab") .zeros .zeros
    let code := "Cypress.Commands.add('push', () => cy.get('#go').click());
      cy.wrap([1]).then(xs => cy.push());
      missing()"
    (∃ program, compile code = .ok program ∧
      ∀ steps, (program.runFor steps 100 s.begin.2.browser).2.Lacks Handle.OfPage) ∧
      (s.runWith 100 code).1.outcome = .failed .execution "missing is not defined" ∧
      (s.runWith 100 code).1.steps.map (·.action) = [.click] ∧
      (s.runWith 100 code).1.steps.map (·.elapsed) = [0] ∧
      (s.runWith 100 code).1.duration = 0 := by
  intro s code
  have h : Reached .builtin (.standard "lab") .zeros .zeros 0 s := .new
  obtain ⟨hstyle, hok, houtcome, hactions⟩ : s.style = .cypress ∧ (compile code).isOk = true ∧
      (s.runWith 100 code).1.outcome = .failed .execution "missing is not defined" ∧
        (s.runWith 100 code).1.steps.map (·.action) = [.click] := by
    decide +kernel
  have happart := commands_keep_apart h hstyle 100 code
  refine ⟨?_, houtcome, hactions, ?_, happart.2.2⟩
  · cases hcode : compile code with
    | error e => simp [hcode, Except.isOk, Except.toBool] at hok
    | ok program => exact ⟨program, rfl, happart.1 program hcode⟩
  · have hlength : (s.runWith 100 code).1.steps.length = 1 := by
      rw [← List.length_map, hactions]
      rfl
    obtain ⟨step, hstep⟩ := List.length_eq_one_iff.mp hlength
    have := (happart.2.1 step (by rw [hstep]; exact List.mem_singleton_self _)).2.2
    rw [hstep, List.map_singleton, this]

end Session

end BrowserLab
