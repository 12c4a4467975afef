import BrowserLab.Catalog.Builtin
import BrowserLab.Proofs.Session.Announce

/-!
# What holds of every session

`Reached` says that a session comes from a new one by selecting scenarios, setting styles and
running scripts, in any order and whether they succeed or fail, with any time in between.

* `Valid` is the invariant.  It ties together the scenario, the style, the active playground, the
  listeners on the bus and the number of runs.
* `valid_of_reached`: it holds of every session that is reached.
* `runWith_ok`: what is left of a session after the run of a program.
* `session_invariant`: the invariant in full, and what becomes of a session if an operation fails.
-/

namespace BrowserLab

/-! ### Scenarios -/

theorem Scenario.supports_defaultStyle (s : Scenario) : s.supports s.defaultStyle = true := by
  unfold supports defaultStyle
  cases s.supportedStyles with
  | nil => rfl
  | cons style rest => simp

theorem Scenario.supports_resolveStyle (s : Scenario) (style : Style) :
    s.supports (s.resolveStyle style) = true := by
  unfold resolveStyle
  split
  · assumption
  · exact s.supports_defaultStyle

theorem Catalog.position?_lt {c : Catalog} {id : String} {i : Nat} (h : c.position? id = some i) :
    i < c.size :=
  (List.findIdx?_eq_some_iff_getElem.mp h).1

theorem Catalog.size_pos (c : Catalog) : 0 < c.size := List.length_pos_iff.mpr c.nonempty

namespace Session

/-! ### The active playground -/

theorem playground_eq {s : Session} (h : s.active < s.playgrounds.size) :
    s.playground = s.playgrounds[s.active] := by
  rw [playground, Array.getD_eq_getD_getElem?, Array.getElem?_eq_getElem h, Option.getD_some]

/-- A change of the active playground, whatever else changes. -/
theorem playground_modify {s t : Session} {f : Playground → Playground}
    (h : s.active < s.playgrounds.size) (hactive : t.active = s.active)
    (hplaygrounds : t.playgrounds = s.playgrounds.modify s.active f) :
    t.playground = f s.playground := by
  have ht : t.active < t.playgrounds.size := by
    rw [hactive, hplaygrounds, Array.size_modify]
    exact h
  rw [playground_eq ht, playground_eq h]
  simp only [hactive, hplaygrounds, Array.getElem_modify_self]

theorem playground_resetPlayground {s : Session} (h : s.active < s.playgrounds.size) :
    s.resetPlayground.playground = .new s.playground.kind s.clock :=
  playground_modify (f := (·.reset s.clock)) h rfl rfl

/-! ### The invariant -/

/-- What holds of a session after some runs. -/
structure Valid (catalog : Catalog) (config : Config) (runs : Nat) (s : Session) : Prop where
  catalog_eq : s.catalog = catalog
  config_eq : s.config = config
  recorder_config : s.recorder.config = config.recorder
  scenario_lt : s.scenario < catalog.size
  supports : s.activeScenario.supports s.style = true
  active_lt : s.active < s.playgrounds.size
  kind_eq : s.playground.kind = s.activeScenario.environment
  wired : s.Wired
  generation_eq : s.bus.generation = runs

/-- The sessions that a new one can become, with the number of runs made. -/
inductive Reached (catalog : Catalog) (config : Config) (stepDraws draws : Draws) :
    Nat → Session → Prop
  | new : Reached catalog config stepDraws draws 0 (.new catalog config stepDraws draws)
  | select {runs : Nat} {s : Session} (h : Reached catalog config stepDraws draws runs s)
      (id : String) : Reached catalog config stepDraws draws runs (s.select id).2
  | setStyle {runs : Nat} {s : Session} (h : Reached catalog config stepDraws draws runs s)
      (style : Style) : Reached catalog config stepDraws draws runs (s.setStyle style).2
  | run {runs : Nat} {s : Session} (h : Reached catalog config stepDraws draws runs s)
      (fuel : Nat) (code : String) :
      Reached catalog config stepDraws draws (runs + 1) (s.runWith fuel code).2
  | sleep {runs : Nat} {s : Session} (h : Reached catalog config stepDraws draws runs s)
      (milliseconds : Nat) : Reached catalog config stepDraws draws runs (s.sleep milliseconds)

variable {catalog : Catalog} {config : Config} {stepDraws draws : Draws} {runs : Nat} {s : Session}

theorem valid_new : (new catalog config stepDraws draws).Valid catalog config 0 := by
  have hfirst : (new catalog config stepDraws draws).activeScenario = catalog.first := by
    show catalog.scenarios.getD 0 catalog.first = catalog.first
    rw [Catalog.first]
    cases catalog with
    | mk scenarios nonempty _ =>
      cases scenarios with
      | nil => exact absurd rfl nonempty
      | cons first rest => rfl
  refine ⟨rfl, rfl, rfl, catalog.size_pos, ?_, Nat.one_pos, ?_, rfl, rfl⟩
  · rw [hfirst]
    exact catalog.first.supports_defaultStyle
  · rw [hfirst]
    rfl

namespace Valid

/-- What leaves scenario, style, listeners and the kind of the active playground as they are. -/
theorem of_same (h : s.Valid catalog config runs) (t : Session) (hcatalog : t.catalog = s.catalog)
    (hconfig : t.config = s.config) (hrecorder : t.recorder.config = s.recorder.config)
    (hscenario : t.scenario = s.scenario) (hstyle : t.style = s.style)
    (hlisteners : t.bus.listeners = s.bus.listeners) (hactive : t.active = s.active)
    {f : Playground → Playground} (hf : ∀ p, (f p).kind = p.kind)
    (hplaygrounds : t.playgrounds = s.playgrounds.modify s.active f) :
    t.Valid catalog config t.bus.generation := by
  have hactiveScenario : t.activeScenario = s.activeScenario := by
    rw [activeScenario, activeScenario, hcatalog, hscenario]
  refine ⟨hcatalog.trans h.catalog_eq, hconfig.trans h.config_eq,
    hrecorder.trans h.recorder_config, ?_, ?_, ?_, ?_, ?_, rfl⟩
  · rw [hscenario]
    exact h.scenario_lt
  · rw [hactiveScenario, hstyle]
    exact h.supports
  · rw [hactive, hplaygrounds, Array.size_modify]
    exact h.active_lt
  · rw [playground_modify h.active_lt hactive hplaygrounds, hf, hactiveScenario]
    exact h.kind_eq
  · rw [Wired, hlisteners, hactive]
    exact h.wired

theorem modify_id (s : Session) : s.playgrounds = s.playgrounds.modify s.active id := by
  ext i hi hi'
  · simp
  · simp [Array.getElem_modify]

theorem resetPlayground (h : s.Valid catalog config runs) :
    s.resetPlayground.Valid catalog config runs := by
  have := h.of_same s.resetPlayground rfl rfl rfl rfl rfl rfl rfl (f := (·.reset s.clock))
    (fun _ => rfl) rfl
  rwa [show s.resetPlayground.bus.generation = runs from h.generation_eq] at this

theorem resetTrace (h : s.Valid catalog config runs) : s.resetTrace.Valid catalog config runs := by
  have := h.of_same s.resetTrace rfl rfl rfl rfl rfl rfl rfl (fun _ => rfl) (modify_id s)
  rwa [show s.resetTrace.bus.generation = runs from h.generation_eq] at this

theorem sleep (h : s.Valid catalog config runs) (milliseconds : Nat) :
    (s.sleep milliseconds).Valid catalog config runs := by
  have := h.of_same (s.sleep milliseconds) rfl rfl rfl rfl rfl rfl rfl (fun _ => rfl) (modify_id s)
  rwa [show (s.sleep milliseconds).bus.generation = runs from h.generation_eq] at this

theorem begin (h : s.Valid catalog config runs) : s.begin.2.Valid catalog config (runs + 1) := by
  have hgeneration : s.begin.2.bus.generation = runs + 1 := by
    show s.bus.generation + 1 = runs + 1
    rw [h.generation_eq]
  rw [← hgeneration]
  exact h.of_same _ rfl rfl rfl rfl rfl rfl rfl (f := (·.reset s.clock)) (fun _ => rfl) rfl

theorem hearing (h : s.Valid catalog config runs) (timeline : List (Nat × Event)) :
    (s.hearing timeline).Valid catalog config runs := by
  have := h.of_same (s.hearing timeline) rfl rfl (Recorder.recordAll_config _ _) rfl rfl rfl rfl
    (f := (·.hearAll (timeline.map Prod.snd))) (fun _ => Playground.hearAll_kind _ _) rfl
  rwa [show (s.hearing timeline).bus.generation = runs from h.generation_eq] at this

end Valid

/-! ### Selecting scenarios and styles -/

theorem activate_playground (h : s.active < s.playgrounds.size) (kind : Environment) :
    (s.activate kind).playground = .new kind s.clock := by
  unfold activate
  split
  · next hkind => rw [playground_resetPlayground h, hkind]
  · refine (playground_eq ?_).trans ?_
    · simp
    · simp

theorem activate_active_lt (h : s.active < s.playgrounds.size) (kind : Environment) :
    (s.activate kind).active < (s.activate kind).playgrounds.size := by
  unfold activate
  split
  · simpa [Session.resetPlayground] using h
  · simp

theorem activate_wired (h : s.Wired) (kind : Environment) : (s.activate kind).Wired := by
  unfold activate
  split
  · exact h
  · unfold Wired Bus.subscribe
    rw [h]
    rfl

/-- Activating a playground changes nothing but the playground that listens. -/
theorem activate_same (s : Session) (kind : Environment) :
    (s.activate kind).catalog = s.catalog ∧ (s.activate kind).config = s.config ∧
      (s.activate kind).recorder = s.recorder ∧ (s.activate kind).scenario = s.scenario ∧
      (s.activate kind).style = s.style ∧
      (s.activate kind).bus.generation = s.bus.generation := by
  unfold activate
  split <;> exact ⟨rfl, rfl, rfl, rfl, rfl, rfl⟩

/-- Once the playground of the active scenario is the active one, the invariant holds. -/
theorem valid_activate (hcatalog : s.catalog = catalog) (hconfig : s.config = config)
    (hrecorder : s.recorder.config = config.recorder) (hscenario : s.scenario < catalog.size)
    (hsupports : s.activeScenario.supports s.style = true)
    (hactive : s.active < s.playgrounds.size) (hwired : s.Wired)
    (hgeneration : s.bus.generation = runs) :
    (s.activate s.activeScenario.environment).Valid catalog config runs := by
  obtain ⟨hcatalog', hconfig', hrecorder', hscenario', hstyle', hgeneration'⟩ :=
    s.activate_same s.activeScenario.environment
  have hactiveScenario :
      (s.activate s.activeScenario.environment).activeScenario = s.activeScenario := by
    rw [activeScenario, hcatalog', hscenario']
    rfl
  refine ⟨hcatalog'.trans hcatalog, hconfig'.trans hconfig, ?_, ?_, ?_,
    activate_active_lt hactive _, ?_, activate_wired hwired _, hgeneration'.trans hgeneration⟩
  · rw [hrecorder']
    exact hrecorder
  · rw [hscenario']
    exact hscenario
  · rw [hactiveScenario, hstyle']
    exact hsupports
  · rw [activate_playground hactive, hactiveScenario]
    rfl

theorem Valid.select (h : s.Valid catalog config runs) (id : String) :
    (s.select id).2.Valid catalog config runs := by
  unfold Session.select
  cases hi : s.catalog.position? id with
  | none => exact h
  | some i =>
    let t : Session :=
      { s with scenario := i, style := (s.catalog.getD i).resolveStyle s.style }
    have hi : i < catalog.size := h.catalog_eq ▸ Catalog.position?_lt hi
    exact (valid_activate (s := t) h.catalog_eq h.config_eq h.recorder_config hi
      (Scenario.supports_resolveStyle _ _) h.active_lt h.wired h.generation_eq).resetTrace

theorem Valid.setStyle (h : s.Valid catalog config runs) (style : Style) :
    (s.setStyle style).2.Valid catalog config runs := by
  unfold Session.setStyle
  dsimp only
  split
  · exact h
  · next hsupports =>
    split
    · exact h
    · have hsupports : s.activeScenario.supports style = true := by simpa using hsupports
      have hstyle : ({ s with style := style } : Session).Valid catalog config runs :=
        { h with supports := hsupports }
      exact hstyle.resetPlayground.resetTrace

/-- A successful selection leaves an empty trace and a page that has just been opened. -/
theorem select_ok (h : s.active < s.playgrounds.size) {id : String} {scenario : Scenario}
    (hok : (s.select id).1 = .ok scenario) :
    (s.select id).2.trace = [] ∧
      (s.select id).2.playground = .new scenario.environment s.clock := by
  unfold select at hok ⊢
  cases hi : s.catalog.position? id with
  | none =>
    rw [hi] at hok
    cases hok
  | some i =>
    rw [hi] at hok
    cases hok
    refine ⟨rfl, ?_⟩
    exact activate_playground (s := { s with scenario := i, style := _ }) h _

theorem select_error {id : String} {e : LabError} (herror : (s.select id).1 = .error e) :
    (s.select id).2 = s := by
  unfold select at herror ⊢
  cases hi : s.catalog.position? id with
  | none => rfl
  | some i =>
    rw [hi] at herror
    cases herror

theorem setStyle_error {style : Style} {e : LabError} (herror : (s.setStyle style).1 = .error e) :
    (s.setStyle style).2 = s := by
  unfold setStyle at herror ⊢
  dsimp only at herror ⊢
  split
  · rfl
  · next hsupports =>
    rw [if_neg hsupports] at herror
    split at herror <;> cases herror

/-! ### Runs -/

/-- What a session is after a program has been run on it, once it has begun. -/
def after (s : Session) (m : Script.Machine) : Session :=
  { s.hearing m.browser.timeline.toList with
    clock := m.browser.clock
    draws := m.browser.draws }

theorem Valid.after (h : s.Valid catalog config runs) (m : Script.Machine) :
    (s.after m).Valid catalog config runs := by
  have := (h.hearing m.browser.timeline.toList).of_same (s.after m) rfl rfl rfl rfl rfl rfl rfl
    (fun _ => rfl) (modify_id (s.hearing m.browser.timeline.toList))
  rwa [show (s.after m).bus.generation = runs from h.generation_eq] at this

theorem begin_isCurrent (s : Session) : s.begin.2.bus.isCurrent s.begin.1 = true := by
  simp [begin, Bus.begin, Bus.isCurrent, resetTrace, resetPlayground, sleep]

/-- The run of a program, once it has begun. -/
theorem perform_of_wired {token : Token} (hwired : s.Wired)
    (htoken : s.bus.isCurrent token = true) (fuel : Nat) (program : Script.Program) :
    s.perform fuel token program =
      (.ofEnding (program.run fuel s.browser).1, (program.run fuel s.browser).2.console.reverse,
        s.after (program.run fuel s.browser).2) := by
  unfold perform
  dsimp only
  rw [announce_of_wired _ hwired htoken]
  rfl

/-- The report of a run and what is left of the session, by what the program did. -/
theorem runWith_ok (h : s.Valid catalog config runs) {code : String} {program : Script.Program}
    (hcode : Script.compile code = .ok program) (fuel : Nat) :
    s.runWith fuel code =
      ({ generation := runs + 1
         scenario := s.activeScenario.id
         style := s.style
         duration := (program.run fuel s.begin.2.browser).2.browser.clock - s.begin.2.clock
         outcome := .ofEnding (program.run fuel s.begin.2.browser).1
         steps := (s.begin.2.after (program.run fuel s.begin.2.browser).2).trace
         console := (program.run fuel s.begin.2.browser).2.console.reverse },
        s.begin.2.after (program.run fuel s.begin.2.browser).2) := by
  have hperform := perform_of_wired h.begin.wired s.begin_isCurrent fuel program
  unfold runWith
  dsimp only
  rw [hcode]
  dsimp only
  rw [hperform, ← h.generation_eq]
  rfl

/-- The report of a text that is not a script, and what is left of the session. -/
theorem runWith_error (h : s.Valid catalog config runs) {code : String} {e : Script.SyntaxError}
    (hcode : Script.compile code = .error e) (fuel : Nat) :
    s.runWith fuel code =
      ({ generation := runs + 1
         scenario := s.activeScenario.id
         style := s.style
         duration := 0
         outcome := .ofSyntaxError e
         steps := []
         console := [] }, s.begin.2) := by
  unfold runWith
  dsimp only
  rw [hcode]
  dsimp only
  rw [← h.generation_eq, Nat.sub_self]
  rfl

theorem Valid.run (h : s.Valid catalog config runs) (fuel : Nat) (code : String) :
    (s.runWith fuel code).2.Valid catalog config (runs + 1) := by
  cases hcode : Script.compile code with
  | ok program =>
    rw [runWith_ok h hcode]
    exact h.begin.after _
  | error e =>
    rw [runWith_error h hcode]
    exact h.begin

/-! ### All sessions -/

theorem valid_of_reached (h : Reached catalog config stepDraws draws runs s) :
    s.Valid catalog config runs := by
  induction h with
  | new => exact valid_new
  | select _ id ih => exact ih.select id
  | setStyle _ style ih => exact ih.setStyle style
  | run _ fuel code ih => exact ih.run fuel code
  | sleep _ milliseconds ih => exact ih.sleep milliseconds

/-- **What holds of every session.**  The active scenario is one of the catalog and supports the
style, the active playground is of its kind, the playground listens and then the recorder and nobody
else, and the bus has counted the runs.  An operation that fails changes nothing, and a scenario
that is selected begins with an empty trace and a page that has just been opened. -/
theorem session_invariant (h : Reached catalog config stepDraws draws runs s) :
    (s.scenario < s.catalog.size ∧ s.activeScenario.supports s.style = true) ∧
      (s.active < s.playgrounds.size ∧ s.playground.kind = s.activeScenario.environment) ∧
      s.bus.listeners = [(.environment, .playground s.active), (.recorder, .recorder)] ∧
      s.bus.generation = runs ∧
      (∀ id e, (s.select id).1 = .error e → (s.select id).2 = s) ∧
      (∀ style e, (s.setStyle style).1 = .error e → (s.setStyle style).2 = s) ∧
      ∀ id scenario, (s.select id).1 = .ok scenario →
        (s.select id).2.trace = [] ∧
          (s.select id).2.playground = .new scenario.environment s.clock := by
  have hvalid := valid_of_reached h
  refine ⟨⟨?_, hvalid.supports⟩, ⟨hvalid.active_lt, hvalid.kind_eq⟩, hvalid.wired,
    hvalid.generation_eq, fun _ _ => select_error, fun _ _ => setStyle_error,
    fun _ _ => select_ok hvalid.active_lt⟩
  rw [hvalid.catalog_eq]
  exact hvalid.scenario_lt

/-- Another playground is in use, what is not a script has been run, and there is no scenario of the
name that is asked for. -/
theorem session_invariant_after_failures :
    let s := (((new .builtin (.standard "lab") .zeros .zeros).select "basic-auth").2.runWith
      10 ")").2
    s.active = 1 ∧
      s.bus.listeners = [(.environment, .playground 1), (.recorder, .recorder)] ∧
      s.bus.generation = 1 ∧ (s.select "nowhere").1 = .error (.scenarioNotFound "nowhere") ∧
      (s.select "nowhere").2 = s := by
  intro s
  have h : Reached .builtin (.standard "lab") .zeros .zeros 1 s := .run (.select .new _) _ _
  have hactive : s.active = 1 := by decide +kernel
  have hnone : s.catalog.position? "nowhere" = none := by decide +kernel
  have herror : (s.select "nowhere").1 = .error (.scenarioNotFound "nowhere") := by
    rw [select, hnone]
  obtain ⟨_, _, hlisteners, hgeneration, hselect, _⟩ := session_invariant h
  rw [hactive] at hlisteners
  exact ⟨hactive, hlisteners, hgeneration, herror, hselect _ _ herror⟩

end Session

end BrowserLab
