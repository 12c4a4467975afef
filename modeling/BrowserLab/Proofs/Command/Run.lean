import BrowserLab.Command.Run
import BrowserLab.Proofs.Progress.Load
import BrowserLab.Proofs.Progress.Record
import BrowserLab.Proofs.Session.Valid

/-!
# What running a script does to progress

A run can be refused for three reasons, and then nothing is done.  Otherwise the session that the
script is run in takes the scenario and the style, so that the run cannot fail any more, however the
script ends; and what is saved is what was there before with the scenario, the style and, if it came
from a file, the code.

* `exercise_eq_error_iff`: why a run is refused.
* `Session.accepts`: a style that was found for a scenario is one that a session takes.
* `Exercise.leaves_recorded`: what is changed in progress, and that nothing else is.
* `Context.run_keeps_progress`: the disk after a run.
-/

namespace BrowserLab

/-! ### Scenarios that are found -/

theorem Catalog.get_eq_ok_iff {c : Catalog} {id : String} {scenario : Scenario} :
    c.get id = .ok scenario ↔ c.find? id = some scenario := by
  unfold get
  cases c.find? id <;> simp

theorem Catalog.get_eq_error_iff {c : Catalog} {id : String} {e : LabError} :
    c.get id = .error e ↔
      (∀ scenario ∈ c.scenarios, scenario.id ≠ id) ∧ e = .scenarioNotFound id := by
  have hnone : c.find? id = none ↔ ∀ scenario ∈ c.scenarios, scenario.id ≠ id := by
    rw [find?, List.find?_eq_none]
    simp
  rw [← hnone, get]
  cases c.find? id with
  | none => simp [eq_comm]
  | some scenario => simp

theorem Catalog.id_of_get {c : Catalog} {id : String} {scenario : Scenario}
    (h : c.get id = .ok scenario) : scenario.id = id := by
  simpa using List.find?_some (get_eq_ok_iff.mp h)

/-- A scenario that is found is found by its name. -/
theorem Catalog.get_id {c : Catalog} {id : String} {scenario : Scenario}
    (h : c.get id = .ok scenario) : c.get scenario.id = .ok scenario := by
  rw [id_of_get h]
  exact h

/-- A scenario that is found has a position. -/
theorem Catalog.position?_of_get {c : Catalog} {id : String} {scenario : Scenario}
    (h : c.get id = .ok scenario) : ∃ i, c.position? id = some i ∧ c.getD i = scenario := by
  obtain ⟨hid, i, hi, hscenario, hbefore⟩ :=
    List.find?_eq_some_iff_getElem.mp (get_eq_ok_iff.mp h)
  refine ⟨i, List.findIdx?_eq_some_iff_getElem.mpr ⟨hi, ?_, fun j hj => ?_⟩, ?_⟩
  · rw [hscenario]
    exact hid
  · simpa using hbefore j hj
  · rw [getD, List.getD_eq_getElem?_getD, List.getElem?_eq_getElem hi, hscenario]
    rfl

namespace Session

theorem activate_activeScenario (s : Session) (kind : Environment) :
    (s.activate kind).activeScenario = s.activeScenario := by
  unfold activate
  split <;> rfl

theorem select_of_get {s : Session} {id : String} {scenario : Scenario}
    (h : s.catalog.get id = .ok scenario) :
    (s.select id).1 = .ok scenario ∧ (s.select id).2.activeScenario = scenario := by
  obtain ⟨i, hi, hscenario⟩ := Catalog.position?_of_get h
  unfold select
  rw [hi]
  refine ⟨congrArg Except.ok hscenario, ?_⟩
  show (activate _ _).activeScenario = scenario
  rw [activate_activeScenario]
  exact hscenario

theorem setStyle_of_supports {s : Session} {style : Style}
    (h : s.activeScenario.supports style = true) :
    (s.setStyle style).1 = .ok () ∧ (s.setStyle style).2.style = style ∧
      (s.setStyle style).2.activeScenario = s.activeScenario := by
  unfold setStyle
  simp only [h]
  rw [if_neg (by decide)]
  split
  · next hstyle => exact ⟨rfl, hstyle.symm, rfl⟩
  · exact ⟨rfl, rfl, rfl⟩

/-- A session on the catalog takes a scenario of it and then a style that the scenario supports. -/
theorem accepts {s : Session} {id : String} {scenario : Scenario} {style : Style}
    (hget : s.catalog.get id = .ok scenario) (hsupports : scenario.supports style = true) :
    (s.select id).1 = .ok scenario ∧ ((s.select id).2.setStyle style).1 = .ok () := by
  obtain ⟨hselect, hactive⟩ := select_of_get hget
  exact ⟨hselect, (setStyle_of_supports (by rw [hactive]; exact hsupports)).1⟩

variable {catalog : Catalog} {config : Config} {stepDraws draws : Draws} {runs : Nat} {s : Session}

/-- A report names what was active. -/
theorem report_names (h : Reached catalog config stepDraws draws runs s) (fuel : Nat)
    (code : String) :
    (s.runWith fuel code).1.scenario = s.activeScenario.id ∧
      (s.runWith fuel code).1.style = s.style := by
  have hvalid := valid_of_reached h
  cases hcode : Script.compile code with
  | ok program =>
    rw [runWith_ok hvalid hcode]
    exact ⟨rfl, rfl⟩
  | error e =>
    rw [runWith_error hvalid hcode]
    exact ⟨rfl, rfl⟩

end Session

namespace Command

/-! ### What a run is refused for -/

theorem Context.supports_of_styleFor {scenario : Scenario} {asked : Option Style} {p : Progress}
    {style : Style} (h : styleFor scenario asked p = .ok style) :
    scenario.supports style = true := by
  unfold styleFor at h
  split at h
  · split at h
    · next hsupports =>
      obtain rfl := Except.ok.inj h
      exact hsupports
    · cases h
  · obtain rfl := Except.ok.inj h
    exact scenario.supports_resolveStyle _

theorem Context.styleFor_eq_error_iff {scenario : Scenario} {asked : Option Style} {p : Progress}
    {f : Failure} :
    styleFor scenario asked p = .error f ↔
      ∃ style, asked = some style ∧ scenario.supports style = false ∧
        f = .unsupported scenario.id style := by
  cases asked with
  | none => simp [styleFor]
  | some style =>
    show (if scenario.supports style = true then Except.ok style
      else .error (.unsupported scenario.id style)) = .error f ↔ _
    by_cases h : scenario.supports style = true
    · rw [if_pos h]
      refine ⟨fun hok => (by cases hok), ?_⟩
      rintro ⟨other, hother, hnot, -⟩
      obtain rfl := Option.some.inj hother
      exact absurd (h.symm.trans hnot) (by decide)
    · rw [if_neg h]
      refine ⟨fun herror => ⟨style, rfl, by simpa using h, (Except.error.inj herror).symm⟩, ?_⟩
      rintro ⟨other, hother, -, rfl⟩
      obtain rfl := Option.some.inj hother
      rfl

theorem Source.load_eq_error_iff {s : Source} {scenario : Scenario} {style : Style} {p : Progress}
    {d : Disk} {f : Failure} :
    s.load scenario style p d = .error f ↔
      ∃ path, s = .file path ∧ d.read? path = none ∧ f = .unreadable path := by
  unfold load
  cases s with
  | file path => cases h : d.read? path <;> simp [h, eq_comm]
  | reference => simp
  | saved => simp

/-- Why a run is refused: there is no such scenario, it does not support the style that is asked
for, or the file with the code cannot be read. -/
inductive Context.Refuses (c : Context) (d : Disk) (id : String) (asked : Option Style)
    (s : Source) : Failure → Prop
  | unknown (h : ∀ scenario ∈ c.catalog.scenarios, scenario.id ≠ id) :
      Refuses c d id asked s (.lab (.scenarioNotFound id))
  | unsupported {scenario : Scenario} {style : Style} (hfound : c.catalog.get id = .ok scenario)
      (hasked : asked = some style) (h : scenario.supports style = false) :
      Refuses c d id asked s (.unsupported scenario.id style)
  | unreadable {scenario : Scenario} {style : Style} {path : Path}
      (hfound : c.catalog.get id = .ok scenario)
      (hstyle : styleFor scenario asked (c.progress d) = .ok style) (hfile : s = .file path)
      (h : d.read? path = none) : Refuses c d id asked s (.unreadable path)

theorem bind_eq_ok_iff {ε α β : Type} {x : Except ε α} {f : α → Except ε β} {b : β} :
    (x >>= f) = .ok b ↔ ∃ a, x = .ok a ∧ f a = .ok b := by
  cases x <;> simp [bind, Except.bind]

theorem bind_eq_error_iff {ε α β : Type} {x : Except ε α} {f : α → Except ε β} {e : ε} :
    (x >>= f) = .error e ↔ x = .error e ∨ ∃ a, x = .ok a ∧ f a = .error e := by
  cases x <;> simp [bind, Except.bind]

theorem Context.scenario_eq_ok_iff {c : Context} {id : String} {scenario : Scenario} :
    c.scenario id = .ok scenario ↔ c.catalog.get id = .ok scenario := by
  unfold Context.scenario
  cases c.catalog.get id <;> simp [Except.mapError]

theorem Context.scenario_eq_error_iff {c : Context} {id : String} {f : Failure} :
    c.scenario id = .error f ↔
      (∀ scenario ∈ c.catalog.scenarios, scenario.id ≠ id) ∧ f = .lab (.scenarioNotFound id) := by
  unfold Context.scenario
  cases h : c.catalog.get id with
  | ok scenario =>
    have hfound := List.mem_of_find?_eq_some (Catalog.get_eq_ok_iff.mp h)
    refine ⟨fun herror => (by cases herror), fun ⟨hnone, _⟩ => ?_⟩
    exact absurd (Catalog.id_of_get h) (hnone scenario hfound)
  | error e =>
    obtain ⟨hnone, rfl⟩ := Catalog.get_eq_error_iff.mp h
    refine ⟨fun herror => ⟨hnone, (Except.error.inj herror).symm⟩, ?_⟩
    rintro ⟨-, rfl⟩
    rfl

/-- An exercise is what was found, resolved and read. -/
theorem exercise_eq_ok_iff {c : Context} {d : Disk} {id : String} {asked : Option Style}
    {s : Source} {e : Exercise} :
    c.exercise d id asked s = .ok e ↔
      c.catalog.get id = .ok e.scenario ∧
        Context.styleFor e.scenario asked (c.progress d) = .ok e.style ∧
        s.load e.scenario e.style (c.progress d) d = .ok e.code := by
  unfold Context.exercise
  simp only [bind_eq_ok_iff, Context.scenario_eq_ok_iff]
  constructor
  · rintro ⟨scenario, hfound, style, hstyle, code, hcode, he⟩
    obtain rfl := Except.ok.inj he
    exact ⟨hfound, hstyle, hcode⟩
  · rintro ⟨hfound, hstyle, hcode⟩
    exact ⟨_, hfound, _, hstyle, _, hcode, rfl⟩

/-- An exercise that cannot be found, resolved or read is refused. -/
theorem exercise_eq_error_iff {c : Context} {d : Disk} {id : String} {asked : Option Style}
    {s : Source} {f : Failure} :
    c.exercise d id asked s = .error f ↔ c.Refuses d id asked s f := by
  unfold Context.exercise
  simp only [bind_eq_error_iff, Context.scenario_eq_ok_iff, Context.scenario_eq_error_iff,
    Context.styleFor_eq_error_iff, Source.load_eq_error_iff]
  constructor
  · rintro (⟨hnone, rfl⟩ | ⟨scenario, hfound, ⟨style, hasked, h, rfl⟩ | ⟨style, hstyle, hread⟩⟩)
    · exact .unknown hnone
    · exact .unsupported hfound hasked h
    · rcases hread with ⟨path, hfile, h, rfl⟩ | ⟨code, -, hok⟩
      · exact .unreadable hfound hstyle hfile h
      · cases hok
  · rintro (hnone | ⟨hfound, hasked, h⟩ | ⟨hfound, hstyle, hfile, h⟩)
    · exact .inl ⟨hnone, rfl⟩
    · exact .inr ⟨_, hfound, .inl ⟨_, hasked, h, rfl⟩⟩
    · exact .inr ⟨_, hfound, .inr ⟨_, hstyle, .inl ⟨_, hfile, h, rfl⟩⟩⟩

/-! ### What is run -/

/-- An exercise whose style is supported is run, however its script ends, and the report names
it. -/
theorem Exercise.run_ok {e : Exercise} {catalog : Catalog}
    (hfound : catalog.get e.scenario.id = .ok e.scenario)
    (hsupports : e.scenario.supports e.style = true) (config : Config) (entropy : Nat) :
    ∃ report view, e.run catalog config entropy = .ok (report, view) ∧
      report.scenario = e.scenario.id ∧ report.style = e.style := by
  let seed := config.seed.getD entropy
  let s := Session.new catalog config (.seeded (seed + 1)) (.seeded seed)
  let t := ((s.select e.scenario.id).2.setStyle e.style).2
  have hreached : Session.Reached catalog config (.seeded (seed + 1)) (.seeded seed) 0 t :=
    .setStyle (.select .new _) _
  obtain ⟨hselect, hactive⟩ := Session.select_of_get (s := s) hfound
  have hactiveSupports : (s.select e.scenario.id).2.activeScenario.supports e.style = true := by
    rw [hactive]
    exact hsupports
  obtain ⟨hset, hstyle, hsame⟩ := Session.setStyle_of_supports hactiveSupports
  obtain ⟨hscenario, hnamed⟩ := Session.report_names hreached Script.stepLimit e.code
  refine ⟨(t.run e.code).1, (t.run e.code).2.view, ?_, ?_, hnamed.trans hstyle⟩
  · unfold Exercise.run
    dsimp only
    rw [hselect]
    dsimp only [bind, Except.bind]
    rw [hset]
    rfl
  · refine hscenario.trans ?_
    show t.activeScenario.id = e.scenario.id
    rw [hsame, hactive]

/-! ### What is saved -/

/-- What an exercise changes in the entries of progress, and that it changes nothing else: the
scenario, the style and, if the code is new, the code; of the rest, what belongs to the lab is kept
and what does not is dropped. -/
structure Exercise.Leaves (e : Exercise) (newCode : Bool) (before after : Dict String) : Prop where
  scenario : Progress.lastScenario? ⟨after⟩ = some e.scenario.id
  style : Progress.lastStyle? ⟨after⟩ = some e.style
  code : newCode = true → Progress.code? ⟨after⟩ e.scenario.id e.style = some e.code
  otherCode : ∀ id style, newCode = false ∨ (id, style) ≠ (e.scenario.id, e.style) →
    Progress.code? ⟨after⟩ id style = Progress.code? ⟨before⟩ id style
  completed : Progress.completed ⟨after⟩ = Progress.completed ⟨before⟩
  others : ∀ key, key ≠ Progress.scenarioKey → key ≠ Progress.styleKey →
    newCode = false ∨ key ≠ Progress.codeKey e.scenario.id e.style →
      Dict.get? after key =
        if Text.startsWith key Progress.keyStart then Dict.get? before key else none

theorem Exercise.recorded_eq (e : Exercise) (newCode : Bool) (p : Progress) :
    e.recorded newCode p =
      let named := (p.set (Progress.Slot.scenario).key e.scenario.id).set
        (Progress.Slot.style).key e.style.name
      if newCode then named.set (Progress.Slot.code e.scenario.id e.style).key e.code
      else named := rfl

theorem Exercise.tidy_recorded {p : Progress} (h : p.Tidy) (e : Exercise) (newCode : Bool) :
    (e.recorded newCode p).Tidy := by
  rw [recorded_eq]
  have hnamed := (h.set .scenario e.scenario.id).set .style e.style.name
  cases newCode with
  | true => exact hnamed.set (.code e.scenario.id e.style) e.code
  | false => exact hnamed

/-- What the slots hold after an exercise. -/
theorem Exercise.held_recorded (e : Exercise) (newCode : Bool) (p : Progress)
    (slot : Progress.Slot) :
    (e.recorded newCode p).held slot =
      if newCode = true ∧ .code e.scenario.id e.style = slot then some e.code
      else if .style = slot then some e.style.name
      else if .scenario = slot then some e.scenario.id
      else p.held slot := by
  rw [recorded_eq]
  cases newCode with
  | true => simp [Progress.held_set]
  | false => simp [Progress.held_set]

/-- Other keys keep what was there. -/
theorem Exercise.get?_recorded {e : Exercise} {newCode : Bool} {key : String}
    (hscenario : key ≠ Progress.scenarioKey) (hstyle : key ≠ Progress.styleKey)
    (hcode : newCode = false ∨ key ≠ Progress.codeKey e.scenario.id e.style) (p : Progress) :
    (e.recorded newCode p).get? key = p.get? key := by
  have hnamed : ((p.setLastScenario e.scenario.id).setLastStyle e.style).get? key = p.get? key := by
    unfold Progress.setLastStyle Progress.setLastScenario Progress.get? Progress.set
    rw [Dict.get?_insert, if_neg hstyle.symm, Dict.get?_insert, if_neg hscenario.symm]
  unfold recorded
  cases newCode with
  | false => exact hnamed
  | true =>
    have hne : key ≠ Progress.codeKey e.scenario.id e.style := hcode.resolve_left (by decide)
    show (Progress.set _ _ _).get? key = _
    unfold Progress.set Progress.get?
    rw [Dict.get?_insert, if_neg hne.symm]
    exact hnamed

/-- An exercise changes the scenario, the style and the code if it is new, and nothing else. -/
theorem Exercise.leaves_recorded (e : Exercise) (newCode : Bool) (entries : Dict String) :
    e.Leaves newCode entries
      (e.recorded newCode (Progress.ownEntries ⟨entries⟩)).entries := by
  have hheld := e.held_recorded newCode (Progress.ownEntries ⟨entries⟩)
  have hown (slot : Progress.Slot) :
      (Progress.ownEntries ⟨entries⟩).held slot = Progress.held ⟨entries⟩ slot :=
    Progress.held_ownEntries ⟨entries⟩ slot
  refine ⟨?_, ?_, fun hnew => ?_, fun id style hother => ?_, ?_,
    fun key hscenario hstyle hcode => ?_⟩
  · refine (hheld .scenario).trans ?_
    simp
  · have hstyle : (e.recorded newCode (Progress.ownEntries ⟨entries⟩)).held .style =
        some e.style.name := by
      rw [hheld]
      simp
    show (Progress.held _ .style).bind _ = _
    rw [hstyle, Option.bind_some, Style.parse_name]
    rfl
  · refine (hheld (.code e.scenario.id e.style)).trans ?_
    rw [if_pos ⟨hnew, rfl⟩]
  · refine (hheld (.code id style)).trans ?_
    have hnot : ¬ (newCode = true ∧ Progress.Slot.code e.scenario.id e.style = .code id style) := by
      rintro ⟨hnew, hsame⟩
      cases hsame
      rcases hother with hold | hne
      · rw [hnew] at hold
        cases hold
      · exact hne rfl
    rw [if_neg hnot, if_neg (by simp), if_neg (by simp), hown]
    rfl
  · have hcompleted : (e.recorded newCode (Progress.ownEntries ⟨entries⟩)).held .completed =
        Progress.held ⟨entries⟩ .completed := by
      rw [hheld, hown]
      simp
    show ((Progress.held _ .completed).bind _).getD [] = _
    rw [hcompleted]
    rfl
  · have hkey := Exercise.get?_recorded hscenario hstyle hcode (Progress.ownEntries ⟨entries⟩)
    exact hkey.trans (Progress.get?_ownEntries ⟨entries⟩ key)

/-! ### The disk after a run -/

theorem Context.run_of_error {c : Context} {id : String} {o : RunOptions} {d : Disk} {f : Failure}
    (h : c.exercise d id o.style (.choose o.file o.reference) = .error f) (occasion : Occasion) :
    c.run occasion id o d = (.error f, d) := by
  unfold Context.run
  rw [h]
  rfl

/-- A run that is not refused is made, and saves what is to be saved. -/
theorem Context.run_of_ok {c : Context} {id : String} {o : RunOptions} {d : Disk} {e : Exercise}
    (h : c.exercise d id o.style (.choose o.file o.reference) = .ok e) (occasion : Occasion) :
    (∃ printed, (c.run occasion id o d).1 = .ok printed) ∧
      (c.run occasion id o d).2 =
        if o.keepsProgress then
          (e.recorded o.file.isSome (c.progress d)).saveIfPossible c.progressPath d
        else d := by
  obtain ⟨hfound, hstyle, -⟩ := exercise_eq_ok_iff.mp h
  obtain ⟨report, view, hrun, -, -⟩ := Exercise.run_ok (Catalog.get_id hfound)
    (supports_of_styleFor hstyle) (o.config c.config) occasion.entropy
  unfold Context.run
  rw [h]
  dsimp only [bind, Except.bind]
  rw [hrun]
  exact ⟨⟨_, rfl⟩, rfl⟩

/-- A run fails just if it is refused. -/
theorem Context.run_eq_error_iff {c : Context} {occasion : Occasion} {id : String}
    {o : RunOptions} {d : Disk} {f : Failure} :
    (c.run occasion id o d).1 = .error f ↔
      c.Refuses d id o.style (.choose o.file o.reference) f := by
  rw [← exercise_eq_error_iff]
  cases he : c.exercise d id o.style (.choose o.file o.reference) with
  | error g =>
    rw [run_of_error he]
    simp
  | ok e =>
    obtain ⟨⟨printed, hprinted⟩, -⟩ := run_of_ok he occasion
    rw [hprinted]
    simp

/-- A run that fails does nothing. -/
theorem Context.run_eq_of_error {c : Context} {occasion : Occasion} {id : String}
    {o : RunOptions} {d : Disk} {f : Failure} (h : (c.run occasion id o d).1 = .error f) :
    (c.run occasion id o d).2 = d := by
  have he := exercise_eq_error_iff.mpr (run_eq_error_iff.mp h)
  rw [run_of_error he]

theorem Context.run_of_not_keepsProgress {c : Context} {id : String} {o : RunOptions}
    (h : o.keepsProgress = false) (occasion : Occasion) (d : Disk) :
    (c.run occasion id o d).2 = d := by
  cases he : c.exercise d id o.style (.choose o.file o.reference) with
  | error f => rw [run_of_error he]
  | ok e =>
    rw [(run_of_ok he occasion).2, h]
    rfl

/-- Code that is loaded from a file is the text of the file. -/
theorem Source.load_file_eq_ok_iff {path : Path} {scenario : Scenario} {style : Style}
    {p : Progress} {d : Disk} {code : String} :
    (Source.file path).load scenario style p d = .ok code ↔ d.read? path = some code := by
  unfold load
  cases h : d.read? path <;> simp [h]

/-- **What a run does to progress.**  A run fails only if it is refused, and then the disk is as it
was; so it is if progress is not to be kept.  Otherwise, however the script ends, the file holds
what it held before with the scenario, the style and, just if the code came from a file, the code of
the exercise that was run, and without what does not belong to the lab; if progress cannot be saved,
the file is as it was.  A session on the catalog takes every scenario that is found and then every
style that is resolved for it. -/
theorem Context.run_keeps_progress (c : Context) (occasion : Occasion) (id : String)
    (o : RunOptions) (d : Disk) {entries : Dict String}
    (hfile : Progress.Readable d c.progressPath entries) :
    let source := Source.choose o.file o.reference
    let ran := c.run occasion id o d
    (∀ f, ran.1 = .error f ↔ c.Refuses d id o.style source f) ∧
      (∀ f, ran.1 = .error f → ran.2 = d) ∧
      (o.keepsProgress = false → ran.2 = d) ∧
      (∀ e, c.exercise d id o.style source = .ok e → o.keepsProgress = true →
        (∃ report view,
          e.run c.catalog (o.config c.config) occasion.entropy = .ok (report, view) ∧
            report.scenario = e.scenario.id ∧ report.style = e.style) ∧
          (∀ path, o.file = some path → d.read? path = some e.code) ∧
          (Progress.Savable c.progressPath d →
            ∃ later, Progress.Readable ran.2 c.progressPath later ∧
              e.Leaves o.file.isSome entries later) ∧
          (¬ Progress.Savable c.progressPath d → ran.2 c.progressPath = d c.progressPath)) ∧
      ∀ scenario style, c.scenario id = .ok scenario →
        styleFor scenario o.style (c.progress d) = .ok style →
          ∀ s : Session, s.catalog = c.catalog →
            (s.select scenario.id).1 = .ok scenario ∧
              ((s.select scenario.id).2.setStyle style).1 = .ok () := by
  intro source ran
  have hloaded : c.progress d = Progress.ownEntries ⟨entries⟩ := hfile.load_eq
  refine ⟨fun f => run_eq_error_iff, fun f => run_eq_of_error,
    fun hnot => run_of_not_keepsProgress hnot occasion d, fun e he hkeeps => ?_,
    fun scenario style hscenario hstyle s hcatalog => ?_⟩
  · obtain ⟨hfound, hstyle, hcode⟩ := exercise_eq_ok_iff.mp he
    have hafter : ran.2 =
        (e.recorded o.file.isSome (Progress.ownEntries ⟨entries⟩)).saveIfPossible
          c.progressPath d := by
      refine (run_of_ok he occasion).2.trans ?_
      rw [if_pos hkeeps, hloaded]
    refine ⟨Exercise.run_ok (Catalog.get_id hfound) (supports_of_styleFor hstyle) _ _,
      fun path hpath => ?_, fun hsavable => ?_, fun hnot => ?_⟩
    · have hsource : source = .file path := by
        show Source.choose o.file o.reference = .file path
        rw [hpath]
        rfl
      rw [hsource] at hcode
      exact Source.load_file_eq_ok_iff.mp hcode
    · have htidy := e.tidy_recorded (Progress.tidy_ownEntries hfile.ascending) o.file.isSome
      rw [hafter]
      exact ⟨_, Progress.readable_saveIfPossible htidy hsavable, e.leaves_recorded _ entries⟩
    · rw [hafter]
      exact Progress.saveIfPossible_of_not_savable hnot _
  · have hfound := Context.scenario_eq_ok_iff.mp hscenario
    refine Session.accepts ?_ (supports_of_styleFor hstyle)
    rw [hcatalog]
    exact Catalog.get_id hfound

/-- Code from a file is run, and progress had a completion and an entry that is not the lab's. -/
theorem Context.run_keeps_progress_file :
    let entries : Dict String :=
      [("autolab-completed", "[\"basic-auth-cypress\"]"), ("theme", "dark")]
    let c : Context := ⟨.standard "lab", .builtin, .table, .offline⟩
    let d : Disk := fun p =>
      if p = c.progressPath then some (.file (Progress.text ⟨entries⟩))
      else if p = ["login.js"] then some (.file "cy.visit('/')")
      else none
    let o : RunOptions := { style := some .cypress, file := some ["login.js"] }
    ∃ later, Progress.Readable (c.run default "basic-auth" o d).2 c.progressPath later ∧
      Progress.code? ⟨later⟩ "basic-auth" .cypress = some "cy.visit('/')" ∧
      Progress.completed ⟨later⟩ = ["basic-auth-cypress"] ∧ Dict.get? later "theme" = none := by
  intro entries c d o
  have hfile : Progress.Readable d c.progressPath entries := by
    have hread : d.read? c.progressPath = some (Progress.text ⟨entries⟩) := by decide +kernel
    exact .object hread (Json.readRaw_pretty_texts entries)
      (Progress.mapM_map_of_leftInverse (f := Json.textMember) (fun _ => rfl) entries)
  have hcode : d.read? ["login.js"] = some "cy.visit('/')" := by decide +kernel
  have hsavable : Progress.Savable c.progressPath d :=
    ⟨by decide +kernel, by decide +kernel, by decide +kernel⟩
  have hfound : (c.catalog.get "basic-auth").toOption.any (·.supports .cypress) = true := by
    decide +kernel
  cases hget : c.catalog.get "basic-auth" with
  | error e =>
    rw [hget] at hfound
    cases hfound
  | ok scenario =>
    rw [hget] at hfound
    have hid : scenario.id = "basic-auth" := Catalog.id_of_get hget
    let e : Exercise := ⟨scenario, .cypress, "cy.visit('/')"⟩
    have he : c.exercise d "basic-auth" o.style (.choose o.file o.reference) = .ok e := by
      exact exercise_eq_ok_iff.mpr
        ⟨hget, if_pos hfound, Source.load_file_eq_ok_iff.mpr hcode⟩
    obtain ⟨-, -, -, hruns, -⟩ := run_keeps_progress c default "basic-auth" o d hfile
    obtain ⟨-, -, hsaved, -⟩ := hruns e he rfl
    obtain ⟨later, hlater, hleaves⟩ := hsaved hsavable
    refine ⟨later, hlater, ?_, ?_, ?_⟩
    · have hkept := hleaves.code rfl
      rwa [show e.scenario.id = "basic-auth" from hid] at hkept
    · rw [hleaves.completed]
      decide +kernel
    · have htheme : "theme" ≠ Progress.codeKey scenario.id .cypress := by
        rw [hid]
        decide +kernel
      rw [hleaves.others "theme" (by decide) (by decide) (.inr htheme)]
      decide +kernel

end Command

end BrowserLab
