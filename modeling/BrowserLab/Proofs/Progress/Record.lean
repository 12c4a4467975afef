import Mathlib.Data.List.Nodup
import BrowserLab.Proofs.Progress.Key
import BrowserLab.Proofs.Progress.Saving

/-!
# Progress is a record

Texts under keys are what progress is made of, but a plain record with a field for everything that
it shows would do: an exercise, a style, code for exercises in styles, the list of those completed,
and a flag.  Whatever is done to progress, saving and loading it included, it shows what the
record shows to which the same is done (`perform_refines_record`).

* `Record.Keeps`: what each slot has to hold to stand for the record.
* `Keeps.step`: an operation keeps to it.
-/

namespace BrowserLab.Progress

/-! ### What is done to progress -/

/-- Something that is done to progress. -/
inductive Operation where
  | setLastScenario (id : String)
  | setLastStyle (style : Style)
  | setCode (id : String) (style : Style) (code : String)
  | markCompleted (id : String) (style : Style)
  | setSidebarCollapsed (collapsed : Bool)
  | clear
  /-- Saves progress and loads it again. -/
  | reopen

/-- Operations one after the other: the answers, and the state behind the last. -/
def perform {σ : Type} (step : σ → Operation → Option Bool × σ) (s : σ) :
    List Operation → List (Option Bool) × σ
  | [] => ([], s)
  | op :: ops =>
    let (answer, s) := step s op
    let (answers, s) := perform step s ops
    (answer :: answers, s)

/-- Progress, and the disk that it is saved on. -/
structure Store where
  progress : Progress
  disk : Disk

namespace Store

/-- An operation on progress that is kept at `path`.  Only marking a completion has an answer. -/
def step (path : Path) (s : Store) : Operation → Option Bool × Store
  | .setLastScenario id => (none, { s with progress := s.progress.setLastScenario id })
  | .setLastStyle style => (none, { s with progress := s.progress.setLastStyle style })
  | .setCode id style code => (none, { s with progress := s.progress.setCode id style code })
  | .markCompleted id style =>
    let (new, p) := s.progress.markCompleted id style
    (some new, { s with progress := p })
  | .setSidebarCollapsed collapsed =>
    (none, { s with progress := s.progress.setSidebarCollapsed collapsed })
  | .clear => (none, { s with progress := empty })
  | .reopen =>
    let d := s.progress.saveIfPossible path s.disk
    (none, ⟨load d path, d⟩)

end Store

/-! ### The record -/

/-- What progress shows. -/
structure Record where
  scenario : Option String := none
  style : Option Style := none
  code : String × Style → Option String := fun _ => none
  /-- What is completed, the first pair first. -/
  completed : List (String × Style) := []
  collapsed : Bool := false

namespace Record

/-- An operation on a record. -/
def step (r : Record) : Operation → Option Bool × Record
  | .setLastScenario id => (none, { r with scenario := some id })
  | .setLastStyle style => (none, { r with style := some style })
  | .setCode id style code =>
    (none, { r with code := Function.update r.code (id, style) (some code) })
  | .markCompleted id style =>
    if (id, style) ∈ r.completed then (some false, r)
    else (some true, { r with completed := r.completed ++ [(id, style)] })
  | .setSidebarCollapsed collapsed => (none, { r with collapsed := collapsed })
  | .clear => (none, {})
  | .reopen => (none, r)

/-- The names of the pairs that are completed. -/
def names (r : Record) : List String := r.completed.map fun (id, style) => pairName id style

/-- The slot holds what it has to for the record. -/
def Fits (r : Record) : Slot → Option String → Prop
  | .scenario, held => held = r.scenario
  | .style, held => held = r.style.map Style.name
  | .completed, held => (held.bind textsOfJson?).getD [] = r.names
  | .sidebar, held => decide (held = some "true") = r.collapsed
  | .code id style, held => held = r.code (id, style)

end Record

/-- Progress shows what the record does. -/
structure Shows (p : Progress) (r : Record) : Prop where
  lastScenario : p.lastScenario? = r.scenario
  lastStyle : p.lastStyle? = r.style
  code : ∀ id style, p.code? id style = r.code (id, style)
  completed : p.completed = r.names
  isCompleted : ∀ id style, p.isCompleted id style = decide ((id, style) ∈ r.completed)
  markCompleted : ∀ id style,
    (p.markCompleted id style).1 = decide ((id, style) ∉ r.completed)
  once : r.completed.Nodup
  collapsed : p.sidebarCollapsed = r.collapsed
  savedCode : ∀ pair, pair ∈ p.savedCode ↔ (r.code pair).isSome = true
  savedOnce : p.savedCode.Nodup

/-! ### Slots stand for the record -/

/-- What the slot holds. -/
def held (p : Progress) (slot : Slot) : Option String := p.get? slot.key

theorem held_set (p : Progress) (slot : Slot) (text : String) (other : Slot) :
    (p.set slot.key text).held other = if slot = other then some text else p.held other := by
  have hkey : slot.key = other.key ↔ slot = other := ⟨Slot.key_injective, fun h => h ▸ rfl⟩
  simp only [held, get?, set, Dict.get?_insert, hkey]

/-- The keys ascend and are those of slots, and the slots hold what they have to for the
record. -/
structure Keeps (p : Progress) (r : Record) : Prop where
  ascending : Dict.Ascending p.entries
  slots : ∀ entry ∈ p.entries, ∃ slot : Slot, entry.1 = slot.key
  fits : ∀ slot, r.Fits slot (p.held slot)
  once : r.completed.Nodup

theorem keeps_empty : Keeps empty {} where
  ascending := .nil
  slots := nofun
  fits slot := by cases slot <;> rfl
  once := .nil

variable {p : Progress} {r r' : Record}

theorem Keeps.tidy (h : Keeps p r) : Tidy p := by
  refine ⟨h.ascending, fun entry hentry => ?_⟩
  obtain ⟨slot, hslot⟩ := h.slots entry hentry
  rw [hslot]
  exact slot.startsWith_key

/-- A slot gets another text, and the record changes in nothing that another slot stands for. -/
theorem Keeps.set (h : Keeps p r) (slot : Slot) {text : String} (hslot : r'.Fits slot (some text))
    (hothers : ∀ other ≠ slot, ∀ held, r.Fits other held → r'.Fits other held)
    (honce : r'.completed.Nodup) : Keeps (p.set slot.key text) r' where
  ascending := h.ascending.insert slot.key text
  slots entry hentry := by
    obtain hkey | hold := Dict.mem_insert_key hentry
    · exact ⟨slot, hkey⟩
    · exact h.slots entry hold
  fits other := by
    rw [held_set]
    by_cases heq : slot = other
    · rw [if_pos heq, ← heq]
      exact hslot
    · rw [if_neg heq]
      exact hothers other (Ne.symm heq) _ (h.fits other)
  once := honce

theorem Keeps.isCompleted_iff (h : Keeps p r) (id : String) (style : Style) :
    p.isCompleted id style = true ↔ (id, style) ∈ r.completed := by
  have hnames : p.completed = r.names := h.fits .completed
  rw [isCompleted, hnames, List.contains_iff_mem, Record.names, List.mem_map]
  constructor
  · rintro ⟨pair, hpair, hname⟩
    rwa [← pairName_injective hname]
  · exact fun hpair => ⟨(id, style), hpair, rfl⟩

theorem textsOfJson?_compact (names : List String) :
    textsOfJson? (Json.arr (names.map .str)).compact = some names := by
  rw [textsOfJson?, Json.readRaw_compact_texts]
  exact mapM_map_of_leftInverse (f := Json.str) (g := Json.text?) (fun _ => rfl) names

theorem Keeps.setCode (h : Keeps p r) (id : String) (style : Style) (code : String) :
    Keeps (p.setCode id style code)
      { r with code := Function.update r.code (id, style) (some code) } := by
  refine h.set (.code id style) ?_ ?_ h.once
  · exact Eq.symm (Function.update_self (id, style) (some code) r.code)
  · intro other hne held hfits
    cases other with
    | code id' style' =>
      have hpair : (id', style') ≠ (id, style) := fun heq => hne (by cases heq; rfl)
      exact Eq.trans hfits (Function.update_of_ne hpair ..).symm
    | _ => exact hfits

theorem Keeps.markCompleted (h : Keeps p r) {id : String} {style : Style}
    (hnew : (id, style) ∉ r.completed) :
    Keeps (p.set completedKey (Json.arr ((p.completed ++ [pairName id style]).map .str)).compact)
      { r with completed := r.completed ++ [(id, style)] } := by
  refine h.set .completed ?_ ?_ ?_
  · show ((textsOfJson? _).getD []) = _
    rw [textsOfJson?_compact, Option.getD_some, Record.names, List.map_append]
    exact congrArg (· ++ [pairName id style]) (h.fits .completed)
  · intro other hne held hfits
    cases other with
    | completed => exact absurd rfl hne
    | _ => exact hfits
  · refine List.nodup_append.mpr ⟨h.once, List.nodup_singleton _, ?_⟩
    intro pair hpair pair' hpair' heq
    rw [List.mem_singleton] at hpair'
    exact hnew (hpair' ▸ heq ▸ hpair)

/-- What one operation does to progress it does to the record, and it has the same answer. -/
theorem Keeps.step {path : Path} {s : Store} (h : Keeps s.progress r)
    (hsavable : Savable path s.disk) (op : Operation) :
    (s.step path op).1 = (r.step op).1 ∧ Keeps (s.step path op).2.progress (r.step op).2 ∧
      Savable path (s.step path op).2.disk := by
  cases op with
  | setLastScenario id =>
    refine ⟨rfl, h.set .scenario rfl (fun other hne held hfits => ?_) h.once, hsavable⟩
    cases other with
    | scenario => exact absurd rfl hne
    | _ => exact hfits
  | setLastStyle style =>
    refine ⟨rfl, h.set .style rfl (fun other hne held hfits => ?_) h.once, hsavable⟩
    cases other with
    | style => exact absurd rfl hne
    | _ => exact hfits
  | setCode id style code => exact ⟨rfl, h.setCode id style code, hsavable⟩
  | markCompleted id style =>
    have hcompleted := h.isCompleted_iff id style
    by_cases hpair : (id, style) ∈ r.completed
    · have hrecord : r.step (.markCompleted id style) = (some false, r) := if_pos hpair
      have hstore : s.step path (.markCompleted id style) = (some false, s) := by
        simp only [Store.step, Progress.markCompleted, if_pos (hcompleted.mpr hpair)]
      rw [hstore, hrecord]
      exact ⟨rfl, h, hsavable⟩
    · rw [Record.step, if_neg hpair]
      simp only [Store.step, Progress.markCompleted, if_neg (mt hcompleted.mp hpair)]
      exact ⟨trivial, h.markCompleted hpair, hsavable⟩
  | setSidebarCollapsed collapsed =>
    refine ⟨rfl, h.set .sidebar ?_ (fun other hne held hfits => ?_) h.once, hsavable⟩
    · cases collapsed <;> rfl
    · cases other with
      | sidebar => exact absurd rfl hne
      | _ => exact hfits
  | clear => exact ⟨rfl, keeps_empty, hsavable⟩
  | reopen =>
    have hsave := hsavable.save_eq s.progress
    have hload : load (s.progress.save path s.disk).2 path = s.progress :=
      load_save h.tidy (by rw [hsave])
    refine ⟨rfl, ?_, ?_⟩
    · show Keeps (load (s.progress.save path s.disk).2 path) r
      rw [hload]
      exact h
    · show Savable path (s.progress.save path s.disk).2
      rw [hsave]
      exact savable_saved s.progress path s.disk

/-- Operations one after the other have the answers that they have on the record, and what they
leave behind keeps the record that they leave behind. -/
theorem Keeps.perform {path : Path} {s : Store} (h : Keeps s.progress r)
    (hsavable : Savable path s.disk) (ops : List Operation) :
    (Progress.perform (Store.step path) s ops).1 = (Progress.perform Record.step r ops).1 ∧
      Keeps (Progress.perform (Store.step path) s ops).2.progress
        (Progress.perform Record.step r ops).2 ∧
      Savable path (Progress.perform (Store.step path) s ops).2.disk := by
  induction ops generalizing s r with
  | nil => exact ⟨rfl, h, hsavable⟩
  | cons op ops ih =>
    obtain ⟨hanswer, hstep, hdisk⟩ := h.step hsavable op
    obtain ⟨hanswers, hrest⟩ := ih hstep hdisk
    exact ⟨congrArg₂ List.cons hanswer hanswers, hrest⟩

/-! ### What is shown -/

theorem Keeps.mem_savedCode (h : Keeps p r) (pair : String × Style) :
    pair ∈ p.savedCode ↔ (r.code pair).isSome = true := by
  have hheld : p.get? (codeKey pair.1 pair.2) = r.code pair := h.fits (.code pair.1 pair.2)
  rw [savedCode, List.mem_filterMap]
  constructor
  · rintro ⟨entry, hentry, hpair⟩
    obtain ⟨slot, hslot⟩ := h.slots entry hentry
    have hcode : slot = .code pair.1 pair.2 := Slot.pairOfKey?_key.mp (hslot ▸ hpair)
    have hsome := Dict.isSome_get?_of_mem hentry
    rw [hslot, hcode] at hsome
    rw [← hheld]
    exact hsome
  · intro hsome
    obtain ⟨text, htext⟩ := Option.isSome_iff_exists.mp hsome
    exact ⟨_, Dict.mem_of_get? (hheld.trans htext), pairOfKey?_codeKey pair.1 pair.2⟩

theorem Keeps.nodup_savedCode (h : Keeps p r) : p.savedCode.Nodup := by
  have hentries : p.entries.Pairwise fun e e' =>
      e.1 < e'.1 ∧ (∃ slot : Slot, e.1 = slot.key) ∧ ∃ slot : Slot, e'.1 = slot.key :=
    h.ascending.imp_of_mem fun he he' hlt => ⟨hlt, h.slots _ he, h.slots _ he'⟩
  refine List.Pairwise.filterMap _ ?_ hentries
  rintro e e' ⟨hlt, ⟨slot, hslot⟩, ⟨slot', hslot'⟩⟩ pair hpair pair' hpair' heq
  have hcode : slot = .code pair.1 pair.2 := Slot.pairOfKey?_key.mp (hslot ▸ hpair)
  have hcode' : slot' = .code pair'.1 pair'.2 := Slot.pairOfKey?_key.mp (hslot' ▸ hpair')
  -- Keys of one pair are one key, but keys ascend.
  rw [hslot, hslot', hcode, hcode', heq] at hlt
  exact String.lt_irrefl _ hlt

theorem Keeps.shows (h : Keeps p r) : Shows p r where
  lastScenario := h.fits .scenario
  lastStyle := by
    have hheld : p.get? styleKey = r.style.map Style.name := h.fits .style
    rw [lastStyle?, hheld]
    cases r.style with
    | none => rfl
    | some style => simp [Style.parse_name, Except.toOption]
  code id style := h.fits (.code id style)
  completed := h.fits .completed
  isCompleted id style := by
    rw [Bool.eq_iff_iff, decide_eq_true_iff]
    exact h.isCompleted_iff id style
  markCompleted id style := by
    have hcompleted := h.isCompleted_iff id style
    by_cases hpair : (id, style) ∈ r.completed
    · simp [Progress.markCompleted, hcompleted.mpr hpair, hpair]
    · simp [Progress.markCompleted, mt hcompleted.mp hpair, hpair]
  once := h.once
  collapsed := h.fits .sidebar
  savedCode := h.mem_savedCode
  savedOnce := h.nodup_savedCode

/-! ### Other parts -/

/-- A part of what progress shows. -/
inductive Part where
  | scenario
  | style
  | sidebar
  | code (id : String) (style : Style)
  | completion (id : String) (style : Style)

/-- The parts that an operation is about: clearing is about all, saving and loading about none. -/
def Operation.Concerns : Operation → Part → Prop
  | .setLastScenario _, .scenario => True
  | .setLastStyle _, .style => True
  | .setCode id style _, .code id' style' => (id', style') = (id, style)
  | .markCompleted id style, .completion id' style' => (id', style') = (id, style)
  | .setSidebarCollapsed _, .sidebar => True
  | .clear, _ => True
  | _, _ => False

/-- The records agree on a part. -/
def Record.SameAt (r r' : Record) : Part → Prop
  | .scenario => r.scenario = r'.scenario
  | .style => r.style = r'.style
  | .sidebar => r.collapsed = r'.collapsed
  | .code id style => r.code (id, style) = r'.code (id, style)
  | .completion id style => (id, style) ∈ r.completed ↔ (id, style) ∈ r'.completed

/-- A part looks the same. -/
def SameAt (p p' : Progress) : Part → Prop
  | .scenario => p.lastScenario? = p'.lastScenario?
  | .style => p.lastStyle? = p'.lastStyle?
  | .sidebar => p.sidebarCollapsed = p'.sidebarCollapsed
  | .code id style => p.code? id style = p'.code? id style ∧
      ((id, style) ∈ p.savedCode ↔ (id, style) ∈ p'.savedCode)
  | .completion id style => p.isCompleted id style = p'.isCompleted id style

theorem Record.sameAt_refl (r : Record) (part : Part) : r.SameAt r part := by
  cases part with
  | completion id style => exact Iff.rfl
  | _ => rfl

theorem Record.step_sameAt (r : Record) {op : Operation} {part : Part}
    (h : ¬ op.Concerns part) : (r.step op).2.SameAt r part := by
  cases op with
  | setLastScenario id =>
    cases part with
    | scenario => exact absurd trivial h
    | completion id' style' => exact Iff.rfl
    | _ => rfl
  | setLastStyle style =>
    cases part with
    | style => exact absurd trivial h
    | completion id' style' => exact Iff.rfl
    | _ => rfl
  | setCode id style code =>
    cases part with
    | code id' style' => exact Function.update_of_ne h (some code) r.code
    | completion id' style' => exact Iff.rfl
    | _ => rfl
  | markCompleted id style =>
    by_cases hpair : (id, style) ∈ r.completed
    · rw [step, if_pos hpair]
      exact r.sameAt_refl part
    · rw [step, if_neg hpair]
      cases part with
      | completion id' style' =>
        have hne : (id', style') ≠ (id, style) := h
        show (id', style') ∈ r.completed ++ [(id, style)] ↔ (id', style') ∈ r.completed
        rw [List.mem_append, List.mem_singleton]
        exact or_iff_left hne
      | _ => rfl
  | setSidebarCollapsed collapsed =>
    cases part with
    | sidebar => exact absurd trivial h
    | completion id' style' => exact Iff.rfl
    | _ => rfl
  | clear => cases part <;> exact absurd trivial h
  | reopen => exact r.sameAt_refl part

theorem Shows.sameAt {p' : Progress} (h : Shows p r) (h' : Shows p' r') {part : Part}
    (hsame : r.SameAt r' part) : SameAt p p' part := by
  cases part with
  | scenario => exact h.lastScenario.trans (hsame.trans h'.lastScenario.symm)
  | style => exact h.lastStyle.trans (hsame.trans h'.lastStyle.symm)
  | sidebar => exact h.collapsed.trans (hsame.trans h'.collapsed.symm)
  | code id style =>
    have hcode : r.code (id, style) = r'.code (id, style) := hsame
    refine ⟨(h.code id style).trans (hcode.trans (h'.code id style).symm), ?_⟩
    rw [h.savedCode, h'.savedCode, hcode]
  | completion id style =>
    have hcompletion : (id, style) ∈ r.completed ↔ (id, style) ∈ r'.completed := hsame
    show p.isCompleted id style = p'.isCompleted id style
    rw [h.isCompleted, h'.isCompleted, decide_eq_decide.mpr hcompletion]

/-- Whatever is done to progress that is empty at first and can be saved at its path, the answers
are those of the record to which the same is done, progress shows what the record shows, and what
is done next leaves every part alone that it is not about. -/
theorem perform_refines_record {path : Path} {disk : Disk}
    (h : (empty.save path disk).1 = .ok ()) (ops : List Operation) :
    let kept := perform (Store.step path) ⟨empty, disk⟩ ops
    let told := perform Record.step {} ops
    kept.1 = told.1 ∧ Shows kept.2.progress told.2 ∧
      ∀ op part, ¬ op.Concerns part →
        SameAt (kept.2.step path op).2.progress kept.2.progress part := by
  intro kept told
  obtain ⟨hanswers, hkeeps, hdisk⟩ :=
    keeps_empty.perform (s := ⟨empty, disk⟩) (savable_of_save h) ops
  refine ⟨hanswers, hkeeps.shows, fun op part hpart => ?_⟩
  obtain ⟨-, hstep, -⟩ := hkeeps.step hdisk op
  exact hstep.shows.sameAt hkeeps.shows (Record.step_sameAt _ hpart)

/-- Names with dashes, names that end like a style and the empty name are told apart, and what is
marked stays marked when progress is loaded again. -/
theorem perform_refines_record_reopened :
    let path : Path := ["home", "progress.json"]
    let ops : List Operation := [.setCode "a-cypress" .playwright "first",
      .setCode "a" .cypress "second", .markCompleted "" .cypress, .reopen,
      .markCompleted "" .cypress]
    let kept := perform (Store.step path) ⟨empty, .empty⟩ ops
    (empty.save path .empty).1 = .ok () ∧
      kept.1 = [none, none, some true, none, some false] ∧
      kept.2.progress.code? "a-cypress" .playwright = some "first" ∧
      kept.2.progress.code? "a" .cypress = some "second" ∧
      kept.2.progress.completed = ["-cypress"] := by
  intro path ops kept
  have hsavable : Savable path .empty := ⟨fun _ _ => .inl rfl, nofun, nofun⟩
  have hsave : (empty.save path .empty).1 = .ok () := by rw [hsavable.save_eq]
  obtain ⟨hanswers, hshows, -⟩ := perform_refines_record hsave ops
  dsimp only [kept]
  refine ⟨hsave, ?_, ?_, ?_, ?_⟩
  · rw [hanswers]
    decide
  · rw [hshows.code]
    decide
  · rw [hshows.code]
    decide
  · rw [hshows.completed]
    decide

end BrowserLab.Progress
