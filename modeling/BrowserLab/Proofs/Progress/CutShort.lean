import BrowserLab.Proofs.Progress.Load

/-!
# Saving that is cut short

Saving can stop before any of its changes, and any of them can fail, whatever the reason.  `Torn`
says what a change can leave then: some of the directories that it should make, anything at all in
place of the file that it should write, and all as it was where a file should be moved.  `CutShort`
says what changes can leave that are made one after the other.

* `CutShort.frame`: what no change touches stays as it was.
* `cutShort_saving`: the file is as it was or has the new text.
* `save_all_or_nothing`: so it holds the old entries or all of the new ones, and it holds the new
  ones and nothing lies beside it once saving has succeeded.
-/

namespace BrowserLab

/-- Can the change alter what lies at the path? -/
def Change.Touches (p : Path) : Change → Prop
  | .makeDirectories q => p ∈ q.chain
  | .write q _ => p = q
  | .rename source target => p = source ∨ p = target

namespace Disk

/-- What a change can leave that is not carried through: a file is moved at once or not at all. -/
inductive Torn (d : Disk) : Change → Disk → Prop
  | untouched (c : Change) : Torn d c d
  | directories {q : Path} {e : Disk}
      (some_made : ∀ p, e p = d p ∨ p ∈ q.chain ∧ d p = none ∧ e p = some .directory) :
      Torn d (.makeDirectories q) e
  | written (q : Path) (text : String) (left : Option Node) : Torn d (.write q text) (d.set q left)

/-- What changes can leave that are made one after the other: all are made, or they stop before one
of them, or at one that is not carried through. -/
inductive CutShort : Disk → List Change → Disk → Prop
  | stopped (d : Disk) (cs : List Change) : CutShort d cs d
  | torn {d e : Disk} {c : Change} {rest : List Change} (h : d.Torn c e) : CutShort d (c :: rest) e
  | after {d e e' : Disk} {c : Change} {rest : List Change} (h : d.after? c = some e)
      (hrest : CutShort e rest e') : CutShort d (c :: rest) e'

variable {d e : Disk} {c : Change} {cs rest : List Change} {p : Path}

/-- What is left when no change is made any more behind the first that cannot be made. -/
theorem cutShort_applyAll (d : Disk) (cs : List Change) : d.CutShort cs (d.applyAll cs).2 := by
  induction cs generalizing d with
  | nil => exact .stopped d []
  | cons c rest ih =>
    rw [applyAll]
    cases hafter : d.after? c with
    | none => exact .stopped d _
    | some e => exact .after hafter (ih e)

/-! ### What is not touched -/

theorem set_of_ne {q : Path} (n : Option Node) (h : p ≠ q) : d.set q n p = d p := if_neg h

theorem Torn.frame (h : d.Torn c e) (hp : ¬ c.Touches p) : e p = d p := by
  cases h with
  | untouched => rfl
  | directories some_made => exact (some_made p).resolve_right fun hmade => hp hmade.1
  | written q text left => exact set_of_ne left hp

theorem after?_frame (h : d.after? c = some e) (hp : ¬ c.Touches p) : e p = d p := by
  cases c with
  | makeDirectories q =>
    obtain ⟨-, h⟩ := Option.ite_none_right_eq_some.mp h
    rw [← Option.some.inj h]
    exact if_neg hp
  | write q text =>
    obtain ⟨-, rfl⟩ := Progress.after?_write.mp h
    exact set_of_ne _ hp
  | rename source target =>
    obtain ⟨text, -, -, rfl⟩ := Progress.after?_rename.mp h
    obtain ⟨hsource, htarget⟩ := not_or.mp hp
    rw [set_of_ne _ htarget, set_of_ne _ hsource]

/-- What no change touches stays as it was. -/
theorem CutShort.frame (h : d.CutShort cs e) (hp : ∀ c ∈ cs, ¬ c.Touches p) : e p = d p := by
  induction h with
  | stopped d cs => rfl
  | torn h => exact h.frame (hp _ List.mem_cons_self)
  | after h _ ih =>
    rw [ih fun c hc => hp c (List.mem_cons_of_mem _ hc)]
    exact after?_frame h (hp _ List.mem_cons_self)

/-- All changes are made if all before the last one are, and then the last one. -/
theorem applyAll_snoc : d.applyAll (cs ++ [c]) = (true, e) ↔
    ∃ d', d.applyAll cs = (true, d') ∧ d'.after? c = some e := by
  induction cs generalizing d with
  | nil => cases hafter : d.after? c <;> simp [applyAll, hafter]
  | cons first rest ih =>
    rw [List.cons_append, applyAll, applyAll]
    cases d.after? first with
    | none => simp
    | some d₁ => exact ih

/-- The last change is come to when all before it have been made. -/
theorem CutShort.snoc (h : d.CutShort (cs ++ [c]) e) :
    d.CutShort cs e ∨ ∃ d', d.applyAll cs = (true, d') ∧ d'.CutShort [c] e := by
  induction cs generalizing d with
  | nil => exact .inr ⟨d, rfl, h⟩
  | cons first rest ih =>
    cases h with
    | stopped => exact .inl (.stopped _ _)
    | torn h => exact .inl (.torn h)
    | after hafter hrest =>
      rcases ih hrest with hshort | ⟨d', hall, hlast⟩
      · exact .inl (.after hafter hshort)
      · refine .inr ⟨d', ?_, hlast⟩
        rw [applyAll, hafter]
        exact hall

/-- A file is moved at once or not at all. -/
theorem cutShort_rename {source target : Path} (h : d.CutShort [.rename source target] e) :
    e = d ∨ d.after? (.rename source target) = some e := by
  cases h with
  | stopped => exact .inl rfl
  | torn h => cases h with | untouched => exact .inl rfl
  | after h hrest => cases hrest with | stopped => exact .inr h

end Disk

namespace Progress

variable {d e : Disk} {path : Path} {s : Progress}

/-! ### Saving -/

/-- What saving does before it moves the file. -/
def preparing (s : Progress) (p : Path) : List Change :=
  [.makeDirectories p.parent, .write (temporary p) s.text]

theorem saving_eq (s : Progress) (p : Path) :
    s.saving p = s.preparing p ++ [.rename (temporary p) p] := rfl

/-- The directories lie above the file, and what is written first lies beside it. -/
theorem not_touches_of_mem_preparing {c : Change} (hc : c ∈ s.preparing path) :
    ¬ c.Touches path := by
  rcases List.mem_pair.mp hc with rfl | rfl
  · exact not_mem_chain_parent path
  · exact (temporary_ne path).symm

theorem read?_of_prepared (h : d.applyAll (s.preparing path) = (true, e)) :
    e.read? (temporary path) = some s.text := by
  change d.applyAll ([.makeDirectories path.parent] ++ [.write (temporary path) s.text]) = _ at h
  obtain ⟨d', -, hwrite⟩ := Disk.applyAll_snoc.mp h
  obtain ⟨-, rfl⟩ := after?_write.mp hwrite
  simp [Disk.read?, Disk.set]

/-- Wherever saving is cut short, the file is as it was or has the new text. -/
theorem cutShort_saving (h : d.CutShort (s.saving path) e) :
    e path = d path ∨ e path = some (.file s.text) := by
  rw [saving_eq] at h
  rcases h.snoc with hshort | ⟨d', hall, hlast⟩
  · exact .inl (hshort.frame fun c hc => not_touches_of_mem_preparing hc)
  · rcases Disk.cutShort_rename hlast with rfl | hrename
    · have hshort := Disk.cutShort_applyAll d (s.preparing path)
      rw [hall] at hshort
      exact .inl (hshort.frame fun c hc => not_touches_of_mem_preparing hc)
    · obtain ⟨text, hread, -, rfl⟩ := after?_rename.mp hrename
      obtain rfl : s.text = text :=
        Option.some.inj ((read?_of_prepared hall).symm.trans hread)
      exact .inr (if_pos rfl)

theorem saved_path : saved s path d path = some (.file s.text) := if_pos rfl

theorem saved_temporary : saved s path d (temporary path) = none :=
  (Disk.set_of_ne _ (temporary_ne path)).trans (if_pos rfl)

/-- Saving is all or nothing.  Wherever it is cut short, also where one of its changes fails, the
file is as it was or holds all entries of the progress; and once it has succeeded, those of them are
loaded that belong to the lab, and nothing lies beside the file. -/
theorem save_all_or_nothing (hs : Dict.Ascending s.entries) (path : Path) (d : Disk) :
    (∀ e, d.CutShort (s.saving path) e →
      e path = d path ∨ e path = some (.file s.text) ∧ Readable e path s.entries) ∧
    d.CutShort (s.saving path) (s.save path d).2 ∧
    ((s.save path d).1 = .ok () →
      load (s.save path d).2 path = ownEntries s ∧
        (s.save path d).2 (temporary path) = none) := by
  refine ⟨fun e hshort => ?_, Disk.cutShort_applyAll d _, fun hsave => ?_⟩
  · exact (cutShort_saving hshort).imp_right fun htext => ⟨htext, readable_of_text hs htext⟩
  · rw [(savable_of_save hsave).save_eq s]
    exact ⟨(readable_of_text hs saved_path).load_eq, saved_temporary⟩

/-- Entries that are not of the lab are saved with the others, and not loaded again.  The name of
the file that is written first keeps a point at its beginning. -/
theorem save_all_or_nothing_foreign :
    let s : Progress := ⟨[("autolab-active-style", "cypress"), ("theme", "dark")]⟩
    let path : Path := ["home", ".progress.json"]
    let old : Disk := Disk.empty.set path (some (.file "old"))
    Dict.Ascending s.entries ∧ (s.save path old).1 = .ok () ∧
      (load (s.save path old).2 path).entries = [("autolab-active-style", "cypress")] ∧
      (s.save path old).2 ["home", ".progress.json.tmp"] = none ∧
      ∀ e, old.CutShort (s.saving path) e →
        e.read? path = some "old" ∨ Readable e path s.entries := by
  intro s path old
  have hs : Dict.Ascending s.entries := List.pairwise_pair.mpr (by decide)
  have hsavable : Savable path old := by
    refine ⟨fun q hq => .inl ?_, ?_, ?_⟩
    · have hparent : q = ["home"] := List.mem_singleton.mp hq
      rw [hparent]
      rfl
    · decide
    · decide
  obtain ⟨hshort, -, hsaved⟩ := save_all_or_nothing hs path old
  have hsave : (s.save path old).1 = .ok () := by rw [hsavable.save_eq]
  obtain ⟨hload, hbeside⟩ := hsaved hsave
  have htemporary : temporary path = ["home", ".progress.json.tmp"] := by decide
  refine ⟨hs, hsave, ?_, htemporary ▸ hbeside, fun e he => ?_⟩
  · rw [hload]
    decide
  · rcases hshort e he with hold | ⟨-, hnew⟩
    · left
      rw [Disk.read?, hold]
      rfl
    · exact .inr hnew

end Progress

end BrowserLab
