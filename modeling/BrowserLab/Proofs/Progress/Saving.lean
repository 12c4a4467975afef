import Mathlib.Tactic.ByContra
import BrowserLab.Progress.Saving
import BrowserLab.Proofs.Dict
import BrowserLab.Proofs.Json.ReadBack

/-!
# What is saved is loaded

Progress whose keys ascend and belong to the lab is read back from its text as it was
(`ofText?_text`).  Whether it can be saved at a path depends on the disk alone, and it can be saved
there again once it has been (`Savable`).

* `load_save`.
-/

namespace BrowserLab.Progress

/-! ### The text -/

/-- The keys ascend, and all of them belong to the lab. -/
structure Tidy (s : Progress) : Prop where
  ascending : Dict.Ascending s.entries
  own : ∀ entry ∈ s.entries, Text.startsWith entry.1 keyStart = true

theorem mapM_map_of_leftInverse {α β : Type} {f : α → β} {g : β → Option α}
    (h : ∀ a, g (f a) = some a) (l : List α) : (l.map f).mapM g = some l := by
  induction l with
  | nil => rfl
  | cons a l ih =>
    rw [List.map_cons, List.mapM_cons, h, ih]
    rfl

theorem Tidy.ofText?_text {s : Progress} (h : Tidy s) : ofText? s.text = some s := by
  have hread : Json.readRaw s.text = .ok (.obj (s.entries.map Json.textMember)) :=
    Json.readRaw_pretty_texts s.entries
  have hentries : (s.entries.map Json.textMember).mapM entryOfMember? = some s.entries :=
    mapM_map_of_leftInverse (f := Json.textMember) (fun _ => rfl) s.entries
  have hown : ownEntries s = s := congrArg Progress.mk (List.filter_eq_self.mpr h.own)
  simp only [ofText?, hread, hentries, Option.map_some, Dict.ofPairs_of_ascending h.ascending]
  rw [hown]

/-! ### The disk -/

theorem length_of_mem_chain {p q : Path} (h : q ∈ p.chain) : q.length ≤ p.length := by
  obtain ⟨n, -, rfl⟩ := List.mem_map.mp h
  rw [List.length_take]
  exact Nat.min_le_right _ _

theorem self_mem_chain {p : Path} (h : p ≠ []) : p ∈ p.chain := by
  have hpos := List.length_pos_iff.mpr h
  refine List.mem_map.mpr ⟨p.length - 1, List.mem_range.mpr (by omega), ?_⟩
  rw [Nat.sub_add_cancel hpos, List.take_length]

theorem not_mem_chain_parent (p : Path) : p ∉ p.parent.chain := by
  intro h
  cases p with
  | nil => cases h
  | cons name rest =>
    have hlength := length_of_mem_chain h
    rw [Path.parent, List.length_dropLast, List.length_cons] at hlength
    omega

theorem temporary_not_mem_chain_parent (p : Path) : temporary p ∉ p.parent.chain := by
  intro h
  have hlength := length_of_mem_chain h
  rw [temporary, Path.withName, List.length_append, List.length_singleton] at hlength
  omega

theorem parent_temporary (p : Path) : (temporary p).parent = p.parent := List.dropLast_concat

variable {path : Path} {d : Disk}

/-- Progress can be saved at the path: nothing is in the way of it, of the file that is written
first and of the directories. -/
structure Savable (path : Path) (d : Disk) : Prop where
  directories : ∀ q ∈ path.parent.chain, d q = none ∨ d q = some .directory
  beside : d (temporary path) ≠ some .directory
  target : d path ≠ some .directory

/-- The disk with the directories that the path lies in. -/
def withDirectories (path : Path) (d : Disk) : Disk := fun q =>
  if path.parent.chain.contains q then some .directory else d q

/-- The disk on which the progress has been saved. -/
def saved (s : Progress) (path : Path) (d : Disk) : Disk :=
  ((withDirectories path d).set (temporary path) none).set path (some (.file s.text))

theorem withDirectories_of_mem {q : Path} (h : q ∈ path.parent.chain) :
    withDirectories path d q = some .directory :=
  if_pos (List.contains_iff_mem.mpr h)

theorem withDirectories_of_not_mem {q : Path} (h : q ∉ path.parent.chain) :
    withDirectories path d q = d q :=
  if_neg (mt List.contains_iff_mem.mp h)

theorem withDirectories_path : withDirectories path d path = d path :=
  withDirectories_of_not_mem (not_mem_chain_parent path)

theorem withDirectories_temporary :
    withDirectories path d (temporary path) = d (temporary path) :=
  withDirectories_of_not_mem (temporary_not_mem_chain_parent path)

theorem takesFile_iff {p : Path} :
    d.takesFile p = true ↔ d.isDirectory p.parent = true ∧ d p ≠ some .directory := by
  rw [Disk.takesFile, Bool.and_eq_true, decide_eq_true_iff]

theorem isDirectory_parent {e : Disk} (h : ∀ q ∈ path.parent.chain, e q = some .directory) :
    e.isDirectory path.parent = true := by
  by_cases hparent : path.parent = []
  · rw [Disk.isDirectory, hparent]
    rfl
  · simp [Disk.isDirectory, h _ (self_mem_chain hparent)]

theorem after?_makeDirectories {e : Disk} :
    d.after? (.makeDirectories path.parent) = some e ↔
      (∀ q ∈ path.parent.chain, d q = none ∨ d q = some .directory) ∧
        e = withDirectories path d := by
  have hmade : (fun q => if q ∈ path.parent.chain then some .directory else d q) =
      withDirectories path d := by
    funext q
    by_cases hq : q ∈ path.parent.chain
    · rw [if_pos hq, withDirectories_of_mem hq]
    · rw [if_neg hq, withDirectories_of_not_mem hq]
  simp only [Disk.after?, List.all_eq_true, Bool.or_eq_true, decide_eq_true_eq,
    Option.ite_none_right_eq_some, hmade]
  exact and_congr_right fun _ => ⟨fun h => (Option.some.inj h).symm, fun h => congrArg some h.symm⟩

theorem after?_write {p : Path} {text : String} {e : Disk} :
    d.after? (.write p text) = some e ↔ d.takesFile p = true ∧ e = d.set p (some (.file text)) := by
  simp only [Disk.after?, Option.ite_none_right_eq_some, Option.some.injEq]
  exact and_congr_right fun _ => eq_comm

theorem after?_rename {source target : Path} {e : Disk} :
    d.after? (.rename source target) = some e ↔ ∃ text, d.read? source = some text ∧
      d.takesFile target = true ∧ e = (d.set source none).set target (some (.file text)) := by
  rw [Disk.after?]
  cases d.read? source with
  | none => simp
  | some text =>
    simp only [Option.ite_none_right_eq_some, Option.some.injEq, exists_eq_left']
    exact and_congr_right fun _ => eq_comm

theorem applyAll_cons {c : Change} {rest : List Change} :
    (d.applyAll (c :: rest)).1 = true ↔ ∃ e, d.after? c = some e ∧ (e.applyAll rest).1 = true := by
  rw [Disk.applyAll]
  cases d.after? c <;> simp

theorem set_set (p : Path) (n m : Option Node) : (d.set p n).set p m = d.set p m := by
  funext q
  simp only [Disk.set]
  split_ifs <;> rfl

theorem Savable.save_eq (h : Savable path d) (s : Progress) :
    s.save path d = (.ok (), saved s path d) := by
  have hmake : d.after? (.makeDirectories path.parent) = some (withDirectories path d) :=
    after?_makeDirectories.mpr ⟨h.directories, rfl⟩
  have htakes : (withDirectories path d).takesFile (temporary path) = true := by
    rw [takesFile_iff, parent_temporary, withDirectories_temporary]
    exact ⟨isDirectory_parent fun q hq => withDirectories_of_mem hq, h.beside⟩
  obtain ⟨e, he⟩ : ∃ e, e = (withDirectories path d).set (temporary path) (some (.file s.text)) :=
    ⟨_, rfl⟩
  have hwrite : (withDirectories path d).after? (.write (temporary path) s.text) = some e :=
    after?_write.mpr ⟨htakes, he⟩
  have htarget : e.takesFile path = true := by
    refine takesFile_iff.mpr ⟨isDirectory_parent fun q hq => ?_, ?_⟩
    · have hne : q ≠ temporary path := fun heq => temporary_not_mem_chain_parent path (heq ▸ hq)
      rw [he, Disk.set, if_neg hne, withDirectories_of_mem hq]
    · rw [he, Disk.set, withDirectories_path]
      split_ifs
      · simp
      · exact h.target
  have hread : e.read? (temporary path) = some s.text := by
    simp [he, Disk.read?, Disk.set]
  have hrename : e.after? (.rename (temporary path) path) = some (saved s path d) :=
    after?_rename.mpr ⟨s.text, hread, htarget, by rw [he, set_set, saved]⟩
  simp only [save, saving, Disk.applyAll, hmake, hwrite, hrename]
  rfl

theorem savable_of_save {s : Progress} (h : (s.save path d).1 = .ok ()) : Savable path d := by
  have hall : (d.applyAll (s.saving path)).1 = true := by
    by_contra hfailed
    simp [save, hfailed] at h
  obtain ⟨d₁, hmake, hall⟩ := applyAll_cons.mp hall
  obtain ⟨d₂, hwrite, hall⟩ := applyAll_cons.mp hall
  obtain ⟨d₃, hrename, -⟩ := applyAll_cons.mp hall
  obtain ⟨hdirectories, rfl⟩ := after?_makeDirectories.mp hmake
  obtain ⟨htemporary, rfl⟩ := after?_write.mp hwrite
  obtain ⟨-, -, htarget, -⟩ := after?_rename.mp hrename
  have hbeside := (takesFile_iff.mp htemporary).2
  rw [withDirectories_temporary] at hbeside
  refine ⟨hdirectories, hbeside, ?_⟩
  by_cases heq : path = temporary path
  · rw [heq]
    exact hbeside
  · have hpath := (takesFile_iff.mp htarget).2
    rwa [Disk.set, if_neg heq, withDirectories_path] at hpath

/-- Where progress has been saved, it can be saved again. -/
theorem savable_saved (s : Progress) (path : Path) (d : Disk) :
    Savable path (saved s path d) := by
  refine ⟨fun q hq => .inr ?_, ?_, ?_⟩
  · have hpath : q ≠ path := fun heq => not_mem_chain_parent path (heq ▸ hq)
    have htemporary : q ≠ temporary path := fun heq =>
      temporary_not_mem_chain_parent path (heq ▸ hq)
    rw [saved, Disk.set, if_neg hpath, Disk.set, if_neg htemporary,
      withDirectories_of_mem hq]
  · simp only [saved, Disk.set]
    split_ifs <;> simp
  · simp [saved, Disk.set]

/-- What is saved is loaded again. -/
theorem load_save {s : Progress} (hs : Tidy s) (h : (s.save path d).1 = .ok ()) :
    load (s.save path d).2 path = s := by
  have hfile : Disk.read? (saved s path d) path = some s.text := by
    simp [Disk.read?, saved, Disk.set]
  rw [(savable_of_save h).save_eq, load, hfile, Option.bind_some, hs.ofText?_text,
    Option.getD_some]

end BrowserLab.Progress
