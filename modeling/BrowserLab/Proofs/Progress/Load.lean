import BrowserLab.Proofs.Progress.Key
import BrowserLab.Proofs.Progress.Saving

/-!
# The file that progress is kept in

`Readable` says what entries a file holds.  Progress that is loaded has those of them that belong to
the lab, and progress that has been saved is what the file holds then.  If progress cannot be saved,
the file stays as it was: only the one beside it may have been written.

* `Readable.load_eq`, `readable_saveIfPossible`, `saveIfPossible_of_not_savable`.
-/

namespace BrowserLab

theorem Dict.get?_filter {α : Type} (d : Dict α) (keep : String → Bool) (key : String) :
    Dict.get? (d.filter fun entry => keep entry.1) key =
      if keep key then Dict.get? d key else none := by
  induction d with
  | nil => exact (ite_self none).symm
  | cons entry rest ih =>
    obtain ⟨k, v⟩ := entry
    rw [List.filter_cons, get?]
    by_cases hkey : k = key
    · subst hkey
      rw [if_pos rfl]
      cases hkeep : keep k with
      | true => rw [if_pos rfl, if_pos rfl, get?, if_pos rfl]
      | false =>
        rw [if_neg Bool.false_ne_true, if_neg Bool.false_ne_true, ih, hkeep]
        exact if_neg Bool.false_ne_true
    · rw [if_neg hkey]
      split
      · rw [get?, if_neg hkey]
        exact ih
      · exact ih

theorem Dict.Ascending.filter {α : Type} {d : Dict α} (h : Dict.Ascending d)
    (keep : String × α → Bool) : Dict.Ascending (d.filter keep) :=
  List.Pairwise.filter keep h

namespace Progress

variable {d : Disk} {path : Path}

/-! ### Reading -/

/-- The entries that a file holds: none if there is no file, and otherwise the texts of an object.
Of two texts with one key the later counts. -/
inductive Readable (d : Disk) (path : Path) : Dict String → Prop
  | absent (h : d path = none) : Readable d path []
  | object {text : String} {members : List (String × Json)} {entries : List (String × String)}
      (hfile : d.read? path = some text) (htext : Json.readRaw text = .ok (.obj members))
      (hentries : members.mapM entryOfMember? = some entries) :
      Readable d path (Dict.ofPairs entries)

/-- What is loaded are the entries that belong to the lab. -/
theorem Readable.load_eq {entries : Dict String} (h : Readable d path entries) :
    load d path = ownEntries ⟨entries⟩ := by
  cases h with
  | absent h =>
    rw [load, Disk.read?, h]
    rfl
  | object hfile htext hentries =>
    rw [load, hfile, Option.bind_some, ofText?, htext]
    dsimp only
    rw [hentries]
    rfl

theorem get?_ownEntries (p : Progress) (key : String) :
    (ownEntries p).get? key = if Text.startsWith key keyStart then p.get? key else none :=
  Dict.get?_filter p.entries (Text.startsWith · keyStart) key

/-- A slot is one of the lab. -/
theorem held_ownEntries (p : Progress) (slot : Slot) :
    (ownEntries p).get? slot.key = p.get? slot.key := by
  rw [get?_ownEntries, if_pos slot.startsWith_key]

/-! ### What is loaded can be saved -/

theorem tidy_ownEntries {p : Progress} (h : Dict.Ascending p.entries) : Tidy (ownEntries p) where
  ascending := h.filter _
  own _ hentry := (List.mem_filter.mp hentry).2

theorem Tidy.set {p : Progress} (h : Tidy p) (slot : Slot) (text : String) :
    Tidy (p.set slot.key text) where
  ascending := h.ascending.insert slot.key text
  own entry hentry := by
    rcases Dict.mem_insert_key hentry with hkey | hold
    · rw [hkey]
      exact slot.startsWith_key
    · exact h.own entry hold

theorem Readable.ascending {entries : Dict String} (h : Readable d path entries) :
    Dict.Ascending entries := by
  cases h with
  | absent => exact List.Pairwise.nil
  | object => exact Dict.ascending_ofPairs _

/-- A file with the text of progress holds its entries. -/
theorem readable_of_text {s : Progress} (hs : Dict.Ascending s.entries)
    (h : d path = some (.file s.text)) : Readable d path s.entries := by
  have hfile : d.read? path = some s.text := by rw [Disk.read?, h]
  have hentries : (s.entries.map Json.textMember).mapM entryOfMember? = some s.entries :=
    mapM_map_of_leftInverse (f := Json.textMember) (fun _ => rfl) s.entries
  have hread := Readable.object hfile (Json.readRaw_pretty_texts s.entries) hentries
  rwa [Dict.ofPairs_of_ascending hs] at hread

/-- The file holds what has been saved. -/
theorem readable_saveIfPossible {s : Progress} (hs : Tidy s) (h : Savable path d) :
    Readable (s.saveIfPossible path d) path s.entries := by
  refine readable_of_text hs.ascending ?_
  rw [saveIfPossible, h.save_eq]
  exact if_pos rfl

/-! ### What cannot be saved -/

/-- Either the name has no end, or its stem is what stands before its last point. -/
theorem stem_eq (name : String) :
    Path.stem name = name ∨
      ∃ after, Text.cutLast? '.' name = some (Path.stem name, after) := by
  unfold Path.stem
  cases Text.cutLast? '.' name with
  | none => exact .inl rfl
  | some halves =>
    obtain ⟨before, after⟩ := halves
    dsimp only
    split
    · exact .inl rfl
    · exact .inr ⟨after, rfl⟩

theorem append_ne_self {s t : String} (h : t.length ≠ 0) : s ++ t ≠ s := by
  intro heq
  have hlength : s.length + t.length = s.length := by rw [← String.length_append, heq]
  omega

theorem stem_append_ne (name : String) : Path.stem name ++ ".json.tmp" ≠ name := by
  intro h
  rcases stem_eq name with hstem | ⟨after, hcut⟩
  · rw [hstem] at h
    exact append_ne_self (by decide) h
  · -- the last point of the name is that of the end which is put behind it
    have hparts : Path.stem name ++ ".json" ++ "." ++ "tmp" = name := by
      rw [String.append_assoc, String.append_assoc]
      exact h
    have hagain : Text.cutLast? '.' (Path.stem name ++ ".json" ++ "." ++ "tmp") =
        some (Path.stem name ++ ".json", "tmp") := Text.cutLast?_append rfl (by decide)
    rw [hparts, hcut] at hagain
    have hsame : Path.stem name = Path.stem name ++ ".json" :=
      congrArg Prod.fst (Option.some.inj hagain)
    exact append_ne_self (by decide) hsame.symm

/-- The file that is written first is another one. -/
theorem temporary_ne (path : Path) : temporary path ≠ path := by
  intro h
  have hname : (temporary path).name = Path.stem path.name ++ ".json.tmp" := by
    rw [temporary, Path.withName, Path.name, List.getLast?_concat, Option.getD_some]
  rw [h] at hname
  exact stem_append_ne path.name hname.symm

/-- Changes of which one cannot be made leave a node as it was if those that are made do. -/
theorem applyAll_of_failed {c : Change} {rest : List Change} {p : Path}
    (hfailed : (d.applyAll (c :: rest)).1 ≠ true)
    (hrest : ∀ e : Disk, d.after? c = some e → (e.applyAll rest).1 ≠ true →
      (e.applyAll rest).2 p = d p) : (d.applyAll (c :: rest)).2 p = d p := by
  rw [Disk.applyAll] at hfailed ⊢
  cases hafter : d.after? c with
  | none => rfl
  | some e =>
    rw [hafter] at hfailed
    exact hrest e hafter hfailed

/-- If progress cannot be saved, the file stays as it was. -/
theorem saveIfPossible_of_not_savable (h : ¬ Savable path d) (s : Progress) :
    (s.saveIfPossible path d) path = d path := by
  have hfailed : (d.applyAll (s.saving path)).1 ≠ true := fun hall =>
    h (savable_of_save (s := s) (by simp [save, hall]))
  refine applyAll_of_failed hfailed fun e hmake hfailed => ?_
  obtain ⟨-, rfl⟩ := after?_makeDirectories.mp hmake
  rw [← withDirectories_path (d := d)]
  refine applyAll_of_failed hfailed fun e hwrite hfailed => ?_
  obtain ⟨-, rfl⟩ := after?_write.mp hwrite
  have hbeside : (withDirectories path d).set (temporary path) (some (.file s.text)) path =
      withDirectories path d path := if_neg (temporary_ne path).symm
  rw [← hbeside]
  exact applyAll_of_failed hfailed fun e _ hfailed => absurd rfl hfailed

end Progress

end BrowserLab
