import Mathlib.Data.List.DropRight
import Mathlib.Data.List.TakeWhile
import BrowserLab.Glob

/-!
# What globs fit

A glob is read from left to right: `**` is any text, a single `*` any text without a slash, `?` any
one character, and every other character itself.  `Reads glob text` says so, and `PathOf url p`
which part of an address counts.

* `ends_cons`, `headD_ends`: the table that fitting fills in says of each end of a text whether the
  pieces spell it.
* `reads_iff`: the pieces of a glob spell what the glob is read as, unless there is a line feed.
* `fits_iff_reads`: a glob fits an address if it can be read as an end of its path.
* `fits_self_iff`: a glob without stars fits itself if it is its own path.
-/

namespace BrowserLab.Glob

/-! ### Texts that are spelled by pieces -/

/-- The piece stands for this text. -/
def Piece.Spells : Piece → List Char → Prop
  | .literal a, part => part = [a]
  | .anyOne, part => ∃ c, part = [c] ∧ c ≠ '\n'
  | .star, part => '/' ∉ part
  | .doubleStar, part => '\n' ∉ part

/-- The pieces stand for parts of the text, in their order. -/
inductive Spells : List Piece → List Char → Prop
  | nil : Spells [] []
  | cons {p : Piece} {ps : List Piece} {part text : List Char} (hpart : p.Spells part)
      (h : Spells ps text) : Spells (p :: ps) (part ++ text)

variable {p : Piece} {ps : List Piece} {c : Char} {part text : List Char}

@[simp] theorem spells_nil_iff : Spells [] text ↔ text = [] := by
  constructor
  · rintro ⟨⟩
    rfl
  · rintro rfl
    exact .nil

theorem spells_cons_iff :
    Spells (p :: ps) text ↔ ∃ part rest, text = part ++ rest ∧ p.Spells part ∧ Spells ps rest := by
  constructor
  · rintro (_ | ⟨hpart, h⟩)
    exact ⟨_, _, rfl, hpart, h⟩
  · rintro ⟨part, rest, rfl, hpart, h⟩
    exact .cons hpart h

/-- A piece that repeats stands for no text, or for one character more than before. -/
theorem Piece.spells_nil_of_repeats (hp : p.repeats = true) : p.Spells [] := by
  cases p <;> simp_all [Piece.repeats, Piece.Spells]

theorem Piece.spells_cons_of_repeats (hp : p.repeats = true) :
    p.Spells (c :: part) ↔ p.takes c = true ∧ p.Spells part := by
  cases p <;> simp_all [Piece.repeats, Piece.Spells, Piece.takes, ne_comm]

/-- Any other piece stands for one character. -/
theorem Piece.spells_iff_of_not_repeats (hp : p.repeats = false) :
    p.Spells part ↔ ∃ c, part = [c] ∧ p.takes c = true := by
  cases p <;> simp_all [Piece.repeats, Piece.Spells, Piece.takes]

theorem spells_cons_nil : Spells (p :: ps) [] ↔ p.repeats = true ∧ Spells ps [] := by
  rw [spells_cons_iff]
  constructor
  · rintro ⟨part, rest, hnil, hpart, h⟩
    obtain ⟨rfl, rfl⟩ := List.append_eq_nil_iff.mp hnil.symm
    refine ⟨?_, h⟩
    by_contra hp
    obtain ⟨c, hc, -⟩ := (Piece.spells_iff_of_not_repeats (by simpa using hp)).mp hpart
    cases hc
  · rintro ⟨hp, h⟩
    exact ⟨[], [], rfl, Piece.spells_nil_of_repeats hp, h⟩

theorem spells_cons_cons_of_repeats (hp : p.repeats = true) :
    Spells (p :: ps) (c :: text) ↔
      Spells ps (c :: text) ∨ p.takes c = true ∧ Spells (p :: ps) text := by
  constructor
  · rw [spells_cons_iff]
    rintro ⟨part, rest, htext, hpart, h⟩
    cases part with
    | nil => exact .inl (htext ▸ h)
    | cons d part =>
      obtain ⟨rfl, rfl⟩ := List.cons_eq_cons.mp htext
      obtain ⟨hc, hpart⟩ := (Piece.spells_cons_of_repeats hp).mp hpart
      exact .inr ⟨hc, .cons hpart h⟩
  · rintro (h | ⟨hc, h⟩)
    · exact spells_cons_iff.mpr ⟨[], _, rfl, Piece.spells_nil_of_repeats hp, h⟩
    · obtain ⟨part, rest, rfl, hpart, h⟩ := spells_cons_iff.mp h
      exact .cons ((Piece.spells_cons_of_repeats hp).mpr ⟨hc, hpart⟩) h

theorem spells_cons_cons_of_not_repeats (hp : p.repeats = false) :
    Spells (p :: ps) (c :: text) ↔ p.takes c = true ∧ Spells ps text := by
  rw [spells_cons_iff]
  constructor
  · rintro ⟨part, rest, htext, hpart, h⟩
    obtain ⟨d, rfl, hd⟩ := (Piece.spells_iff_of_not_repeats hp).mp hpart
    obtain ⟨rfl, rfl⟩ := List.cons_eq_cons.mp htext
    exact ⟨hd, h⟩
  · rintro ⟨hc, h⟩
    exact ⟨[c], text, rfl, (Piece.spells_iff_of_not_repeats hp).mpr ⟨c, rfl, hc⟩, h⟩

/-! ### The table of ends -/

theorem ends_nil (ps : List Piece) : ∃ fit, ends ps [] = [fit] := by
  induction ps with
  | nil => exact ⟨true, rfl⟩
  | cons p ps ih =>
    obtain ⟨fit, hfit⟩ := ih
    exact ⟨p.repeats && fit, by rw [ends, hfit]; rfl⟩

/-- The table of a text goes on as the table of what follows its first character. -/
theorem ends_cons (ps : List Piece) (c : Char) (text : List Char) :
    ends ps (c :: text) = (ends ps (c :: text)).headD false :: ends ps text := by
  induction ps with
  | nil => rfl
  | cons p ps ih =>
    rw [ends, ih, Piece.extend]
    rfl

theorem headD_ends_cons_nil : (ends (p :: ps) []).headD false =
    (p.repeats && (ends ps []).headD false) := by
  obtain ⟨fit, hfit⟩ := ends_nil ps
  rw [ends, hfit]
  rfl

theorem headD_ends_cons_cons : (ends (p :: ps) (c :: text)).headD false =
    if p.repeats then
      (ends ps (c :: text)).headD false || (p.takes c && (ends (p :: ps) text).headD false)
    else p.takes c && (ends ps text).headD false := by
  rw [ends, ends_cons ps, Piece.extend]
  rfl

/-- The first entry says whether the pieces spell the whole text. -/
theorem headD_ends (ps : List Piece) (text : List Char) :
    (ends ps text).headD false = true ↔ Spells ps text := by
  induction ps generalizing text with
  | nil => cases text <;> simp [ends]
  | cons p ps ih =>
    induction text with
    | nil => rw [headD_ends_cons_nil, Bool.and_eq_true, ih, spells_cons_nil]
    | cons c text ihText =>
      rw [headD_ends_cons_cons]
      split
      · next hp =>
        rw [spells_cons_cons_of_repeats hp, Bool.or_eq_true, Bool.and_eq_true, ih, ihText]
      · next hp =>
        rw [spells_cons_cons_of_not_repeats (by simpa using hp), Bool.and_eq_true, ih]

/-- Some entry says so of some end of the text. -/
theorem any_ends (ps : List Piece) (text : List Char) :
    (ends ps text).any id = true ↔ ∃ s, s <:+ text ∧ Spells ps s := by
  induction text with
  | nil =>
    obtain ⟨fit, hfit⟩ := ends_nil ps
    have hhead := headD_ends ps []
    rw [hfit] at hhead ⊢
    simpa using hhead
  | cons c text ih =>
    rw [ends_cons, List.any_cons, Bool.or_eq_true, id_eq, headD_ends, ih]
    constructor
    · rintro (h | ⟨s, hs, h⟩)
      · exact ⟨_, List.suffix_rfl, h⟩
      · exact ⟨s, hs.trans (List.suffix_cons c text), h⟩
    · rintro ⟨s, hs, h⟩
      obtain rfl | hs := List.suffix_cons_iff.mp hs
      · exact .inl h
      · exact .inr ⟨s, hs, h⟩

/-! ### Reading a glob -/

/-- The glob, read from left to right, is this text. -/
inductive Reads : List Char → List Char → Prop
  | nil : Reads [] []
  | anyText {glob text : List Char} (part : List Char) (h : Reads glob text) :
      Reads ('*' :: '*' :: glob) (part ++ text)
  | segment {glob text : List Char} {part : List Char} (hglob : glob.head? ≠ some '*')
      (hpart : '/' ∉ part) (h : Reads glob text) : Reads ('*' :: glob) (part ++ text)
  | anyOne {glob text : List Char} (c : Char) (h : Reads glob text) :
      Reads ('?' :: glob) (c :: text)
  | literal {glob text : List Char} {c : Char} (hstar : c ≠ '*') (hone : c ≠ '?')
      (h : Reads glob text) : Reads (c :: glob) (c :: text)

theorem pieces_star {glob : List Char} (h : glob.head? ≠ some '*') :
    pieces ('*' :: glob) = .star :: pieces glob := by
  rw [pieces]
  rintro rest rfl
  exact h rfl

theorem pieces_literal {glob : List Char} (hstar : c ≠ '*') (hone : c ≠ '?') :
    pieces (c :: glob) = .literal c :: pieces glob := by
  rw [pieces] <;> simp_all

/-- Without a line feed, the pieces of a glob spell what the glob is read as. -/
theorem reads_iff {glob : List Char} (htext : '\n' ∉ text) :
    Reads glob text ↔ Spells (pieces glob) text := by
  constructor
  · intro h
    induction h with
    | nil => exact .nil
    | anyText part h ih =>
      rw [List.mem_append, not_or] at htext
      exact .cons (p := .doubleStar) htext.1 (ih htext.2)
    | segment hglob hpart h ih =>
      rw [List.mem_append, not_or] at htext
      rw [pieces_star hglob]
      exact .cons (p := .star) hpart (ih htext.2)
    | anyOne c h ih =>
      rw [List.mem_cons, not_or] at htext
      exact .cons (p := .anyOne) ⟨c, rfl, Ne.symm htext.1⟩ (ih htext.2)
    | literal hstar hone h ih =>
      rw [List.mem_cons, not_or] at htext
      rw [pieces_literal hstar hone]
      exact .cons (p := .literal _) rfl (ih htext.2)
  · clear htext
    intro h
    induction glob using pieces.induct generalizing text with
    | case1 glob ih =>
      obtain ⟨part, rest, rfl, -, hrest⟩ := spells_cons_iff.mp h
      exact .anyText part (ih hrest)
    | case2 glob hglob ih =>
      have hhead : glob.head? ≠ some '*' := by
        intro hhead
        obtain ⟨rest, rfl⟩ := List.head?_eq_some_iff.mp hhead
        exact hglob rest rfl
      rw [pieces_star hhead] at h
      obtain ⟨part, rest, rfl, hpart, hrest⟩ := spells_cons_iff.mp h
      exact .segment hhead hpart (ih hrest)
    | case3 glob ih =>
      obtain ⟨part, rest, rfl, ⟨c, rfl, -⟩, hrest⟩ := spells_cons_iff.mp h
      exact .anyOne c (ih hrest)
    | case4 c glob hstars hstar hone ih =>
      rw [pieces_literal hstar hone] at h
      obtain ⟨part, rest, rfl, rfl, hrest⟩ := spells_cons_iff.mp h
      exact .literal hstar hone (ih hrest)
    | case5 =>
      obtain rfl := spells_nil_iff.mp h
      exact .nil

/-! ### The path of an address -/

/-- What stands before the first `?` or `#`. -/
def Front (url front : List Char) : Prop :=
  ∃ rest, url = front ++ rest ∧ (∀ c ∈ front, c ≠ '?' ∧ c ≠ '#') ∧
    ∀ c ∈ rest.head?, c = '?' ∨ c = '#'

/-- The text without the slashes at its end, which stay if there is nothing else. -/
def Trimmed (front p : List Char) : Prop :=
  (∃ slashes, front = p ++ slashes ∧ (∀ c ∈ slashes, c = '/') ∧ p ≠ [] ∧ p.getLast? ≠ some '/') ∨
    p = front ∧ ∀ c ∈ front, c = '/'

/-- What counts of an address. -/
def PathOf (url p : List Char) : Prop := ∃ front, Front url front ∧ Trimmed front p

theorem front_iff {url front : List Char} :
    Front url front ↔ front = url.takeWhile fun c => c ≠ '?' && c ≠ '#' := by
  constructor
  · rintro ⟨rest, rfl, hfront, hrest⟩
    have hstop : rest.takeWhile (fun c => c ≠ '?' && c ≠ '#') = [] := by
      cases rest with
      | nil => rfl
      | cons c rest =>
        have hc : c = '?' ∨ c = '#' := hrest c rfl
        exact List.takeWhile_cons_of_neg (by simpa [Classical.or_iff_not_imp_left] using hc)
    rw [List.takeWhile_append_of_pos (by simpa using hfront), hstop, List.append_nil]
  · rintro rfl
    refine ⟨_, List.takeWhile_append_dropWhile.symm, fun c hc => ?_, fun c hc => ?_⟩
    · simpa using List.mem_takeWhile_imp hc
    · have hstop := List.head?_dropWhile_not (fun c => c ≠ '?' && c ≠ '#') url
      rw [Option.mem_def.mp hc] at hstop
      simpa [Classical.or_iff_not_imp_left] using hstop

theorem trimSlashes_eq (cs : List Char) :
    trimSlashes cs = if cs.rdropWhile (· = '/') = [] then cs else cs.rdropWhile (· = '/') := by
  simp [trimSlashes, List.rdropWhile]

theorem trimmed_iff {front p : List Char} : Trimmed front p ↔ p = trimSlashes front := by
  rw [trimSlashes_eq]
  constructor
  · rintro (⟨slashes, rfl, hslashes, hp, hlast⟩ | ⟨rfl, hall⟩)
    · have hdrop : (p ++ slashes).rdropWhile (· = '/') = p := by
        have hkept : p.rdropWhile (· = '/') = p := by
          rw [List.rdropWhile_eq_self_iff]
          intro hne
          rw [List.getLast?_eq_some_getLast hne] at hlast
          simpa using hlast
        rw [List.rdropWhile, List.reverse_append,
          List.dropWhile_append_of_pos (by simpa using hslashes)]
        exact hkept
      rw [hdrop, if_neg hp]
    · rw [if_pos (List.rdropWhile_eq_nil_iff.mpr (by simpa using hall))]
  · rintro rfl
    split
    · next hnil => exact .inr ⟨rfl, by simpa using List.rdropWhile_eq_nil_iff.mp hnil⟩
    · next hne =>
      refine .inl ⟨_, List.rdropWhile_append_rtakeWhile.symm, fun c hc => ?_, hne, ?_⟩
      · simpa using List.mem_rtakeWhile_imp hc
      · rw [List.getLast?_eq_some_getLast hne]
        simpa using List.rdropWhile_last_not _ _ hne

/-- An address has one path. -/
theorem pathOf_iff {url p : List Char} : PathOf url p ↔ p = path url := by
  constructor
  · rintro ⟨front, hfront, htrimmed⟩
    rw [trimmed_iff.mp htrimmed, front_iff.mp hfront]
    rfl
  · rintro rfl
    exact ⟨_, front_iff.mpr rfl, trimmed_iff.mpr rfl⟩

theorem isPrefix_trimSlashes (cs : List Char) : trimSlashes cs <+: cs := by
  rw [trimSlashes_eq]
  split
  · exact List.prefix_rfl
  · exact List.rdropWhile_prefix _ _

theorem isPrefix_path (url : List Char) : path url <+: url :=
  (isPrefix_trimSlashes _).trans <| List.takeWhile_prefix _

/-! ### What a glob fits -/

theorem fits_iff {glob url : String} : fits glob url = true ↔
    ∃ s, s <:+ path url.toList ∧ Spells (pieces glob.toList) s :=
  any_ends _ _

/-- The piece of a character that is no star. -/
def Piece.plain (c : Char) : Piece := if c = '?' then .anyOne else .literal c

theorem Piece.repeats_plain (c : Char) : (plain c).repeats = false := by
  unfold plain
  split <;> rfl

theorem pieces_of_starless {glob : List Char} (h : '*' ∉ glob) :
    pieces glob = glob.map Piece.plain := by
  induction glob with
  | nil => rfl
  | cons c glob ih =>
    rw [List.mem_cons, not_or] at h
    rw [List.map_cons, ← ih h.2, Piece.plain]
    split
    · next hone =>
      rw [hone]
      rfl
    · next hone => exact pieces_literal (Ne.symm h.1) hone

/-- Without stars a text is spelled character by character. -/
theorem Spells.length_eq (hps : ∀ p ∈ ps, p.repeats = false) (h : Spells ps text) :
    text.length = ps.length := by
  induction h with
  | nil => rfl
  | cons hpart h ih =>
    rw [List.forall_mem_cons] at hps
    obtain ⟨c, rfl, -⟩ := (Piece.spells_iff_of_not_repeats hps.1).mp hpart
    exact congrArg (· + 1) (ih hps.2)

theorem spells_plain (h : '?' ∉ text) : Spells (text.map Piece.plain) text := by
  induction text with
  | nil => exact .nil
  | cons c text ih =>
    rw [List.mem_cons, not_or] at h
    rw [List.map_cons, Piece.plain, if_neg (Ne.symm h.1)]
    exact spells_cons_iff.mpr ⟨[c], text, rfl, rfl, ih h.2⟩

/-- All of the address is its path: it has no query, no fragment, and no slash at its end unless
there is nothing else. -/
def AllPath (url : List Char) : Prop :=
  (∀ c ∈ url, c ≠ '?' ∧ c ≠ '#') ∧ (url.getLast? = some '/' → ∀ c ∈ url, c = '/')

theorem path_eq_self_iff {url : List Char} : path url = url ↔ AllPath url := by
  rw [eq_comm, ← pathOf_iff]
  constructor
  · rintro ⟨front, ⟨rest, hurl, hfront, -⟩, ⟨slashes, hcut, -, -, hlast⟩ | ⟨rfl, hall⟩⟩
    · have hself : url = url ++ (slashes ++ rest) := by rw [← List.append_assoc, ← hcut, ← hurl]
      have hnil := List.append_right_eq_self.mp hself.symm
      rw [hcut, (List.append_eq_nil_iff.mp hnil).1, List.append_nil] at hfront
      exact ⟨hfront, fun h => absurd h hlast⟩
    · exact ⟨hfront, fun _ => hall⟩
  · rintro ⟨hfront, hlast⟩
    refine ⟨url, ⟨[], (List.append_nil _).symm, hfront, nofun⟩, ?_⟩
    by_cases h : url.getLast? = some '/'
    · exact .inr ⟨rfl, hlast h⟩
    · by_cases hnil : url = []
      · exact .inr ⟨rfl, by simp [hnil]⟩
      · exact .inl ⟨[], (List.append_nil _).symm, nofun, hnil, h⟩

/-- A glob without stars fits itself if and only if all of it is path: what is dropped from the
address is then missed. -/
theorem fits_self_iff {url : String} (hstar : '*' ∉ url.toList) :
    fits url url = true ↔ AllPath url.toList := by
  rw [fits_iff, pieces_of_starless hstar, ← path_eq_self_iff]
  constructor
  · rintro ⟨s, hs, h⟩
    have hplain : ∀ p ∈ url.toList.map Piece.plain, p.repeats = false := by
      simp [Piece.repeats_plain]
    have hlength := h.length_eq hplain
    rw [List.length_map] at hlength
    exact (isPrefix_path _).eq_of_length_le (hlength ▸ hs.length_le)
  · intro h
    have hone : '?' ∉ url.toList := fun hmem => (path_eq_self_iff.mp h).1 _ hmem |>.1 rfl
    exact ⟨url.toList, ⟨[], h.symm⟩, spells_plain hone⟩

/-- **A glob fits an address if and only if it can be read as an end of its path.** -/
theorem fits_iff_reads {glob url : String} (hurl : '\n' ∉ url.toList) :
    fits glob url = true ↔ ∃ p s, PathOf url.toList p ∧ s <:+ p ∧ Reads glob.toList s := by
  have hread {s : List Char} (hs : s <:+ path url.toList) :
      Reads glob.toList s ↔ Spells (pieces glob.toList) s :=
    reads_iff fun h => hurl ((isPrefix_path _).subset (hs.subset h))
  rw [fits_iff]
  constructor
  · rintro ⟨s, hs, h⟩
    exact ⟨_, s, pathOf_iff.mpr rfl, hs, (hread hs).mpr h⟩
  · rintro ⟨p, s, hp, hs, h⟩
    obtain rfl := pathOf_iff.mp hp
    exact ⟨s, hs, (hread hs).mp h⟩

/-- Three stars are any text and then a text without a slash, and a query and a slash are dropped;
a single star does not go past a slash. -/
theorem fits_iff_reads_stars :
    let url := "https://x.com/api/v1/users/data/?page=2"
    '\n' ∉ url.toList ∧
      (fits "/api/***/d?ta" url = true ∧
        ∃ p s, PathOf url.toList p ∧ s <:+ p ∧ Reads "/api/***/d?ta".toList s) ∧
      ¬ ∃ p s, PathOf url.toList p ∧ s <:+ p ∧ Reads "/api/*/data".toList s := by
  intro url
  have hurl : '\n' ∉ url.toList := by decide +kernel
  have hfits : fits "/api/***/d?ta" url = true := by decide +kernel
  have hnot : ¬ fits "/api/*/data" url = true := by decide +kernel
  exact ⟨hurl, ⟨hfits, (fits_iff_reads hurl).mp hfits⟩, (fits_iff_reads hurl).not.mp hnot⟩

end BrowserLab.Glob
