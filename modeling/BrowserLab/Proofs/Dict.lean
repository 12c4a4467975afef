import Mathlib.Data.List.Forall2
import Mathlib.Tactic.SplitIfs
import BrowserLab.Dict

/-!
# What is in a dictionary

`Dict.Holds q d` says that all values of a dictionary are as `q` tells, and `Dict.Ascending d` that
its keys ascend.  Putting in, taking out and looking up keep to it.  What is looked up after a value
was put in is that value under its key, and what it was before under any other (`get?_insert`).  A
search over ascending keys finds the least one (`find?_eq_some_iff_least`).  Two dictionaries are
`AlikeBut` for a key if nothing else tells them apart; putting in keeps to it, and puts an end to it
if it is this key that is put in.
-/

namespace BrowserLab.Dict

variable {α : Type} {q : α → Prop}

/-- All values are as `q` tells. -/
def Holds (q : α → Prop) (d : List (String × α)) : Prop := ∀ entry ∈ d, q entry.2

@[simp] theorem holds_nil : Holds q [] := fun _ h => by simp at h

theorem holds_cons {k : String} {v : α} {d : List (String × α)} (hv : q v) (h : Holds q d) :
    Holds q ((k, v) :: d) := by
  intro entry hentry
  rcases List.mem_cons.mp hentry with rfl | hd
  · exact hv
  · exact h entry hd

@[simp] theorem holds_cons_iff {k : String} {v : α} {d : List (String × α)} :
    Holds q ((k, v) :: d) ↔ q v ∧ Holds q d :=
  List.forall_mem_cons

theorem Holds.append {d e : List (String × α)} (hd : Holds q d) (he : Holds q e) :
    Holds q (d ++ e) := by
  intro entry hentry
  rcases List.mem_append.mp hentry with h | h
  · exact hd entry h
  · exact he entry h

theorem Holds.tail {entry : String × α} {d : List (String × α)} (h : Holds q (entry :: d)) :
    Holds q d :=
  fun e he => h e (List.mem_cons_of_mem _ he)

theorem Holds.filter {d : List (String × α)} (h : Holds q d) (keep : String × α → Bool) :
    Holds q (d.filter keep) :=
  fun entry hentry => h entry ((List.mem_filter.mp hentry).1)

theorem Holds.erase {d : Dict α} (h : Holds q d) (key : String) : Holds q (Dict.erase d key) :=
  h.filter _

theorem Holds.get? {d : Dict α} (h : Holds q d) {key : String} {v : α}
    (hv : Dict.get? d key = some v) : q v := by
  induction d with
  | nil => simp [Dict.get?] at hv
  | cons entry rest ih =>
    rw [Dict.get?] at hv
    split at hv
    · cases hv
      exact h entry List.mem_cons_self
    · exact ih h.tail hv

theorem Holds.insert {d : Dict α} (h : Holds q d) {v : α} (hv : q v) (key : String) :
    Holds q (Dict.insert d key v) := by
  induction d with
  | nil => exact holds_cons hv holds_nil
  | cons entry rest ih =>
    rw [Dict.insert]
    split
    · exact holds_cons hv h
    · split
      · exact holds_cons hv h.tail
      · exact holds_cons (h entry List.mem_cons_self) (ih h.tail)

theorem Holds.insertAll {pairs : List (String × α)} (hpairs : Holds q pairs) :
    ∀ {d : Dict α}, Holds q d → Holds q (Dict.insertAll d pairs) := by
  induction pairs with
  | nil => exact fun h => h
  | cons pair rest ih =>
    intro d h
    exact ih hpairs.tail (h.insert (hpairs pair List.mem_cons_self) pair.1)

theorem Holds.ofPairs {pairs : List (String × α)} (h : Holds q pairs) :
    Holds q (Dict.ofPairs pairs) :=
  h.insertAll holds_nil

/-! ### Look-ups -/

theorem get?_insert (d : Dict α) (key : String) (v : α) (other : String) :
    get? (insert d key v) other = if key = other then some v else get? d other := by
  induction d with
  | nil => rfl
  | cons entry rest ih =>
    obtain ⟨k, w⟩ := entry
    rw [insert]
    by_cases hlt : key < k
    · rw [if_pos hlt, get?]
    · rw [if_neg hlt]
      by_cases heq : key = k
      · rw [if_pos heq, get?, get?, ← heq]
        by_cases hother : key = other
        · rw [if_pos hother, if_pos hother]
        · rw [if_neg hother, if_neg hother, if_neg hother]
      · rw [if_neg heq, get?, get?, ih]
        by_cases hother : k = other
        · rw [if_pos hother, if_pos hother, if_neg fun h => heq (h.trans hother.symm)]
        · rw [if_neg hother, if_neg hother]

theorem mem_of_get? {d : Dict α} {key : String} {v : α} (h : get? d key = some v) :
    (key, v) ∈ d := by
  induction d with
  | nil => simp [get?] at h
  | cons entry rest ih =>
    obtain ⟨k, w⟩ := entry
    rw [get?] at h
    split_ifs at h with hkey
    · cases h
      rw [hkey]
      exact List.mem_cons_self
    · exact List.mem_cons_of_mem _ (ih h)

theorem isSome_get?_of_mem {d : Dict α} {entry : String × α} (h : entry ∈ d) :
    (get? d entry.1).isSome = true := by
  induction d with
  | nil => cases h
  | cons first rest ih =>
    rw [get?]
    split_ifs with hkey
    · rfl
    · obtain rfl | hrest := List.mem_cons.mp h
      · exact absurd rfl hkey
      · exact ih hrest

theorem get?_insertAll_of_not_mem {pairs : List (String × α)} {key : String}
    (h : ∀ pair ∈ pairs, pair.1 ≠ key) (d : Dict α) :
    get? (insertAll d pairs) key = get? d key := by
  induction pairs generalizing d with
  | nil => rfl
  | cons pair rest ih =>
    obtain ⟨hpair, hrest⟩ := List.forall_mem_cons.mp h
    show get? (insertAll (insert d pair.1 pair.2) rest) key = _
    rw [ih hrest, get?_insert, if_neg hpair]

theorem exists_get?_insertAll {pairs : List (String × α)} {key : String}
    (h : ∃ pair ∈ pairs, pair.1 = key) (d : Dict α) :
    ∃ v, (key, v) ∈ pairs ∧ get? (insertAll d pairs) key = some v := by
  induction pairs generalizing d with
  | nil => simp at h
  | cons pair rest ih =>
    by_cases hrest : ∃ other ∈ rest, other.1 = key
    · obtain ⟨v, hv, hget⟩ := ih hrest (insert d pair.1 pair.2)
      exact ⟨v, List.mem_cons_of_mem _ hv, hget⟩
    · -- it is put in by the first pair, and stays
      obtain ⟨other, hother, rfl⟩ := h
      obtain rfl | hother := List.mem_cons.mp hother
      · refine ⟨other.2, List.mem_cons_self, ?_⟩
        show get? (insertAll (insert d other.1 other.2) rest) other.1 = _
        rw [get?_insertAll_of_not_mem (fun e he heq => hrest ⟨e, he, heq⟩), get?_insert,
          if_pos rfl]
      · exact absurd ⟨other, hother, rfl⟩ hrest

/-! ### Order -/

/-- The keys ascend. -/
def Ascending (d : List (String × α)) : Prop := d.Pairwise fun a b => a.1 < b.1

theorem mem_insert_key {d : Dict α} {key : String} {v : α} {entry : String × α}
    (h : entry ∈ insert d key v) : entry.1 = key ∨ entry ∈ d := by
  induction d with
  | nil =>
    rw [insert, List.mem_singleton] at h
    exact .inl (by rw [h])
  | cons first rest ih =>
    rw [insert] at h
    split at h
    · obtain rfl | h := List.mem_cons.mp h
      · exact .inl rfl
      · exact .inr h
    · split at h
      · obtain rfl | h := List.mem_cons.mp h
        · exact .inl rfl
        · exact .inr (List.mem_cons_of_mem _ h)
      · obtain rfl | h := List.mem_cons.mp h
        · exact .inr List.mem_cons_self
        · obtain h | h := ih h
          · exact .inl h
          · exact .inr (List.mem_cons_of_mem _ h)

theorem Ascending.insert {d : Dict α} (h : Ascending d) (key : String) (v : α) :
    Ascending (Dict.insert d key v) := by
  induction d with
  | nil => exact List.pairwise_singleton _ _
  | cons entry rest ih =>
    obtain ⟨hfirst, hrest⟩ := List.pairwise_cons.mp h
    rw [Dict.insert]
    split
    · next hlt =>
      refine List.pairwise_cons.mpr ⟨fun e he => ?_, h⟩
      obtain rfl | he := List.mem_cons.mp he
      · exact hlt
      · exact String.lt_trans hlt (hfirst e he)
    · next hlt =>
      split
      · next heq => exact List.pairwise_cons.mpr ⟨by rw [heq]; exact hfirst, hrest⟩
      · next hne =>
        refine List.pairwise_cons.mpr ⟨fun e he => ?_, ih hrest⟩
        obtain heq | he := mem_insert_key he
        · rw [heq]
          exact ((Std.lt_trichotomy key entry.1).resolve_left hlt).resolve_left hne
        · exact hfirst e he

theorem Ascending.insertAll {d : Dict α} (h : Ascending d) (pairs : List (String × α)) :
    Ascending (Dict.insertAll d pairs) := by
  induction pairs generalizing d with
  | nil => exact h
  | cons pair rest ih => exact ih (h.insert pair.1 pair.2)

theorem ascending_ofPairs (pairs : List (String × α)) : Ascending (ofPairs pairs) :=
  Ascending.insertAll List.Pairwise.nil pairs

/-- The first entry whose key is as `q` tells is the one with the least such key. -/
theorem find?_eq_some_iff_least {d : Dict α} (h : Ascending d) (q : String → Bool)
    (entry : String × α) :
    d.find? (fun e => q e.1) = some entry ↔
      entry ∈ d ∧ q entry.1 = true ∧ ∀ other ∈ d, q other.1 = true → entry.1 ≤ other.1 := by
  induction d with
  | nil => simp
  | cons first rest ih =>
    obtain ⟨hfirst, hrest⟩ := List.pairwise_cons.mp h
    by_cases hq : q first.1 = true
    · rw [List.find?_cons_of_pos (p := fun e : String × α => q e.1) hq, Option.some_inj]
      constructor
      · rintro rfl
        refine ⟨List.mem_cons_self, hq, fun other hother _ => ?_⟩
        obtain rfl | hother := List.mem_cons.mp hother
        · exact String.le_refl _
        · exact String.lt_asymm (hfirst other hother)
      · rintro ⟨hentry, -, hleast⟩
        obtain rfl | hentry := List.mem_cons.mp hentry
        · rfl
        · exact absurd (hfirst entry hentry) (hleast first List.mem_cons_self hq)
    · rw [List.find?_cons_of_neg (p := fun e : String × α => q e.1) hq, ih hrest]
      constructor
      · rintro ⟨hentry, hq', hleast⟩
        refine ⟨List.mem_cons_of_mem _ hentry, hq', fun other hother hqother => ?_⟩
        obtain rfl | hother := List.mem_cons.mp hother
        · exact absurd hqother hq
        · exact hleast other hother hqother
      · rintro ⟨hentry, hq', hleast⟩
        obtain rfl | hentry := List.mem_cons.mp hentry
        · exact absurd hq' hq
        · exact ⟨hentry, hq', fun other hother => hleast other (List.mem_cons_of_mem _ hother)⟩

/-- A key above all others is put in at the end. -/
theorem insert_last {d : Dict α} {key : String} {v : α} (h : ∀ entry ∈ d, entry.1 < key) :
    insert d key v = d ++ [(key, v)] := by
  induction d with
  | nil => rfl
  | cons entry rest ih =>
    have hlt := h entry List.mem_cons_self
    have hne : key ≠ entry.1 := fun heq => String.lt_irrefl _ (heq ▸ hlt)
    rw [insert, if_neg (String.lt_asymm hlt), if_neg hne,
      ih fun e he => h e (List.mem_cons_of_mem _ he)]
    rfl

theorem insertAll_of_ascending {d pairs : List (String × α)} (h : Ascending (d ++ pairs)) :
    insertAll d pairs = d ++ pairs := by
  induction pairs generalizing d with
  | nil => rw [List.append_nil]; rfl
  | cons pair rest ih =>
    have hlast : ∀ entry ∈ d, entry.1 < pair.1 := fun entry he =>
      (List.pairwise_append.mp h).2.2 entry he pair List.mem_cons_self
    show insertAll (insert d pair.1 pair.2) rest = _
    rw [insert_last hlast, ih (by rw [List.append_assoc]; exact h), List.append_assoc]
    rfl

/-- Pairs in ascending order are a dictionary already. -/
theorem ofPairs_of_ascending {pairs : List (String × α)} (h : Ascending pairs) :
    ofPairs pairs = pairs :=
  insertAll_of_ascending h

/-! ### Alike but for one key -/

section Alike

variable {key : String} {d e : Dict α}

/-- The same keys with the same values, except for the values of `key`. -/
def AlikeBut (key : String) (d e : List (String × α)) : Prop :=
  List.Forall₂ (fun x y => x.1 = y.1 ∧ (x.1 = key ∨ x.2 = y.2)) d e

theorem AlikeBut.refl (key : String) : ∀ d : List (String × α), AlikeBut key d d
  | [] => .nil
  | _ :: rest => .cons ⟨rfl, .inr rfl⟩ (refl key rest)

/-- Nothing differs where the key is missing. -/
theorem AlikeBut.eq (h : AlikeBut key d e) (hkey : ∀ entry ∈ d, entry.1 ≠ key) : d = e := by
  induction h with
  | nil => rfl
  | cons hentry _ ih =>
    obtain ⟨hfirst, hrest⟩ := List.forall_mem_cons.mp hkey
    rw [Prod.ext hentry.1 (hentry.2.resolve_left hfirst), ih hrest]

theorem AlikeBut.insert (h : AlikeBut key d e) (k : String) (v : α) :
    AlikeBut key (Dict.insert d k v) (Dict.insert e k v) := by
  induction h with
  | nil => exact .refl _ _
  | @cons x y d e hentry hrest ih =>
    obtain ⟨l, w⟩ := x
    obtain ⟨_, w'⟩ := y
    obtain ⟨rfl, hvalue⟩ := hentry
    rw [Dict.insert, Dict.insert]
    split
    · exact .cons ⟨rfl, .inr rfl⟩ (.cons ⟨rfl, hvalue⟩ hrest)
    · split
      · exact .cons ⟨rfl, .inr rfl⟩ hrest
      · exact .cons ⟨rfl, hvalue⟩ ih

/-- With the key's value nothing differs any more. -/
theorem AlikeBut.insert_self (h : AlikeBut key d e) (hd : Ascending d) (v : α) :
    Dict.insert d key v = Dict.insert e key v := by
  induction h with
  | nil => rfl
  | @cons x y d e hentry hrest ih =>
    obtain ⟨hfirst, hd⟩ := List.pairwise_cons.mp hd
    -- entries after the place of the key have greater keys
    have hlater (hle : ¬ x.1 < key) : d = e :=
      AlikeBut.eq hrest fun entry hmem heq => hle (heq ▸ hfirst entry hmem)
    rw [Dict.insert, Dict.insert, ← hentry.1]
    split
    · next hlt =>
      have hne : x.1 ≠ key := fun heq => String.lt_irrefl _ (heq ▸ hlt)
      rw [hlater (String.lt_asymm hlt), hentry.2.resolve_left hne]
    · split
      · next heq => rw [hlater (heq ▸ String.lt_irrefl _)]
      · next hne => rw [hentry.2.resolve_left (Ne.symm hne), ih hd]

theorem AlikeBut.insertAll (h : AlikeBut key d e) (pairs : List (String × α)) :
    AlikeBut key (Dict.insertAll d pairs) (Dict.insertAll e pairs) := by
  induction pairs generalizing d e with
  | nil => exact h
  | cons pair rest ih => exact ih (h.insert pair.1 pair.2)

theorem AlikeBut.insertAll_self (h : AlikeBut key d e) (hd : Ascending d)
    {pairs : List (String × α)} (hpairs : ∃ pair ∈ pairs, pair.1 = key) :
    Dict.insertAll d pairs = Dict.insertAll e pairs := by
  induction pairs generalizing d e with
  | nil => simp at hpairs
  | cons pair rest ih =>
    show Dict.insertAll (Dict.insert d pair.1 pair.2) rest =
      Dict.insertAll (Dict.insert e pair.1 pair.2) rest
    obtain ⟨other, hother, hkey⟩ := hpairs
    obtain rfl | hother := List.mem_cons.mp hother
    · rw [hkey, h.insert_self hd]
    · exact ih (h.insert pair.1 pair.2) (hd.insert pair.1 pair.2) ⟨other, hother, hkey⟩

end Alike

/-! ### Values for values -/

section Map

variable {β : Type} (f : α → β)

theorem insert_map (d : Dict α) (key : String) (v : α) :
    insert (d.map fun (k, w) => (k, f w)) key (f v) =
      (insert d key v).map fun (k, w) => (k, f w) := by
  induction d with
  | nil => rfl
  | cons entry rest ih =>
    rw [List.map_cons, insert, insert]
    split
    · rfl
    · split
      · rfl
      · rw [List.map_cons, ih]

theorem insertAll_map (d : Dict α) (pairs : List (String × α)) :
    insertAll (d.map fun (k, w) => (k, f w)) (pairs.map fun (k, w) => (k, f w)) =
      (insertAll d pairs).map fun (k, w) => (k, f w) := by
  induction pairs generalizing d with
  | nil => rfl
  | cons pair rest ih =>
    show insertAll (insert _ pair.1 (f pair.2)) _ = _
    rw [insert_map, ih]
    rfl

theorem ofPairs_map (pairs : List (String × α)) :
    ofPairs (pairs.map fun (k, w) => (k, f w)) = (ofPairs pairs).map fun (k, w) => (k, f w) :=
  insertAll_map f [] pairs

end Map

end BrowserLab.Dict
