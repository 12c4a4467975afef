import BrowserLab.Event.Document
import BrowserLab.Proofs.Dict

/-!
# Reading back what was written

An object is written member by member, and members without a value are left out.  A structure that
is read from it finds each member by its name.

* `Document.record?_obj`: members that are written in the order of the names are all known.
* `Document.required_of_get?`, `Document.optional_of_get?`: a field is read from the member of its
  name.
-/

namespace BrowserLab

namespace Dict

@[simp] theorem get?_append {α : Type} (d e : List (String × α)) (key : String) :
    get? (d ++ e) key = (get? d key).or (get? e key) := by
  induction d with
  | nil => rfl
  | cons entry rest ih =>
    obtain ⟨k, v⟩ := entry
    rw [List.cons_append, get?, get?, ih]
    split <;> rfl

end Dict

namespace Json

variable {α : Type}

@[simp] theorem get?_member? (name : String) (write : α → Json) (a : Option α) (key : String) :
    Dict.get? (member? name write a) key = if name = key then a.map write else none := by
  cases a with
  | none => exact (ite_self none).symm
  | some a => rfl

theorem keys_member? (name : String) (write : α → Json) (a : Option α) :
    ((member? name write a).map Prod.fst).Sublist [name] := by
  cases a with
  | none => exact List.nil_sublist _
  | some a => exact List.Sublist.refl _

end Json

/-- The keys of members, in the order in which they are written. -/
def keys (members : List (String × Json)) : List String := members.map Prod.fst

theorem keys_cons (entry : String × Json) (members : List (String × Json)) :
    keys (entry :: members) = entry.1 :: keys members := rfl

theorem keys_append (a b : List (String × Json)) : keys (a ++ b) = keys a ++ keys b :=
  List.map_append

namespace Document

theorem distinct_iff (names : List String) : distinct names = true ↔ names.Nodup := by
  induction names with
  | nil => simp [distinct]
  | cons a rest ih => simp [distinct, ih]

/-- What is read goes on with what was found. -/
theorem bind_of_eq_some {α β : Type} {x : Option α} {a : α} (h : x = some a) (f : α → Option β) :
    (x >>= f) = f a := by
  rw [h]
  rfl

/-- A natural number below the bound is read back. -/
theorem natural?_ofNat {bound n : Nat} (h : n < bound) :
    natural? bound (Json.ofNat n) = some n := by
  let i : Int := n
  have hbound : (0 ≤ i && i < (bound : Int)) = true := by
    rw [Bool.and_eq_true, decide_eq_true_eq, decide_eq_true_eq]
    omega
  show (if (0 ≤ i && i < (bound : Int)) = true then some i.toNat else none) = some n
  rw [if_pos hbound, Int.toNat_natCast]

/-- The fields of a structure are the members that were written, in the order of the names. -/
theorem record?_obj {names : List String} {members : List (String × Json)}
    (hkeys : (keys members).Sublist names) (hnames : names.Nodup) :
    record? names (Json.obj members) = some members := by
  have hknown : (members.filter fun entry => names.contains entry.1) = members := by
    refine List.filter_eq_self.mpr fun entry hentry => ?_
    exact List.contains_iff_mem.mpr (hkeys.subset (List.mem_map_of_mem hentry))
  have hdistinct : distinct (members.map Prod.fst) = true :=
    (distinct_iff _).mpr (hnames.sublist hkeys)
  show (let known := members.filter fun entry => names.contains entry.1
    if distinct (known.map Prod.fst) then some known else none) = some members
  rw [hknown]
  exact if_pos hdistinct

section

variable {α β : Type} {fields : List (String × Json)} {name : String} {read : Json → Option α}

theorem required_of_get? {d : Json} {a : α} (h : Dict.get? fields name = some d)
    (hread : read d = some a) : required fields name read = some a := by
  rw [required, h]
  exact hread

/-- A field that is a number. -/
theorem required_natural {bound n : Nat} (h : Dict.get? fields name = some (.ofNat n))
    (hn : n < bound) : required fields name (natural? bound) = some n :=
  required_of_get? h (natural?_ofNat hn)

theorem withDefault_of_get? {default : α} {a : α} {d : Option Json}
    (h : Dict.get? fields name = d) (hsome : ∀ j, d = some j → read j = some a)
    (hnone : d = none → default = a) : withDefault fields name default read = some a := by
  rw [withDefault, h]
  cases d with
  | none => exact congrArg some (hnone rfl)
  | some j => exact hsome j rfl

/-- A field whose values are not written as null. -/
theorem optional_of_get? {write : β → Json} {f : β → α} {b : Option β}
    (h : Dict.get? fields name = b.map write) (hnull : ∀ b, isNull (write b) = false)
    (hread : ∀ x, b = some x → read (write x) = some (f x)) :
    optional fields name read = some (b.map f) := by
  refine withDefault_of_get? h (fun j hj => ?_) fun hb => ?_
  · obtain ⟨x, hx, rfl⟩ := Option.map_eq_some_iff.mp hj
    rw [nullable, hnull, hread x hx, hx]
    rfl
  · rw [Option.map_eq_none_iff.mp hb]
    rfl

/-- A field that is a text. -/
theorem optional_text {fields : List (String × Json)} {b : Option String}
    (h : Dict.get? fields name = b.map Json.str) :
    optional fields name text? = some b := by
  have hread : optional fields name text? = some (b.map id) :=
    optional_of_get? h (fun _ => rfl) fun _ _ => rfl
  rw [hread, Option.map_id]
  rfl

end

end Document

end BrowserLab
