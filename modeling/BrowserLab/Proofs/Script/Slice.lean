import BrowserLab.Proofs.Number.Sum
import BrowserLab.Proofs.Script.ValueMethod
import BrowserLab.Script.Position

/-!
# Cutting pieces out of texts and arrays

How the numbers that a script gives are understood as positions among items, as long as there are
fewer than `2 ^ 53`, and what is cut between them.  A number counts so many exactly, and no memory
holds as many.

* `itemPosition?_of_worth`: the position of an integer; a negative one counts from the end.
* `within_pieceBounds`, `within_unorderedBounds`: pieces lie within the items, whatever the numbers
  are.
* `runOn_slice`, `runOn_substring`, `runOn_slice_array`: between which ends a call cuts.
* `slice_cuts`: the ends of a piece are never out of range, and what is cut at a number and put
  together again is what it was.
-/

namespace BrowserLab.Script

open Number

variable {length : Nat} {x : Float} {i : Int}

/-! ### Single items -/

/-- The position that an integer stands for among items, counted from the end if it is negative. -/
def countedFrom (length : Nat) (i : Int) : Int := if i < 0 then length + i else i

/-- What the number comes to that is compared with the ends of the items. -/
theorem resolved_cases (hlength : length < 2 ^ 53) (hx : Worth x i) :
    (countedFrom length i < 0 ∧ (if x < 0.0 then Float.ofNat length + x else x) < 0.0) ∨
      (0 ≤ countedFrom length i ∧
        Worth (if x < 0.0 then Float.ofNat length + x else x) (countedFrom length i)) := by
  have hcount := worth_ofNat hlength
  rw [countedFrom]
  by_cases hneg : i < 0
  · rw [if_pos hneg, if_pos ((hx.lt_iff worth_zero).mpr hneg)]
    rcases lt_or_ge ((length : Int) + i) 0 with hsum | hsum
    · exact .inl ⟨hsum, hcount.add_lt_zero hx hsum⟩
    · exact .inr ⟨hsum, hcount.add hx (by omega)⟩
  · rw [if_neg hneg, if_neg (mt (hx.lt_iff worth_zero).mp hneg)]
    exact .inr ⟨by omega, hx⟩

theorem itemPosition?_of_worth (hlength : length < 2 ^ 53) (hx : Worth x i) :
    itemPosition? length x =
      if 0 ≤ countedFrom length i ∧ countedFrom length i < length
      then some (countedFrom length i).toNat else none := by
  have hcases := resolved_cases hlength hx
  rw [itemPosition?]
  simp only [hx.isNaN, hx.trunc, Bool.false_eq_true, if_false, Bool.and_eq_true, decide_eq_true_eq,
    ge_iff_le]
  generalize (if x < 0.0 then Float.ofNat length + x else x) = y at hcases ⊢
  rcases hcases with ⟨hneg, hy⟩ | ⟨hnonneg, hy⟩
  · rw [if_neg fun h => not_zero_le hy h.1, if_neg (by omega)]
  · have hiff := (worth_zero.le_iff hy).and (hy.lt_iff (worth_ofNat hlength))
    by_cases hitem : 0 ≤ countedFrom length i ∧ countedFrom length i < length
    · rw [if_pos (hiff.mpr hitem), if_pos hitem, hy.toNat64]
      congr 1
      omega
    · rw [if_neg (mt hiff.mp hitem), if_neg hitem]

/-! ### Pieces -/

/-- The end of a piece that an integer stands for. -/
theorem pieceEnd_ofNat {n : Nat} (hlength : length < 2 ^ 53) (hn : n ≤ length) :
    pieceEnd length (Float.ofNat n) = n := by
  have hx : Worth (Float.ofNat n) n := worth_ofNat (by omega)
  have hneg : ¬ Float.ofNat n < 0.0 := fun h => by
    have := (hx.lt_iff worth_zero).mp h
    omega
  rw [pieceEnd]
  simp only [hx.isNaN, hx.trunc, Bool.false_eq_true, if_false]
  rw [if_neg hneg, hx.toNat64]
  omega

/-- Nothing is added to the length where pieces are counted from the end. -/
theorem toNat64_add_le (hlength : length < 2 ^ 53) (hneg : trunc x < 0.0) :
    toNat64 (Float.ofNat length + trunc x) ≤ length := by
  have hcount := worth_ofNat hlength
  cases hx : shape x with
  | finite p =>
    have htrunc := worth_trunc hx
    have hp := (htrunc.lt_iff worth_zero).mp hneg
    rcases lt_or_ge ((length : Int) + p.truncate) 0 with hsum | hsum
    · rw [toNat64_of_lt_zero (hcount.add_lt_zero htrunc hsum)]
      exact Nat.zero_le _
    · rw [(hcount.add htrunc (by omega)).toNat64]
      omega
  | _ =>
    -- what is not finite has no integer part to go without
    have hself : trunc x = x := by rw [trunc, hx]
    rw [hself] at hneg ⊢
    rcases lt_zero_iff.mp hneg with hinfinite | ⟨p, hp, -⟩
    · rw [toNat64_of_lt_zero (hcount.add_infinite hinfinite)]
      exact Nat.zero_le _
    · rw [hx] at hp
      cases hp

theorem pieceEnd_le (hlength : length < 2 ^ 53) (x : Float) : pieceEnd length x ≤ length := by
  rw [pieceEnd]
  simp only [toNat64_greater_zero]
  cases x.isNaN with
  | true =>
    rw [if_pos rfl, if_neg fun h => lt_irrefl 0 ((worth_zero.lt_iff worth_zero).mp h)]
    exact min_le_right _ _
  | false =>
    rw [if_neg Bool.false_ne_true]
    by_cases hneg : trunc x < 0.0
    · rw [if_pos hneg]
      exact toNat64_add_le hlength hneg
    · rw [if_neg hneg]
      exact min_le_right _ _

-- Among more items a number does not find the last one: the sum is rounded.
example : pieceEnd (2 ^ 53 + 3) (-1.0) = 2 ^ 53 + 4 := by decide +kernel

/-- The ends of a piece are in order and not behind the last item. -/
def Within (length : Nat) (ends : Nat × Nat) : Prop := ends.1 ≤ ends.2 ∧ ends.2 ≤ length

theorem within_pieceBounds (hlength : length < 2 ^ 53) (start finish : Option Float) :
    Within length (pieceBounds length start finish) := by
  have hend (x : Option Float) {n : Nat} (hn : n ≤ length) :
      (x.map (pieceEnd length)).getD n ≤ length := by
    cases x with
    | none => exact hn
    | some x => exact pieceEnd_le hlength x
  exact ⟨le_max_right _ _, max_le (hend finish le_rfl) (hend start (Nat.zero_le _))⟩

/-- The piece before a position and the piece behind it. -/
theorem pieceBounds_before (hlength : length < 2 ^ 53) (x : Float) :
    pieceBounds length (some 0.0) (some x) = (0, pieceEnd length x) := by
  have hzero : (0.0 : Float) = Float.ofNat 0 := rfl
  simp only [pieceBounds, Option.map_some, Option.getD_some]
  rw [hzero, pieceEnd_ofNat hlength (Nat.zero_le length), Nat.max_zero]

theorem pieceBounds_behind (hlength : length < 2 ^ 53) (x : Float) :
    pieceBounds length (some x) none = (pieceEnd length x, length) := by
  simp only [pieceBounds, Option.map_some, Option.map_none, Option.getD_some, Option.getD_none]
  rw [max_eq_left (pieceEnd_le hlength x)]

theorem clampPosition_le (hlength : length < 2 ^ 53) (x : Float) :
    clampPosition length x ≤ length :=
  toNat64_lesser_le (worth_ofNat hlength) _

/-- The ends of a piece whose two ends may be given in any order. -/
def unorderedBounds (length : Nat) (start finish : Option Float) : Nat × Nat :=
  let a := (start.map (clampPosition length)).getD 0
  let b := (finish.map (clampPosition length)).getD length
  (min a b, max a b)

theorem within_unorderedBounds (hlength : length < 2 ^ 53) (start finish : Option Float) :
    Within length (unorderedBounds length start finish) := by
  have hend (x : Option Float) {n : Nat} (hn : n ≤ length) :
      (x.map (clampPosition length)).getD n ≤ length := by
    cases x with
    | none => exact hn
    | some x => exact clampPosition_le hlength x
  exact ⟨min_le_max, max_le (hend start (Nat.zero_le _)) (hend finish le_rfl)⟩

end BrowserLab.Script

namespace BrowserLab.Script

open Eval

variable {m m' : Machine} {scope : Nat} {s : String} {ref : Nat}

/-! ### Calls that cut -/

/-- The number of an argument, unless it is missing or undefined. -/
def numberArgument? (h : Heap) (args : List Value) (i : Nat) : Option Float :=
  match argument args i with
  | .undefined => none
  | v => some (h.number v)

theorem runOn_optionalNumber (args : List Value) (i : Nat) (m : Machine) :
    (optionalNumber args i).runOn m = (.ok (numberArgument? m.heap args i), m) := by
  rw [optionalNumber, numberArgument?]
  cases argument args i <;> rfl

/-- What is made of the numbers of the first two arguments. -/
theorem runOn_numberArguments {α : Type} (make : Option Float → Option Float → Eval α)
    (args : List Value) (m : Machine) :
    (optionalNumber args 0 >>= fun start => optionalNumber args 1 >>= make start).runOn m =
      (make (numberArgument? m.heap args 0) (numberArgument? m.heap args 1)).runOn m := by
  rw [runOn_bind_ok (runOn_optionalNumber args 0 m), runOn_bind_ok (runOn_optionalNumber args 1 m)]

/-- The piece of a text between two ends. -/
def pieceBetween (s : String) (ends : Nat × Nat) : Value := piece s.toList ends.1 ends.2

theorem runOn_slice (s : String) (args : List Value) (m : Machine) :
    (stringMethod s "slice" args).runOn m =
      (.ok (pieceBetween s (pieceBounds s.length (numberArgument? m.heap args 0)
        (numberArgument? m.heap args 1))), m) :=
  runOn_numberArguments
    (fun start finish => pure (pieceBetween s (pieceBounds s.length start finish))) args m

theorem runOn_substring (s : String) (args : List Value) (m : Machine) :
    (stringMethod s "substring" args).runOn m =
      (.ok (pieceBetween s (unorderedBounds s.length (numberArgument? m.heap args 0)
        (numberArgument? m.heap args 1))), m) :=
  runOn_numberArguments
    (fun start finish => pure (pieceBetween s (unorderedBounds s.length start finish))) args m

/-- The items of an array between two ends. -/
def itemsBetween (items : Array Value) (ends : Nat × Nat) : Array Value :=
  items.extract ends.1 ends.2

theorem runOn_slice_array (ref : Nat) (args : List Value) (m : Machine) :
    (arrayMethod ref "slice" args).runOn m =
      (.ok (.array m.heap.arrays.size), m.withArray (itemsBetween (m.heap.array ref)
        (pieceBounds (m.heap.array ref).size (numberArgument? m.heap args 0)
          (numberArgument? m.heap args 1)))) := by
  have hitems : (Eval.heap (·.array ref)).runOn m = (.ok (m.heap.array ref), m) := rfl
  refine (runOn_bind_ok hitems).trans ?_
  exact runOn_numberArguments
    (fun start finish => newArray (itemsBetween (m.heap.array ref)
      (pieceBounds (m.heap.array ref).size start finish))) args m

theorem runOn_concat (ref : Nat) (args : List Value) (m : Machine) :
    (arrayMethod ref "concat" args).runOn m =
      (.ok (.array m.heap.arrays.size),
        m.withArray (concatItems m.heap (m.heap.array ref) args)) :=
  rfl

theorem concatItems_array (h : Heap) (items : Array Value) (ref : Nat) :
    concatItems h items [.array ref] = items ++ h.array ref :=
  rfl

/-! ### The two halves -/

theorem pieceBetween_append {n : Nat} :
    String.ofList ((s.toList.take n).drop 0) ++ String.ofList ((s.toList.take s.length).drop n) =
      s := by
  rw [← String.toList_inj, String.toList_append, String.toList_ofList, String.toList_ofList,
    List.drop_zero, ← String.length_toList, List.take_length, List.take_append_drop]

theorem itemsBetween_append {items : Array Value} {n : Nat} (hn : n ≤ items.size) :
    itemsBetween items (0, n) ++ itemsBetween items (n, items.size) = items := by
  rw [itemsBetween, itemsBetween, Array.extract_append_extract]
  simp [hn]

/-- The piece of what a name stands for that lies before a number. -/
def Expr.before (x a : String) : Expr :=
  (Expr.ident x).methodCall "slice" [.item (.number 0.0), .item (.ident a)]

/-- The piece of what a name stands for that lies behind a number. -/
def Expr.behind (x a : String) : Expr := (Expr.ident x).methodCall "slice" [.item (.ident a)]

section Halves

variable {x a : String} {number : Float} (hm : m.stepsLeft = none)
  (ha : m.scopes.lookup scope a = some (.number number))

include hm ha

theorem comesTo_before_text (hlength : s.length < 2 ^ 53)
    (hx : m.scopes.lookup scope x = some (.string s)) :
    ComesTo (eval · (.before x a) scope) m
      (.ok (pieceBetween s (0, pieceEnd s.length number))) m := by
  have hzero : ComesTo (eval · (.number 0.0) scope) m (.ok (.number 0.0)) m :=
    comesTo_eval_constant hm rfl
  have hnumber := comesTo_evalElements_item (comesTo_eval_name hm ha)
  rw [Expr.before, ← pieceBounds_before hlength]
  exact comesTo_textCall hm hm (by decide) (comesTo_eval_name hm hx)
    (comesTo_evalElements_cons hzero hnumber) (runOn_slice s _ m)

theorem comesTo_behind_text (hlength : s.length < 2 ^ 53)
    (hx : m.scopes.lookup scope x = some (.string s)) :
    ComesTo (eval · (.behind x a) scope) m
      (.ok (pieceBetween s (pieceEnd s.length number, s.length))) m := by
  rw [Expr.behind, ← pieceBounds_behind hlength]
  exact comesTo_textCall hm hm (by decide) (comesTo_eval_name hm hx)
    (comesTo_evalElements_item (comesTo_eval_name hm ha)) (runOn_slice s _ m)

theorem comesTo_before_array (hlength : (m.heap.array ref).size < 2 ^ 53)
    (hx : m.scopes.lookup scope x = some (.array ref)) :
    ComesTo (eval · (.before x a) scope) m (.ok (.array m.heap.arrays.size))
      (m.withArray (itemsBetween (m.heap.array ref)
        (0, pieceEnd (m.heap.array ref).size number))) := by
  have hzero : ComesTo (eval · (.number 0.0) scope) m (.ok (.number 0.0)) m :=
    comesTo_eval_constant hm rfl
  have hnumber := comesTo_evalElements_item (comesTo_eval_name hm ha)
  rw [Expr.before, ← pieceBounds_before hlength]
  exact comesTo_arrayCall hm hm (by decide) rfl (by decide) (comesTo_eval_name hm hx)
    (comesTo_evalElements_cons hzero hnumber) (runOn_slice_array ref _ m)

theorem comesTo_behind_array (hlength : (m.heap.array ref).size < 2 ^ 53)
    (hx : m.scopes.lookup scope x = some (.array ref)) :
    ComesTo (eval · (.behind x a) scope) m (.ok (.array m.heap.arrays.size))
      (m.withArray (itemsBetween (m.heap.array ref)
        (pieceEnd (m.heap.array ref).size number, (m.heap.array ref).size))) := by
  rw [Expr.behind, ← pieceBounds_behind hlength]
  exact comesTo_arrayCall hm hm (by decide) rfl (by decide) (comesTo_eval_name hm hx)
    (comesTo_evalElements_item (comesTo_eval_name hm ha)) (runOn_slice_array ref _ m)

/-- The two halves of a text are the text. -/
theorem text_halves (hlength : s.length < 2 ^ 53)
    (hx : m.scopes.lookup scope x = some (.string s)) :
    ∃ front back, front.length + back.length = s.length ∧
      ComesTo (eval · (.before x a) scope) m (.ok (.string front)) m ∧
      ComesTo (eval · (.behind x a) scope) m (.ok (.string back)) m ∧
      ComesTo (eval · (.binary .add (.before x a) (.behind x a)) scope) m (.ok (.string s)) m := by
  have hbefore := comesTo_before_text hm ha hlength hx
  have hbehind := comesTo_behind_text hm ha hlength hx
  have hjoin := pieceBetween_append (s := s) (n := pieceEnd s.length number)
  refine ⟨_, _, ?_, hbefore, hbehind, comesTo_eval_binary hm hbefore hbehind ?_⟩
  · rw [← String.length_append, hjoin]
  · show (Except.ok (Value.string (_ ++ _)), m) = _
    exact congrArg (Except.ok <| Value.string ·, m) hjoin

/-- The two halves of an array, one behind the other, are the array. -/
theorem array_halves (hlength : (m.heap.array ref).size < 2 ^ 53) (href : ref < m.heap.arrays.size)
    (hx : m.scopes.lookup scope x = some (.array ref)) :
    ∃ front back, front.size + back.size = (m.heap.array ref).size ∧
      ComesTo (eval · (.before x a) scope) m (.ok (.array m.heap.arrays.size)) (m.withArray front) ∧
      ComesTo (eval · (.behind x a) scope) m (.ok (.array m.heap.arrays.size)) (m.withArray back) ∧
      ∃ joined m', m'.heap.array joined = m.heap.array ref ∧
        ComesTo (eval · ((Expr.before x a).methodCall "concat" [.item (.behind x a)]) scope) m
          (.ok (.array joined)) m' := by
  have hbefore := comesTo_before_array hm ha hlength hx
  have hbehind := comesTo_behind_array hm ha hlength hx
  have hjoin := itemsBetween_append (pieceEnd_le hlength number)
  generalize itemsBetween (m.heap.array ref) (0, pieceEnd (m.heap.array ref).size number) = front
    at hbefore hjoin
  refine ⟨front, _, ?_, hbefore, hbehind, ?_⟩
  · rw [← Array.size_append, hjoin]
  -- the piece behind is cut out when the one before is there
  have hsame := Machine.array_withArray_of_lt href front
  have hbehind' := comesTo_behind_array (m := m.withArray front) hm ha (hsame.symm ▸ hlength) hx
  rw [hsame] at hbehind'
  generalize itemsBetween (m.heap.array ref)
    (pieceEnd (m.heap.array ref).size number, (m.heap.array ref).size) = back at hbehind' hjoin
  have hboth : ((m.withArray front).withArray back).stepsLeft = none := hm
  refine ⟨_, _, ?_, comesTo_arrayCall hm hboth (by decide) rfl (by decide) hbefore
    (comesTo_evalElements_item hbehind') (runOn_concat _ _ _)⟩
  rw [Machine.array_withArray, concatItems_array, Machine.array_withArray,
    Machine.array_withArray_of_lt (m.arrays_size_lt front), Machine.array_withArray, hjoin]

end Halves

/-- The ends between which a call cuts are never out of range, whatever its arguments are; and what
is cut at a number, be it before the beginning, behind the end or no number at all, is what it was
when its halves are put together again.  No memory holds `2 ^ 53` items, up to which numbers count
them. -/
theorem slice_cuts {x a : String} {number : Float} (hm : m.stepsLeft = none)
    (ha : m.scopes.lookup scope a = some (.number number)) :
    (∀ length < 2 ^ 53, ∀ start finish, Within length (pieceBounds length start finish) ∧
      Within length (unorderedBounds length start finish)) ∧
    (∀ (s : String) (args : List Value),
      let start := numberArgument? m.heap args 0
      let finish := numberArgument? m.heap args 1
      (stringMethod s "slice" args).runOn m =
          (.ok (pieceBetween s (pieceBounds s.length start finish)), m) ∧
        (stringMethod s "substring" args).runOn m =
          (.ok (pieceBetween s (unorderedBounds s.length start finish)), m)) ∧
    (∀ (ref : Nat) (args : List Value),
      let items := m.heap.array ref
      let start := numberArgument? m.heap args 0
      let finish := numberArgument? m.heap args 1
      (arrayMethod ref "slice" args).runOn m = (.ok (.array m.heap.arrays.size),
        m.withArray (itemsBetween items (pieceBounds items.size start finish)))) ∧
    (∀ s : String, s.length < 2 ^ 53 → m.scopes.lookup scope x = some (.string s) →
      ∃ front back, front.length + back.length = s.length ∧
        ComesTo (eval · (.before x a) scope) m (.ok (.string front)) m ∧
        ComesTo (eval · (.behind x a) scope) m (.ok (.string back)) m ∧
        ComesTo (eval · (.binary .add (.before x a) (.behind x a)) scope) m
          (.ok (.string s)) m) ∧
    (∀ ref < m.heap.arrays.size, (m.heap.array ref).size < 2 ^ 53 →
      m.scopes.lookup scope x = some (.array ref) →
      ∃ front back, front.size + back.size = (m.heap.array ref).size ∧
        ComesTo (eval · (.before x a) scope) m (.ok (.array m.heap.arrays.size))
          (m.withArray front) ∧
        ComesTo (eval · (.behind x a) scope) m (.ok (.array m.heap.arrays.size))
          (m.withArray back) ∧
        ∃ joined m', m'.heap.array joined = m.heap.array ref ∧
          ComesTo (eval · ((Expr.before x a).methodCall "concat" [.item (.behind x a)]) scope) m
            (.ok (.array joined)) m') :=
  ⟨fun _ hlength start finish =>
      ⟨within_pieceBounds hlength start finish, within_unorderedBounds hlength start finish⟩,
    fun s args => ⟨runOn_slice s args m, runOn_substring s args m⟩,
    fun ref args => runOn_slice_array ref args m,
    fun _ hlength hx => text_halves hm ha hlength hx,
    fun _ href hlength hx => array_halves hm ha hlength href hx⟩

/-- A text is cut at what is not a number. -/
theorem slice_cuts_nan :
    let m := ((Machine.start (.unused .playwright)).declared globalScope "x"
      (.string "naïve") true).declared globalScope "a" (.number Number.nan) true
    m.stepsLeft = none ∧ m.scopes.lookup globalScope "a" = some (.number Number.nan) ∧
      m.scopes.lookup globalScope "x" = some (.string "naïve") ∧ "naïve".length < 2 ^ 53 ∧
      ComesTo (eval · (.binary .add (.before "x" "a") (.behind "x" "a")) globalScope) m
        (.ok (.string "naïve")) m := by
  intro m
  have hm : m.stepsLeft = none := rfl
  have ha : m.scopes.lookup globalScope "a" = some (.number Number.nan) := rfl
  have hx : m.scopes.lookup globalScope "x" = some (.string "naïve") := rfl
  have hlength : "naïve".length < 2 ^ 53 := by decide
  obtain ⟨-, -, -, htext, -⟩ := slice_cuts (x := "x") hm ha
  obtain ⟨-, -, -, -, -, hjoined⟩ := htext "naïve" hlength hx
  exact ⟨hm, ha, hx, hlength, hjoined⟩

end BrowserLab.Script
