import BrowserLab.Proofs.Number.Index
import BrowserLab.Proofs.Script.Slice

/-!
# Code points of a text

All ways to a code point of a text count code points, and they agree on where it is.

* `runOn_charAt`, `stringProperty_display`, `runOn_at`: the three ways to the code point at a
  position.
* `indexOf_cases`, `comesTo_startsAt`: where a text occurs in another one.
* `positions_agree`: all of them together, as a script calls them.
* `charAt_before_beginning`: `charAt` takes what is before the beginning for the beginning.
-/

namespace BrowserLab.Script

open Eval

variable {m : Machine} {scope : Nat} {x : Float} {i : Int} {text part : String}

/-- The code point at a position. -/
def codePoint? (text : String) (i : Int) : Option Char :=
  if 0 ≤ i then text.toList[i.toNat]? else none

theorem codePoint?_of_nonneg (h : 0 ≤ i) : codePoint? text i = text.toList[i.toNat]? := if_pos h

/-- There are code points before the end only. -/
theorem codePoint?_of_length_le (h : text.length ≤ i) : codePoint? text i = none := by
  rw [codePoint?_of_nonneg (by omega)]
  exact List.getElem?_eq_none (by rw [String.length_toList]; omega)

/-! ### Single code points -/

/-- No name of a property is made of what numbers are made of. -/
theorem stringMethods_not_numeral : ("length" :: stringMethods).all (fun name =>
    name.toList.any fun c => !Number.isNumeral c) = true := by
  decide

section Single

variable (hlength : text.length < 2 ^ 53) (hx : Number.Worth x i) (m : Machine)

include hlength hx

theorem getElem?_toNat64 : text.toList[Number.toNat64 x]? = codePoint? text (max i 0) := by
  rw [hx.toNat64, codePoint?_of_nonneg (le_max_right i 0)]
  rcases lt_or_ge i text.length with hi | hi
  · congr 1
    omega
  · rw [List.getElem?_eq_none, List.getElem?_eq_none] <;> rw [String.length_toList] <;> omega

theorem runOn_charAt : (stringMethod text "charAt" [.number x]).runOn m =
    (.ok (.string (((codePoint? text (max i 0)).map Char.toString).getD "")), m) := by
  have hnumber : (Eval.number (.number x)).runOn m = (.ok x, m) := rfl
  refine (runOn_bind_ok hnumber).trans ?_
  simp only [Number.toNat64_greater_zero, getElem?_toNat64 hlength hx]
  cases codePoint? text (max i 0) <;> rfl

theorem runOn_at : (stringMethod text "at" [.number x]).runOn m =
    (.ok (((codePoint? text (countedFrom text.length i)).map charValue).getD .undefined), m) := by
  have hnumber : (Eval.number (.number x)).runOn m = (.ok x, m) := rfl
  refine (runOn_bind_ok hnumber).trans ?_
  rw [String.length_toList, itemPosition?_of_worth hlength hx]
  generalize countedFrom text.length i = j
  by_cases hitem : 0 ≤ j ∧ j < text.length
  · rw [if_pos hitem, codePoint?_of_nonneg hitem.1]
    rfl
  · have hnone : codePoint? text j = none := by
      rcases lt_or_ge j 0 with hneg | hneg
      · exact if_neg (by omega)
      · exact codePoint?_of_length_le (by omega)
    rw [if_neg hitem, hnone]
    rfl

theorem readIndex?_bind :
    (Number.readIndex? (Number.display x)).bind (text.toList[·]?) = codePoint? text i := by
  rcases lt_or_ge i 0 with hneg | hnonneg
  · rw [Number.readIndex?_display_of_neg hx hneg, codePoint?, if_neg (by omega)]
    rfl
  · rcases lt_or_ge i (2 ^ 53) with hlt | hge
    · rw [Number.readIndex?_display hx hnonneg hlt, codePoint?_of_nonneg hnonneg]
      rfl
    · rw [codePoint?_of_length_le (by omega)]
      cases hindex : Number.readIndex? (Number.display x) with
      | none => rfl
      | some k =>
        have hk := Number.le_of_readIndex?_display hx hge hindex
        exact List.getElem?_eq_none (by rw [String.length_toList]; omega)

theorem stringProperty_display : stringProperty text (Number.display x) =
    ((codePoint? text i).map charValue).getD .undefined := by
  obtain ⟨p, hp, -⟩ := id hx
  have hname : Number.display x ∉ "length" :: stringMethods := by
    intro hmem
    have hletter := List.all_eq_true.mp stringMethods_not_numeral _ hmem
    obtain ⟨c, hc, hnumeral⟩ := List.any_eq_true.mp hletter
    rw [Number.isNumeral_of_mem_display hp hc] at hnumeral
    cases hnumeral
  rw [List.mem_cons, not_or] at hname
  have hmethod : stringMethods.contains (Number.display x) = false :=
    Bool.eq_false_iff.mpr fun h => hname.2 (List.contains_iff_mem.mp h)
  rw [stringProperty, beq_eq_false_iff_ne.mpr hname.1, hmethod, ← readIndex?_bind hlength hx]
  cases Number.readIndex? (Number.display x) <;> rfl

end Single

/-! ### Occurrences -/

/-- Where a piece occurs first, or that it does not occur. -/
theorem indexOf_cases (piece : List Char) {text : List Char} (hlength : text.length < 2 ^ 53) :
    (Text.occurs piece text = false ∧ indexOf piece text = -1.0 ∧
        ∀ l, ¬ piece <+: text.drop l) ∨
      ∃ k ≤ text.length, Text.occurs piece text = true ∧ indexOf piece text = Float.ofNat k ∧
        indexOf piece text ≠ -1.0 ∧ piece <+: text.drop k ∧ ∀ l < k, ¬ piece <+: text.drop l := by
  rw [Text.occurs, indexOf]
  cases hcut : Text.cut? piece text with
  | none => exact .inl ⟨rfl, rfl, Text.cut?_eq_none hcut⟩
  | some halves =>
    obtain ⟨before, after⟩ := halves
    obtain ⟨htext, hfirst⟩ := Text.cut?_eq_some hcut
    have hk : before.length ≤ text.length := by
      rw [htext, List.length_append]
      exact Nat.le_add_right _ _
    refine .inr ⟨before.length, hk, rfl, rfl, fun heq => ?_, ?_, hfirst⟩
    · have hworth : Number.Worth (Float.ofNat before.length) before.length :=
        Number.worth_ofNat (by omega)
      have hneg := (heq ▸ hworth : Number.Worth (-1.0) before.length).unique Number.worth_neg_one
      omega
    · rw [htext, List.drop_left]
      exact List.prefix_append _ _

theorem runOn_startsWith (text part : String) (m : Machine) :
    (stringMethod text "startsWith" [.string part]).runOn m =
      (.ok (.bool (part.toList.isPrefixOf text.toList)), m) :=
  rfl

/-- What is left of a text behind a position starts with another text. -/
def Expr.startsAt (s : Expr) (k : Nat) (t : Expr) : Expr :=
  (s.methodCall "slice" [.item (.number (Float.ofNat k))]).methodCall "startsWith" [.item t]

section Calls

variable {s t e : Expr} {k : Nat} (hm : m.stepsLeft = none) (hlength : text.length < 2 ^ 53)
  (hs : ComesTo (eval · s scope) m (.ok (.string text)) m)

include hm hs

/-- A method of the text is called with one argument. -/
theorem comesTo_callWith {name : String} {v w : Value} (hname : name ∈ stringMethods)
    (he : ComesTo (eval · e scope) m (.ok v) m)
    (hmethod : (stringMethod text name [v]).runOn m = (.ok w, m)) :
    ComesTo (eval · (s.methodCall name [.item e]) scope) m (.ok w) m :=
  comesTo_textCall hm hm hname hs (comesTo_evalElements_item he) hmethod

include hlength in
theorem comesTo_startsAt (ht : ComesTo (eval · t scope) m (.ok (.string part)) m)
    (hk : k ≤ text.length) :
    ComesTo (eval · (s.startsAt k t) scope) m
      (.ok (.bool (part.toList.isPrefixOf (text.toList.drop k)))) m := by
  have hbounds : pieceBounds text.length (some (Float.ofNat k)) none = (k, text.length) := by
    rw [pieceBounds_behind hlength, pieceEnd_ofNat hlength hk]
  have hpiece : pieceBetween text (k, text.length) =
      .string (String.ofList (text.toList.drop k)) := by
    rw [pieceBetween, piece, ← String.length_toList, List.take_length]
  have hslice : (stringMethod text "slice" [.number (Float.ofNat k)]).runOn m =
      (.ok (.string (String.ofList (text.toList.drop k))), m) := by
    rw [runOn_slice, ← hpiece, ← hbounds]
    rfl
  have hstarts := runOn_startsWith (String.ofList (text.toList.drop k)) part m
  rw [String.toList_ofList] at hstarts
  rw [Expr.startsAt]
  have hnumber : ComesTo (eval · (.number (Float.ofNat k)) scope) m
      (.ok (.number (Float.ofNat k))) m := comesTo_eval_constant hm rfl
  have hrest := comesTo_callWith hm hs (by decide) hnumber hslice
  exact comesTo_callWith hm hrest (by decide) ht hstarts

include hlength in
theorem comesTo_startsAt_false (ht : ComesTo (eval · t scope) m (.ok (.string part)) m)
    (hk : k ≤ text.length) (hnot : ¬ part.toList <+: text.toList.drop k) :
    ComesTo (eval · (s.startsAt k t) scope) m (.ok (.bool false)) m := by
  have hstarts := comesTo_startsAt hm hlength hs ht hk
  rwa [Bool.eq_false_iff.mpr (mt List.isPrefixOf_iff_prefix.mp hnot)] at hstarts

end Calls

/-- Every way to a code point of a text counts code points: its length, the code point at a position
and the occurrences of another text agree.  `charAt` takes a position before the beginning for the
beginning. -/
theorem positions_agree {s e t : Expr} (hm : m.stepsLeft = none) (hlength : text.length < 2 ^ 53)
    (hs : ComesTo (eval · s scope) m (.ok (.string text)) m)
    (he : ComesTo (eval · e scope) m (.ok (.number x)) m) (hx : Number.Worth x i)
    (ht : ComesTo (eval · t scope) m (.ok (.string part)) m) :
    ComesTo (eval · (.member s "length" false) scope) m
        (.ok (.number (Float.ofNat text.length))) m ∧
      ComesTo (eval · (s.methodCall "charAt" [.item e]) scope) m
        (.ok (.string (((codePoint? text (max i 0)).map Char.toString).getD ""))) m ∧
      ComesTo (eval · (.index s e false) scope) m
        (.ok (((codePoint? text i).map charValue).getD .undefined)) m ∧
      ComesTo (eval · (s.methodCall "at" [.item e]) scope) m
        (.ok (((codePoint? text (countedFrom text.length i)).map charValue).getD .undefined)) m ∧
      ∃ found position,
        ComesTo (eval · (s.methodCall "includes" [.item t]) scope) m (.ok (.bool found)) m ∧
        ComesTo (eval · (s.methodCall "indexOf" [.item t]) scope) m (.ok (.number position)) m ∧
        (position = -1.0 ↔ found = false) ∧
        (found = false → ∀ k ≤ text.length,
          ComesTo (eval · (s.startsAt k t) scope) m (.ok (.bool false)) m) ∧
        (found = true → ∃ k ≤ text.length, position = Float.ofNat k ∧
          ComesTo (eval · (s.startsAt k t) scope) m (.ok (.bool true)) m ∧
          ∀ l < k, ComesTo (eval · (s.startsAt l t) scope) m (.ok (.bool false)) m) := by
  have hcases := indexOf_cases part.toList (String.length_toList ▸ hlength)
  refine ⟨comesTo_eval_member hm hs rfl,
    comesTo_callWith hm hs (by decide) he (runOn_charAt hlength hx m),
    comesTo_eval_index hm hs he ?_,
    comesTo_callWith hm hs (by decide) he (runOn_at hlength hx m),
    Text.occurs part.toList text.toList, indexOf part.toList text.toList,
    comesTo_callWith hm hs (by decide) ht rfl,
    comesTo_callWith hm hs (by decide) ht rfl, ?_⟩
  · exact congrArg (Except.ok ·, m) (stringProperty_display hlength hx)
  · rcases hcases with ⟨hnone, hindex, hnowhere⟩ | ⟨k, hk, hsome, hindex, hne, hhere, hfirst⟩
    · refine ⟨iff_of_true hindex hnone, fun _ k hk => ?_, fun hsome => ?_⟩
      · exact comesTo_startsAt_false hm hlength hs ht hk (hnowhere k)
      · exact absurd (hnone.symm.trans hsome) Bool.false_ne_true
    · rw [String.length_toList] at hk
      refine ⟨iff_of_false hne (ne_false_of_eq_true hsome), fun hnone => ?_, fun _ => ?_⟩
      · exact absurd (hnone.symm.trans hsome) Bool.false_ne_true
      · have hstarts := comesTo_startsAt hm hlength hs ht hk
        rw [List.isPrefixOf_iff_prefix.mpr hhere] at hstarts
        exact ⟨k, hk, hindex, hstarts, fun l hl =>
          comesTo_startsAt_false hm hlength hs ht (hl.le.trans hk) (hfirst l hl)⟩

/-- A position counted from the end, in a text that is not all of one byte to the code point. -/
theorem positions_agree_from_end :
    let m := (((Machine.start (.unused .playwright)).declared globalScope "s"
      (.string "naïve") true).declared globalScope "i" (.number (-Float.ofNat 3)) true).declared
        globalScope "t" (.string "ve") true
    m.stepsLeft = none ∧ "naïve".length < 2 ^ 53 ∧
      ComesTo (eval · (.ident "s") globalScope) m (.ok (.string "naïve")) m ∧
      ComesTo (eval · (.ident "i") globalScope) m (.ok (.number (-Float.ofNat 3))) m ∧
      Number.Worth (-Float.ofNat 3) (-3) ∧
      ComesTo (eval · (.ident "t") globalScope) m (.ok (.string "ve")) m ∧
      ComesTo (eval · ((Expr.ident "s").methodCall "at" [.item (.ident "i")]) globalScope) m
        (.ok (.string "ï")) m := by
  intro m
  have hm : m.stepsLeft = none := rfl
  have hlength : "naïve".length < 2 ^ 53 := by decide
  have hs : ComesTo (eval · (.ident "s") globalScope) m (.ok (.string "naïve")) m :=
    comesTo_eval_name hm rfl
  have hi : ComesTo (eval · (.ident "i") globalScope) m (.ok (.number (-Float.ofNat 3))) m :=
    comesTo_eval_name hm rfl
  have hx : Number.Worth (-Float.ofNat 3) (-3) := Number.worth_neg_ofNat (by decide)
  have ht : ComesTo (eval · (.ident "t") globalScope) m (.ok (.string "ve")) m :=
    comesTo_eval_name hm rfl
  obtain ⟨-, -, -, hat, -⟩ := positions_agree hm hlength hs hi hx ht
  exact ⟨hm, hlength, hs, hi, hx, ht, hat⟩

/-- Before the beginning there is not the empty text, but the first code point. -/
theorem charAt_before_beginning :
    runText? 100 "console.log('[' + 'abc'.charAt(-1) + ']')" (.unused .playwright) =
      some (.completed, ["[a]"]) := by
  decide +kernel

end BrowserLab.Script
