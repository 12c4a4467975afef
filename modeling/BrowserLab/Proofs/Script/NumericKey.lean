import BrowserLab.Proofs.Number.Key
import BrowserLab.Proofs.Script.Grammar.Read
import BrowserLab.Proofs.Script.Spliced
import BrowserLab.Proofs.Script.Token.Numeral
import BrowserLab.Proofs.Script.ValueMethod

/-!
# Properties that are named by numbers

An object with one property, the key of which is a number, is asked for the property that another
number names.  The text is one expression whatever the numbers are (`compile_keySource`), and it
comes to what is stored if the texts of the numbers are the same (`comesTo_keyExpr`).

* `numeric_keys`: which integers find the property.
-/

namespace BrowserLab.Script

open Eval Number Scan

variable {s t : String} {x y : Float} {i j : Int} {m : Machine} {scope : Nat}

/-! ### The text -/

/-- An object with a numeric key, and a number in brackets behind it. -/
def keySource (s t : String) : String := "(\x7b" ++ s ++ ": 1\x7d)[" ++ t ++ "]"

/-- What is read from it. -/
def keyExpr (x y : Float) : Expr :=
  .index (.object [.named (keyText x) (.number 1.0)]) (.number y) false

/-- The kinds of its tokens. -/
def keyTokens (x y : Float) : List Token.Kind :=
  [.punct "(", .punct "\x7b", .number x, .punct ":", .number 1.0, .punct "\x7d", .punct ")",
    .punct "[", .number y, .punct "]"]

theorem toList_keySource (s t : String) : (keySource s t).toList =
    ['('] ++ (['\x7b'] ++ (s.toList ++ ([':'] ++ ([' ', '1'] ++ (['\x7d'] ++ ([')'] ++
      (['['] ++ (t.toList ++ [']'])))))))) := by
  simp [keySource, String.toList_append]

/-- The number one behind a blank. -/
theorem Cuts.blank_one {rest : List Char} (hrest : EndsNumber rest) :
    Cuts [' ', '1'] [.number 1.0] rest where
  short := by decide
  cut fuel done place hfuel := by
    have hone : Scan.number ⟨['1'], .start⟩ = .ok (.number 1.0, ⟨[], ⟨1, 2⟩⟩) := rfl
    obtain ⟨after, hone⟩ := number_append hrest hone (place.past ' ')
    refine ⟨[⟨.number 1.0, place.past ' ', false⟩], after, rfl, by simp, ?_⟩
    obtain _ | fuel := fuel
    · simp at hfuel
    · have htoken : tokenKind (fuel + 1 + 1) ⟨'1' :: rest, place.past ' '⟩ =
          .ok (.number 1.0, ⟨rest, after⟩) := hone
      have hplain : skipTrivia (fuel + 1) false ⟨'1' :: rest, place.past ' '⟩ =
          .ok (false, ⟨'1' :: rest, place.past ' '⟩) :=
        skipTrivia_of_not_blank (by decide) (by decide)
      refine tokens_step ?_ htoken rfl
      rw [List.cons_append, skipTrivia]
      exact hplain

theorem cuts_keySource (hs : Numeral s x) (ht : Numeral t y) :
    Cuts (keySource s t).toList (keyTokens x y) [] := by
  have hcolon (rest : List Char) : EndsNumber (':' :: rest) :=
    endsNumber_cons (by decide) (by decide)
  have hbrace (rest : List Char) : EndsNumber ('\x7d' :: rest) :=
    endsNumber_cons (by decide) (by decide)
  have hbracket (rest : List Char) : EndsNumber (']' :: rest) :=
    endsNumber_cons (by decide) (by decide)
  rw [toList_keySource]
  exact (Cuts.mark (by decide)).append ((Cuts.mark (by decide)).append
    ((Cuts.numeral hs (hcolon _)).append ((Cuts.mark (by decide)).append
      ((Cuts.blank_one (hbrace _)).append ((Cuts.mark (by decide)).append
        ((Cuts.mark (by decide)).append ((Cuts.mark (by decide)).append
          ((Cuts.numeral ht (hbracket _)).append (Cuts.mark (by decide))))))))))

theorem compile_keySource (hs : Numeral s x) (ht : Numeral t y) :
    compile (keySource s t) = .ok ⟨[.expr (keyExpr x y)]⟩ := by
  obtain ⟨line, eof, htokens, hkinds, hline, heof⟩ := (cuts_keySource hs ht).tokenize
  have hmarks : (line ++ [eof]).map Token.mark =
      (keyTokens x y).map (·, false) ++ [(.eof, eof.newlineBefore)] := by
    rw [List.map_append, ← hkinds, List.map_map, List.map_singleton, Token.mark, heof]
    congr 1
    exact List.map_congr_left fun t ht => congrArg (t.kind, ·) (hline t ht)
  have hnewline : '\n' ∉ (keySource s t).toList := by
    rw [toList_keySource]
    simp [hs.newline_not_mem, ht.newline_not_mem]
  have himport : import? (keySource s t).toList = none := by
    rw [toList_keySource]
    rfl
  rw [compile, stripImports_line hnewline himport, parse_of_marks htokens hmarks]
  · rfl
  · exact fun fuel places => ⟨_, rfl⟩

/-! ### The value -/

/-- Nothing but its members is found in an object under the text of a finite number. -/
theorem objectProperty_display {p : Parts} (hy : shape y = .finite p) (h : Heap) (ref : Nat) :
    objectProperty h ref (Number.display y) =
      ((h.object ref).get? (Number.display y)).getD .undefined := by
  have hmethod {name : String} {c : Char} (hc : c ∈ name.toList)
      (hnumeral : Number.isNumeral c = false) : (Number.display y == name) = false := by
    rw [beq_eq_false_iff_ne]
    rintro rfl
    rw [isNumeral_of_mem_display hy hc] at hnumeral
    cases hnumeral
  rw [objectProperty, hmethod (c := 'h') (by decide) (by decide),
    hmethod (c := 't') (by decide) (by decide)]
  cases (h.object ref).get? (Number.display y) <;> rfl

/-- The machine once an object has been made, as its newest one. -/
def Machine.withObject (m : Machine) (members : Dict Value) : Machine :=
  { m with heap := (m.heap.newObject members).2 }

theorem comesTo_keyExpr (hm : m.stepsLeft = none) {p : Parts} (hy : shape y = .finite p) :
    ComesTo (eval · (keyExpr x y) scope) m
      (.ok (if keyText x = Number.display y then .number 1.0 else .undefined))
      (m.withObject [(keyText x, .number 1.0)]) := by
  let m' := m.withObject [(keyText x, .number 1.0)]
  have hobject : ComesTo (eval · (.object [.named (keyText x) (.number 1.0)]) scope) m
      (.ok (.object m.heap.objects.size)) m' := by
    refine ⟨3, runOn_attempt_eq_ok_iff.mpr ?_⟩
    have hvalue : (eval 1 (.number 1.0) scope).runOn m = (.ok (.number 1.0), m) := by
      rw [eval, runOn_bind_ok (runOn_step hm)]
      rfl
    have hnil : (evalProperties 1 [] scope).runOn m = (.ok [], m) := by
      rw [evalProperties]
      · rfl
      · exact Nat.succ_ne_zero 0
    have hmembers : (evalProperties 2 [.named (keyText x) (.number 1.0)] scope).runOn m =
        (.ok [(keyText x, .number 1.0)], m) := by
      rw [evalProperties, runOn_bind_ok hvalue, runOn_bind_ok hnil]
      rfl
    show (eval (2 + 1) _ scope).runOn m = _
    rw [eval, runOn_bind_ok (runOn_step hm), runOn_bind_ok hmembers]
    rfl
  refine comesTo_eval_index hm hobject (comesTo_eval_constant (m := m') hm rfl) ?_
  have hmember : (m'.heap.object m.heap.objects.size).get? (Number.display y) =
      if keyText x = Number.display y then some (.number 1.0) else none := by
    have hnewest : m'.heap.object m.heap.objects.size = [(keyText x, .number 1.0)] := by
      simp [m', Machine.withObject, Heap.newObject, Heap.object]
    rw [hnewest]
    rfl
  show (Except.ok (objectProperty m'.heap _ (Number.display y)), m') = _
  rw [objectProperty_display hy, hmember]
  split <;> rfl

/-! ### Integers -/

/-- **Numbers as keys.**  An object has a property with an integer below `10 ^ 21` as its key, and
is asked for the property that such an integer names.  It has the property if the integers are the
same, are of 64 bits with the sign, and the digits that are stored for the number are its own, as
they are if it has no more than 54 bits. -/
theorem numeric_keys (hs : Numeral s x) (ht : Numeral t y) (hx : Worth x i) (hy : Worth y j)
    (hi : i.natAbs < 10 ^ 21) (hj : j.natAbs < 10 ^ 21) :
    (∃ e, compile ("(\x7b" ++ s ++ ": 1\x7d)[" ++ t ++ "]") = .ok ⟨[.expr e]⟩ ∧
      ∀ (m : Machine) (scope : Nat), m.stepsLeft = none → ∃ m',
        ComesTo (eval · e scope) m
          (.ok (if i = j ∧ j.natAbs < 2 ^ 63 ∧ keyText x = intText i then .number 1.0
            else .undefined)) m') ∧
      (i.natAbs < 2 ^ 54 → keyText x = intText i) := by
  obtain ⟨p, hp, -⟩ := id hy
  refine ⟨⟨keyExpr x y, compile_keySource hs ht, fun m scope hm => ?_⟩, keyText_of_lt hx⟩
  refine ⟨m.withObject [(keyText x, .number 1.0)], ?_⟩
  have hvalue : ComesTo (eval · (keyExpr x y) scope) m _ _ := comesTo_keyExpr hm hp
  simpa only [keyText_eq_display_iff hx hy hi hj] using hvalue

/-- The same integer in two ways to write it, in base 16 and with a fraction and an exponent. -/
theorem numeric_keys_other_base :
    let m := Machine.start (.unused .playwright)
    Numeral "0x10" 16.0 ∧ Numeral "1.6e1" 16.0 ∧ Worth 16.0 16 ∧ m.stepsLeft = none ∧
      ∃ e, compile "(\x7b0x10: 1\x7d)[1.6e1]" = .ok ⟨[.expr e]⟩ ∧
        ∃ m', ComesTo (eval · e globalScope) m (.ok (.number 1.0)) m' := by
  intro m
  have hs : Numeral "0x10" 16.0 := ⟨5, ⟨1, 5⟩, rfl⟩
  have ht : Numeral "1.6e1" 16.0 := ⟨6, ⟨1, 6⟩, rfl⟩
  have hx : Worth 16.0 16 := worth_ofNat (by decide : 16 < 2 ^ 53)
  obtain ⟨⟨e, hcompile, hvalue⟩, htext⟩ := numeric_keys hs ht hx hx (by decide) (by decide)
  have hone := hvalue m globalScope rfl
  rw [if_pos ⟨rfl, by decide, htext (by decide)⟩] at hone
  exact ⟨hs, ht, hx, rfl, e, hcompile, hone⟩

/-- An integer of more than 63 bits does not find itself. -/
theorem great_key_not_found :
    runText? 100 "console.log((\x7b1e19: 1\x7d)[1e19])" (.unused .playwright) =
      some (.completed, ["undefined"]) := by
  decide +kernel

end BrowserLab.Script
