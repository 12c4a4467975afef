import BrowserLab.Proofs.Script.Grammar.Spell

/-!
# What the rules take off a stream

One lemma for each way in which a rule of expressions succeeds.
-/

namespace BrowserLab.Script.Parse

variable {fuel : Nat} {place : Place} {ts mid rest : List Token} {e : Expr}

-- All proofs below take a rule apart by its equations, which are made here once and for all.
attribute [local simp] primary element keyInBrackets namedProperty property arguments chain
  constructor construct callMember unary binary binaryRest conditional assignment bindingPattern
  param params arrow functionRest

/-! ### Primary expressions -/

theorem primary_number (x : Float) (h : ts ≠ []) :
    primary (fuel + 1) (⟨.number x, place, false⟩ :: ts) = .ok (.number x, ts) := by
  rw [primary, run_bind (run_get _)]
  simp only [kindAt_cons_zero]
  rw [run_bind (run_advance h), run_pure]

theorem primary_string (s : String) (h : ts ≠ []) :
    primary (fuel + 1) (⟨.string s, place, false⟩ :: ts) = .ok (.string s, ts) := by
  rw [primary, run_bind (run_get _)]
  simp only [kindAt_cons_zero]
  rw [run_bind (run_advance h), run_pure]

theorem primary_bool (b : Bool) (h : ts ≠ []) :
    primary (fuel + 1) (⟨.word (if b then "true" else "false"), place, false⟩ :: ts) =
      .ok (.bool b, ts) := by
  rw [primary, run_bind (run_get _)]
  cases b <;>
  · simp only [kindAt_cons_zero, if_true, Bool.false_eq_true, if_false]
    rw [run_bind (run_advance h), run_pure]

theorem primary_null (h : ts ≠ []) :
    primary (fuel + 1) (⟨.word "null", place, false⟩ :: ts) = .ok (.null, ts) := by
  rw [primary, run_bind (run_get _)]
  simp only [kindAt_cons_zero]
  rw [run_bind (run_advance h), run_pure]

theorem primary_undefined (h : ts ≠ []) :
    primary (fuel + 1) (⟨.word "undefined", place, false⟩ :: ts) = .ok (.undefined, ts) := by
  rw [primary, run_bind (run_get _)]
  simp only [kindAt_cons_zero]
  rw [run_bind (run_advance h), run_pure]

theorem primary_ident {name : String} (hname : IsName name) (h : ts ≠ [])
    (hts : (kindAt ts 0).isWord "function" = false) :
    primary (fuel + 1) (⟨.word name, place, false⟩ :: ts) = .ok (.ident name, ts) := by
  have hplain := hname.plain
  simp only [List.mem_cons, List.not_mem_nil, or_false, not_or] at hplain
  obtain ⟨htrue, hfalse, hnull, hundefined, -⟩ := hplain
  have hasync : asyncFunctionBegins (⟨.word name, place, false⟩ :: ts) = false := by
    simp [asyncFunctionBegins, hts]
  have hfunction : name ≠ "function" := hname.ne (by decide)
  have hclass : name ≠ "class" := hname.ne (by decide)
  rw [primary, run_bind (run_get _)]
  simp only [kindAt_cons_zero, hasync, Bool.false_eq_true, if_false]
  rw [run_bind (run_identifier hname.free h), run_pure]

theorem primary_parenthesis {place' : Place}
    (h : assignment fuel ts = .ok (e, ⟨.punct ")", place', false⟩ :: rest)) (hts : ts ≠ [])
    (hrest : rest ≠ []) :
    primary (fuel + 1) (⟨.punct "(", place, false⟩ :: ts) = .ok (e, rest) := by
  rw [primary, run_bind (run_get _)]
  simp only [kindAt_cons_zero]
  rw [run_bind (run_advance hts), run_bind h, run_bind (run_expectPunct hrest), run_pure]

theorem primary_array {es : List Element} (hts : ts ≠ [])
    (h : itemsWithHoles "]" (.item .undefined) (element fuel) fuel [] ts = .ok (es, rest)) :
    primary (fuel + 1) (⟨.punct "[", place, false⟩ :: ts) = .ok (.array es, rest) := by
  rw [primary, run_bind (run_get _)]
  simp only [kindAt_cons_zero]
  rw [run_bind (run_advance hts), run_bind h, run_pure]

theorem primary_object {ps : List Property} (hts : ts ≠ [])
    (h : items "\x7d" (property fuel) fuel [] ts = .ok (ps, rest)) :
    primary (fuel + 1) (⟨.punct "\x7b", place, false⟩ :: ts) = .ok (.object ps, rest) := by
  rw [primary, run_bind (run_get _)]
  simp only [kindAt_cons_zero]
  rw [run_bind (run_advance hts), run_bind h, run_pure]

/-! ### Items -/

theorem element_item (h : assignment fuel ts = .ok (e, rest))
    (hts : (kindAt ts 0).isPunct "..." = false) :
    element (fuel + 1) ts = .ok (.item e, rest) := by
  rw [element, run_bind (run_eatPunct_not hts)]
  exact run_map h

theorem element_spread (h : assignment fuel ts = .ok (e, rest)) (hts : ts ≠ []) :
    element (fuel + 1) (⟨.punct "...", place, false⟩ :: ts) = .ok (.spread e, rest) := by
  rw [element, run_bind (run_eatPunct hts)]
  exact run_map h

theorem keyInBrackets_eq {place' : Place} {t : Token}
    (h : assignment fuel ts = .ok (e, ⟨.punct "]", place', false⟩ :: rest)) (hts : ts ≠ [])
    (hrest : rest ≠ []) : keyInBrackets (fuel + 1) (t :: ts) = .ok (e, rest) := by
  rw [keyInBrackets, run_bind (run_advance hts), run_bind h, run_bind (run_expectPunct hrest),
    run_pure]

theorem property_named {bare : String → Bool} {key : String} {place' : Place}
    (h : assignment fuel ts = .ok (e, rest)) (hts : ts ≠ []) :
    property (fuel + 2) (⟨keyToken bare key, place, false⟩ :: ⟨.punct ":", place', false⟩ :: ts) =
      .ok (.named key e, rest) := by
  have hnamed (alone : Bool) : namedProperty (fuel + 1) false key alone
      (⟨.punct ":", place', false⟩ :: ts) = .ok (.named key e, rest) := by
    rw [namedProperty, run_bind (run_eatPunct hts)]
    exact run_map h
  have hspread : (kindAt (⟨keyToken bare key, place, false⟩ :: ⟨.punct ":", place', false⟩ :: ts)
      0).isPunct "..." = false := by
    rw [kindAt_cons_zero, keyToken]
    cases bare key <;> rfl
  have hmarks :
      marksMethod (⟨keyToken bare key, place, false⟩ :: ⟨.punct ":", place', false⟩ :: ts) =
        false := by
    simp [marksMethod, Token.Kind.isPunct]
  rw [property, run_bind (run_eatPunct_not hspread)]
  simp only [Bool.false_eq_true, if_false]
  rw [run_bind (run_get _), hmarks]
  simp only [Bool.false_eq_true, if_false]
  rw [run_bind (run_kind _), kindAt_cons_zero]
  unfold keyToken
  cases bare key with
  | false =>
    simp only [Bool.false_eq_true, if_false]
    rw [run_bind (run_advance (List.cons_ne_nil _ _))]
    exact hnamed _
  | true =>
    simp only [if_true]
    rw [run_bind (run_advance (List.cons_ne_nil _ _))]
    exact hnamed _

theorem property_computed {key : Expr} {place' place'' : Place}
    (hkey : assignment fuel ts =
      .ok (key, ⟨.punct "]", place', false⟩ :: ⟨.punct ":", place'', false⟩ :: mid))
    (h : assignment (fuel + 1) mid = .ok (e, rest)) (hts : ts ≠ []) (hmid : mid ≠ []) :
    property (fuel + 2) (⟨.punct "[", place, false⟩ :: ts) = .ok (.computed key e, rest) := by
  have hspread : (kindAt (⟨.punct "[", place, false⟩ :: ts) 0).isPunct "..." = false := rfl
  have hmarks : marksMethod (⟨.punct "[", place, false⟩ :: ts) = false := rfl
  have hbrackets := keyInBrackets_eq (t := ⟨.punct "[", place, false⟩) hkey hts
    (List.cons_ne_nil _ _)
  rw [property, run_bind (run_eatPunct_not hspread)]
  simp only [Bool.false_eq_true, if_false]
  rw [run_bind (run_get _), hmarks]
  simp only [Bool.false_eq_true, if_false]
  rw [run_bind (run_kind _)]
  simp only [kindAt_cons_zero]
  rw [run_bind hbrackets, run_bind (run_eatPunct hmid)]
  exact run_map h

theorem property_spread (h : assignment fuel ts = .ok (e, rest)) (hts : ts ≠ []) :
    property (fuel + 1) (⟨.punct "...", place, false⟩ :: ts) = .ok (.spread e, rest) := by
  rw [property, run_bind (run_eatPunct hts)]
  exact run_map h

/-! ### Chains -/

theorem arguments_eq {es : List Element} (h : items ")" (element fuel) fuel [] ts = .ok (es, rest))
    (hts : ts ≠ []) : arguments (fuel + 1) (⟨.punct "(", place, false⟩ :: ts) = .ok (es, rest) := by
  rw [arguments, run_bind (run_expectPunct hts), h]

theorem chain_member {name : String} {place' : Place} (h : ts ≠ []) :
    chain (fuel + 1) e (⟨.punct ".", place, false⟩ :: ⟨.word name, place', false⟩ :: ts) =
      chain fuel (.member e name false) ts := by
  rw [chain, run_bind (run_kind _)]
  simp only [kindAt_cons_zero]
  rw [run_bind (run_advance (List.cons_ne_nil _ _)), run_bind (run_propertyName h)]

theorem chain_optional_member {name : String} {place' : Place} (h : ts ≠ []) :
    chain (fuel + 1) e (⟨.punct "?.", place, false⟩ :: ⟨.word name, place', false⟩ :: ts) =
      chain fuel (.member e name true) ts := by
  rw [chain, run_bind (run_kind _)]
  simp only [kindAt_cons_zero]
  rw [run_bind (run_advance (List.cons_ne_nil _ _)), run_bind (run_kind _)]
  simp only [kindAt_cons_zero]
  rw [run_bind (run_propertyName h)]

theorem chain_index {key : Expr}
    (h : keyInBrackets fuel (⟨.punct "[", place, false⟩ :: ts) = .ok (key, rest)) :
    chain (fuel + 1) e (⟨.punct "[", place, false⟩ :: ts) =
      chain fuel (.index e key false) rest := by
  rw [chain, run_bind (run_kind _)]
  simp only [kindAt_cons_zero]
  rw [run_bind h]

theorem chain_optional_index {key : Expr} {place' : Place}
    (h : keyInBrackets fuel (⟨.punct "[", place', false⟩ :: ts) = .ok (key, rest)) :
    chain (fuel + 1) e (⟨.punct "?.", place, false⟩ :: ⟨.punct "[", place', false⟩ :: ts) =
      chain fuel (.index e key true) rest := by
  rw [chain, run_bind (run_kind _)]
  simp only [kindAt_cons_zero]
  rw [run_bind (run_advance (List.cons_ne_nil _ _)), run_bind (run_kind _)]
  simp only [kindAt_cons_zero]
  rw [run_bind h]

theorem chain_call {args : List Element}
    (h : arguments fuel (⟨.punct "(", place, false⟩ :: ts) = .ok (args, rest)) :
    chain (fuel + 1) e (⟨.punct "(", place, false⟩ :: ts) =
      chain fuel (.call e args false) rest := by
  rw [chain, run_bind (run_kind _)]
  simp only [kindAt_cons_zero]
  rw [run_bind h]

theorem chain_optional_call {args : List Element} {place' : Place}
    (h : arguments fuel (⟨.punct "(", place', false⟩ :: ts) = .ok (args, rest)) :
    chain (fuel + 1) e (⟨.punct "?.", place, false⟩ :: ⟨.punct "(", place', false⟩ :: ts) =
      chain fuel (.call e args true) rest := by
  rw [chain, run_bind (run_kind _)]
  simp only [kindAt_cons_zero]
  rw [run_bind (run_advance (List.cons_ne_nil _ _)), run_bind (run_kind _)]
  simp only [kindAt_cons_zero]
  rw [run_bind h]

theorem chain_stop (h : grip (kindAt ts 0) < 13) : chain (fuel + 1) e ts = .ok (e, ts) := by
  rw [chain, run_bind (run_kind _)]
  generalize kindAt ts 0 = k at h ⊢
  split
  · exact absurd h (by decide)
  · exact absurd h (by decide)
  · exact absurd h (by decide)
  · exact absurd h (by decide)
  · rw [run_pure]

theorem constructor_member {name : String} {place' : Place} (h : ts ≠ []) :
    Parse.constructor (fuel + 1) e
        (⟨.punct ".", place, false⟩ :: ⟨.word name, place', false⟩ :: ts) =
      Parse.constructor fuel (.member e name false) ts := by
  rw [Parse.constructor, run_bind (run_kind _)]
  simp only [kindAt_cons_zero]
  rw [run_bind (run_advance (List.cons_ne_nil _ _)), run_bind (run_propertyName h)]

theorem constructor_index {key : Expr}
    (h : keyInBrackets fuel (⟨.punct "[", place, false⟩ :: ts) = .ok (key, rest)) :
    Parse.constructor (fuel + 1) e (⟨.punct "[", place, false⟩ :: ts) =
      Parse.constructor fuel (.index e key false) rest := by
  rw [Parse.constructor, run_bind (run_kind _)]
  simp only [kindAt_cons_zero]
  rw [run_bind h]

theorem constructor_stop : Parse.constructor (fuel + 1) e (⟨.punct "(", place, false⟩ :: ts) =
    .ok (e, ⟨.punct "(", place, false⟩ :: ts) := by
  rw [Parse.constructor, run_bind (run_kind _)]
  rfl

theorem construct_eq {t : Token} {callee : Expr} {args : List Element} (hts : ts ≠ [])
    (h : (primary fuel >>= Parse.constructor fuel) ts =
      .ok (callee, ⟨.punct "(", place, false⟩ :: mid))
    (hargs : arguments fuel (⟨.punct "(", place, false⟩ :: mid) = .ok (args, rest)) :
    construct (fuel + 1) (t :: ts) = .ok (.construct callee args, rest) := by
  have hcallee {β : Type} (g : Expr → Parse β) :
      (primary fuel >>= fun e => Parse.constructor fuel e >>= g) ts =
        g callee (⟨.punct "(", place, false⟩ :: mid) := by
    rw [← bind_assoc]
    exact run_bind h
  rw [construct, run_bind (run_advance hts), hcallee, run_bind (run_isPunct _ _)]
  simp only [kindAt_cons_zero, Token.Kind.isPunct, beq_self_eq_true, if_true]
  rw [run_bind hargs, run_pure]

theorem callMember_construct (h : construct fuel (⟨.word "new", place, false⟩ :: ts) =
    .ok (e, rest)) :
    callMember (fuel + 1) (⟨.word "new", place, false⟩ :: ts) = chain fuel e rest := by
  rw [callMember, run_bind (run_kind _)]
  simp only [kindAt_cons_zero, Token.Kind.isWord, beq_self_eq_true, if_true]
  rw [run_bind h]

theorem callMember_primary (hts : (kindAt ts 0).isWord "new" = false)
    (h : primary fuel ts = .ok (e, rest)) : callMember (fuel + 1) ts = chain fuel e rest := by
  rw [callMember, run_bind (run_kind _), hts]
  simp only [Bool.false_eq_true, if_false]
  rw [run_bind h]

/-! ### Operators -/

theorem unary_operator {k : Token.Kind} {op : UnaryOp} (hk : unaryOp? k = some op)
    (h : unary fuel ts = .ok (e, rest)) (hts : ts ≠ []) :
    unary (fuel + 1) (⟨k, place, false⟩ :: ts) = .ok (.unary op e, rest) := by
  rw [unary, run_bind (run_kind _)]
  simp only [kindAt_cons_zero, hk]
  rw [run_bind (run_advance hts), run_bind h, run_pure]

theorem unary_await (h : unary fuel ts = .ok (e, rest)) (hts : ts ≠ []) :
    unary (fuel + 1) (⟨.word "await", place, false⟩ :: ts) = .ok (.await e, rest) := by
  have hk : unaryOp? (.word "await") = none := rfl
  have hawait : (Token.Kind.word "await").isWord "await" = true := rfl
  rw [unary, run_bind (run_kind _), kindAt_cons_zero, hk]
  simp only [hawait, if_true]
  rw [run_bind (run_advance hts), run_bind h, run_pure]

theorem unary_update_before (increment : Bool) (h : unary fuel ts = .ok (e, rest))
    (hts : ts ≠ []) :
    unary (fuel + 1) (⟨stepToken increment, place, false⟩ :: ts) =
      .ok (.update increment true e, rest) := by
  have hk : unaryOp? (stepToken increment) = none := by cases increment <;> rfl
  have hawait : (stepToken increment).isWord "await" = false := rfl
  have hstep :
      ((stepToken increment).isPunct "++" || (stepToken increment).isPunct "--") = true := by
    cases increment <;> rfl
  have hincrement : (stepToken increment).isPunct "++" = increment := by cases increment <;> rfl
  rw [unary, run_bind (run_kind _)]
  simp only [kindAt_cons_zero, hk, hawait, hstep, Bool.false_eq_true, if_false, if_true]
  rw [run_bind (run_advance hts), run_bind h, run_pure, hincrement]

/-- A token with which an operand begins that has no operator in front of it. -/
structure BeginsOperand (k : Token.Kind) : Prop where
  unaryOp : unaryOp? k = none
  await : k.isWord "await" = false
  step : (k.isPunct "++" || k.isPunct "--") = false

theorem unary_operand (hts : BeginsOperand (kindAt ts 0)) (h : callMember fuel ts = .ok (e, rest))
    (hrest : grip (kindAt rest 0) < 12) : unary (fuel + 1) ts = .ok (e, rest) := by
  have hmark (p : String) (hp : 12 ≤ grip (.punct p)) : (kindAt rest 0).isPunct p = false := by
    refine Token.Kind.isPunct_eq_false fun hk => ?_
    rw [hk] at hrest
    omega
  have hstep : ((kindAt rest 0).isPunct "++" || (kindAt rest 0).isPunct "--") = false := by
    rw [hmark "++" (by decide), hmark "--" (by decide)]
    rfl
  rw [unary, run_bind (run_kind _), hts.unaryOp, hts.await, hts.step]
  simp only [Bool.false_eq_true, if_false]
  rw [run_bind h, run_bind (run_peek _), kind_headD, hstep]
  rfl

theorem unary_update_behind (increment : Bool) (hts : BeginsOperand (kindAt ts 0))
    (h : callMember fuel ts = .ok (e, ⟨stepToken increment, place, false⟩ :: rest))
    (hrest : rest ≠ []) : unary (fuel + 1) ts = .ok (.update increment false e, rest) := by
  have hstep :
      ((stepToken increment).isPunct "++" || (stepToken increment).isPunct "--") = true := by
    cases increment <;> rfl
  have hincrement : (stepToken increment).isPunct "++" = increment := by cases increment <;> rfl
  rw [unary, run_bind (run_kind _), hts.unaryOp, hts.await, hts.step]
  simp only [Bool.false_eq_true, if_false]
  rw [run_bind h, run_bind (run_peek_cons _ _)]
  simp only [hstep, Bool.not_false, Bool.and_self, if_true]
  rw [run_bind (run_advance hrest), run_pure, hincrement]

theorem binary_eq {level : Nat} (h : unary fuel ts = .ok (e, rest)) :
    binary (fuel + 1) level ts = binaryRest fuel level e rest := by
  rw [binary, run_bind h]

theorem binaryRest_stop {level : Nat} (h : grip (kindAt ts 0) < level) :
    binaryRest (fuel + 1) level e ts = .ok (e, ts) := by
  rw [binaryRest, run_bind (run_kind _)]
  unfold grip at h
  cases hk : infix? (kindAt ts 0) with
  | none => rfl
  | some op =>
    rw [hk] at h
    dsimp only
    rw [if_pos h, run_pure]

theorem binaryRest_operator {level tightness : Nat} {k : Token.Kind} {op : Infix} {right : Expr}
    (hk : infix? k = some (tightness, op)) (hlevel : level ≤ tightness)
    (h : binary fuel (op.rightLevel tightness) ts = .ok (right, rest)) (hts : ts ≠ []) :
    binaryRest (fuel + 1) level e (⟨k, place, false⟩ :: ts) =
      binaryRest fuel level (op.apply e right) rest := by
  rw [binaryRest, run_bind (run_kind _)]
  simp only [kindAt_cons_zero, hk, if_neg (Nat.not_lt.mpr hlevel)]
  rw [run_bind (run_advance hts), run_bind h]

theorem conditional_plain (h : binary fuel 1 ts = .ok (e, rest))
    (hrest : (kindAt rest 0).isPunct "?" = false) : conditional (fuel + 1) ts = .ok (e, rest) := by
  rw [conditional, run_bind h, run_bind (run_eatPunct_not hrest)]
  rfl

theorem conditional_choice {test yes no : Expr} {place' : Place} {mid' : List Token}
    (h : binary fuel 1 ts = .ok (test, ⟨.punct "?", place, false⟩ :: mid))
    (hyes : assignment fuel mid = .ok (yes, ⟨.punct ":", place', false⟩ :: mid'))
    (hno : assignment fuel mid' = .ok (no, rest)) (hmid : mid ≠ []) (hmid' : mid' ≠ []) :
    conditional (fuel + 1) ts = .ok (.conditional test yes no, rest) := by
  rw [conditional, run_bind h, run_bind (run_eatPunct hmid)]
  simp only [if_true]
  rw [run_bind hyes, run_bind (run_expectPunct hmid'), run_bind hno, run_pure]

/-! ### Whole expressions -/

/-- No arrow function begins here. -/
def NoArrow (ts : List Token) : Prop := asyncArrowBegins ts = false ∧ arrowBegins ts = false

theorem assignment_plain (hts : NoArrow ts) (h : conditional fuel ts = .ok (e, rest))
    (hrest : assignOp? (kindAt rest 0) = none) : assignment (fuel + 1) ts = .ok (e, rest) := by
  rw [assignment, run_bind (run_get _), hts.1, hts.2]
  simp only [Bool.false_eq_true, if_false]
  rw [run_bind h, run_bind (run_kind _), hrest]
  rfl

theorem assignment_assign {k : Token.Kind} {op : AssignOp} {target value : Expr} (hts : NoArrow ts)
    (hk : assignOp? k = some op) (htarget : isTarget target = true)
    (h : conditional fuel ts = .ok (target, ⟨k, place, false⟩ :: mid))
    (hvalue : assignment fuel mid = .ok (value, rest)) (hmid : mid ≠ []) :
    assignment (fuel + 1) ts = .ok (.assign op target value, rest) := by
  rw [assignment, run_bind (run_get _), hts.1, hts.2]
  simp only [Bool.false_eq_true, if_false]
  rw [run_bind h, run_bind (run_kind _)]
  simp only [kindAt_cons_zero, hk, htarget, Bool.not_true, Bool.false_eq_true, if_false]
  rw [run_bind (run_advance hmid), run_bind hvalue, run_pure]

/-! ### Arrow functions -/

theorem bindingPattern_ident {name : String} (hname : IsName name) (h : ts ≠ []) :
    bindingPattern (fuel + 1) (⟨.word name, place, false⟩ :: ts) = .ok (.ident name, ts) := by
  have hmark (p : String) : (kindAt (⟨.word name, place, false⟩ :: ts) 0).isPunct p = false := rfl
  rw [bindingPattern, run_bind (run_eatPunct_not (hmark _))]
  simp only [Bool.false_eq_true, if_false]
  rw [run_bind (run_eatPunct_not (hmark _))]
  simp only [Bool.false_eq_true, if_false]
  rw [run_bind (run_identifier hname.free h), run_pure]

theorem param_ident {name : String} (hname : IsName name) (h : ts ≠ [])
    (hts : (kindAt ts 0).isPunct "=" = false) :
    param (fuel + 2) (⟨.word name, place, false⟩ :: ts) =
      .ok (.mk (.ident name) none false, ts) := by
  have hinitializer : initializer (fuel + 1) ts = .ok (none, ts) := by
    rw [initializer, run_bind (run_eatPunct_not hts)]
    rfl
  have hspread : (kindAt (⟨.word name, place, false⟩ :: ts) 0).isPunct "..." = false := rfl
  rw [param, run_bind (run_eatPunct_not hspread), run_bind (bindingPattern_ident hname h),
    run_bind hinitializer, run_pure]

theorem params_eq {ps : List Param} (hts : ts ≠ [])
    (h : items ")" (param fuel) fuel [] ts = .ok (ps, rest)) :
    params (fuel + 1) (⟨.punct "(", place, false⟩ :: ts) = .ok (ps, rest) := by
  rw [params, run_bind (run_expectPunct hts), h]

/-- The body behind the arrow. -/
theorem arrow_body {α : Type} {f : Body → α} (h : assignment fuel mid = .ok (e, rest))
    (hmid : mid ≠ []) (hbody : (kindAt mid 0).isPunct "\x7b" = false) :
    (do
      expectPunct "=>"
      let body ← if ← isPunct "\x7b" then .block <$> block fuel else .expr <$> assignment fuel
      return f body : Parse α) (⟨.punct "=>", place, false⟩ :: mid) = .ok (f (.expr e), rest) := by
  rw [run_bind (run_expectPunct hmid), run_bind (run_isPunct _ _), hbody]
  simp only [Bool.false_eq_true, if_false]
  rw [run_bind (run_map h), run_pure]

/-- The word that makes an arrow function asynchronous is in front of it. -/
def behindAsync (async : Bool) (place : Place) (ts : List Token) : List Token :=
  if async then ⟨.word "async", place, false⟩ :: ts else ts

theorem arrow_params {async : Bool} {ps : List Param} {place' : Place}
    (hparams : params fuel (⟨.punct "(", place, false⟩ :: ts) =
      .ok (ps, ⟨.punct "=>", place', false⟩ :: mid))
    (h : assignment fuel mid = .ok (e, rest)) (hmid : mid ≠ [])
    (hbody : (kindAt mid 0).isPunct "\x7b" = false) (place'' : Place) :
    arrow (fuel + 1) async (behindAsync async place'' (⟨.punct "(", place, false⟩ :: ts)) =
      .ok (.function (.mk none ps (.expr e) true async), rest) := by
  have hopen : (kindAt (⟨.punct "(", place, false⟩ :: ts) 0).isPunct "(" = true := rfl
  cases async with
  | true =>
    rw [arrow]
    simp only [behindAsync, if_true]
    rw [run_bind (run_advance (List.cons_ne_nil _ _)), run_bind (run_isPunct _ _), hopen]
    simp only [if_true]
    rw [run_bind hparams]
    exact arrow_body h hmid hbody
  | false =>
    rw [arrow]
    simp only [behindAsync, Bool.false_eq_true, if_false]
    rw [run_bind (run_isPunct _ _), hopen]
    simp only [if_true]
    rw [run_bind hparams]
    exact arrow_body h hmid hbody

theorem arrow_ident {async : Bool} {name : String} {place' : Place} (hname : IsName name)
    (h : assignment fuel mid = .ok (e, rest)) (hmid : mid ≠ [])
    (hbody : (kindAt mid 0).isPunct "\x7b" = false) (place'' : Place) :
    arrow (fuel + 1) async (behindAsync async place''
        (⟨.word name, place, false⟩ :: ⟨.punct "=>", place', false⟩ :: mid)) =
      .ok (.function (.mk none [.mk (.ident name) none false] (.expr e) true async), rest) := by
  have hopen (ts : List Token) :
      (kindAt (⟨.word name, place, false⟩ :: ts) 0).isPunct "(" = false :=
    rfl
  have hidentifier :
      identifier (⟨.word name, place, false⟩ :: ⟨.punct "=>", place', false⟩ :: mid) =
        .ok (name, ⟨.punct "=>", place', false⟩ :: mid) :=
    run_identifier hname.free (List.cons_ne_nil _ _)
  cases async with
  | true =>
    rw [arrow]
    simp only [behindAsync, if_true]
    rw [run_bind (run_advance (List.cons_ne_nil _ _)), run_bind (run_isPunct _ _), hopen]
    simp only [Bool.false_eq_true, if_false]
    rw [run_bind hidentifier]
    exact arrow_body h hmid hbody
  | false =>
    rw [arrow]
    simp only [behindAsync, Bool.false_eq_true, if_false]
    rw [run_bind (run_isPunct _ _), hopen]
    simp only [Bool.false_eq_true, if_false]
    rw [run_bind hidentifier]
    exact arrow_body h hmid hbody

theorem assignment_arrow (hasync : asyncArrowBegins ts = false) (h : arrowBegins ts = true) :
    assignment (fuel + 1) ts = arrow fuel false ts := by
  rw [assignment, run_bind (run_get _), hasync, h]
  rfl

theorem assignment_asyncArrow (h : asyncArrowBegins ts = true) :
    assignment (fuel + 1) ts = arrow fuel true ts := by
  rw [assignment, run_bind (run_get _), h]
  rfl

end BrowserLab.Script.Parse
