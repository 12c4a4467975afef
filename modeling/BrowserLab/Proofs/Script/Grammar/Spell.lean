import BrowserLab.Proofs.Script.Grammar.Stream

/-!
# Spelling expressions

The tokens of an expression.  Where an expression stands, only those can stand without parentheses
that hold together at least as tightly as the place demands: this is what `Expr.rank` and
`Expr.within` are about.  The body of an arrow function is also put in parentheses if it would begin
like a block.

Only expressions are spelt that have no statements or templates in them: functions are arrow
functions with an expression for their body.
-/

namespace BrowserLab.Script

/-! ### Ranks -/

/-- How tightly an operator binds. -/
def BinaryOp.tightness : BinaryOp → Nat
  | .eq => 6
  | .notEq => 6
  | .strictEq => 6
  | .strictNotEq => 6
  | .lt => 7
  | .gt => 7
  | .ltEq => 7
  | .gtEq => 7
  | .isIn => 7
  | .instanceOf => 7
  | .add => 9
  | .sub => 9
  | .mul => 10
  | .div => 10
  | .rem => 10
  | .pow => 11

def LogicalOp.tightness : LogicalOp → Nat
  | .nullish => 1
  | .or => 2
  | .and => 3

/-- The place of an operand that no infix operator takes apart. -/
abbrev operandRank : Nat := 12

/-- What the left operand must be at least: only `**` groups to the right. -/
def BinaryOp.leftRank : BinaryOp → Nat
  | .pow => operandRank
  | op => op.tightness

def BinaryOp.rightRank : BinaryOp → Nat
  | .pow => BinaryOp.pow.tightness
  | op => op.tightness + 1

theorem BinaryOp.tightness_lt (op : BinaryOp) : op.tightness < operandRank := by
  cases op <;> decide

theorem LogicalOp.tightness_lt (op : LogicalOp) : op.tightness < operandRank := by
  cases op <;> decide

theorem BinaryOp.tightness_pos (op : BinaryOp) : 1 ≤ op.tightness := by
  cases op <;> decide

theorem LogicalOp.tightness_pos (op : LogicalOp) : 1 ≤ op.tightness := by
  cases op <;> decide

/-- The place at the beginning of a chain. -/
abbrev linkRank : Nat := 13

/-- The place of what is constructed. -/
abbrev calleeRank : Nat := 14

/-- How tightly an expression holds together. -/
def Expr.rank : Expr → Nat
  | .function _ => 0
  | .conditional _ _ _ => 0
  | .assign _ _ _ => 0
  | .binary op _ _ => op.tightness
  | .logical op _ _ => op.tightness
  | .unary _ _ => operandRank
  | .await _ => operandRank
  | .update _ _ _ => operandRank
  | .call _ _ _ => linkRank
  | .construct _ _ => linkRank
  | .member _ _ optional => if optional then linkRank else calleeRank
  | .index _ _ optional => if optional then linkRank else calleeRank
  | _ => 15

/-! ### Tokens -/

/-- The token of an operator. -/
def BinaryOp.token : BinaryOp → Token.Kind
  | .isIn => .word "in"
  | .instanceOf => .word "instanceof"
  | op => .punct op.text

def LogicalOp.token (op : LogicalOp) : Token.Kind := .punct op.text

def AssignOp.token (op : AssignOp) : Token.Kind := .punct op.text

def UnaryOp.token : UnaryOp → Token.Kind
  | .not => .punct "!"
  | .neg => .punct "-"
  | .plus => .punct "+"
  | .typeof => .word "typeof"
  | .void => .word "void"
  | .delete => .word "delete"

/-- The mark that counts up or down. -/
def stepToken (increment : Bool) : Token.Kind := .punct (if increment then "++" else "--")

/-- Tokens in parentheses. -/
def fenced (ks : List Token.Kind) : List Token.Kind := .punct "(" :: (ks ++ [.punct ")"])

/-- Tokens with commas between them. -/
def separated : List (List Token.Kind) → List Token.Kind
  | [] => []
  | [ks] => ks
  | ks :: rest => ks ++ .punct "," :: separated rest

/-- Do the tokens begin like a block? -/
def beginsBlock : List Token.Kind → Bool
  | k :: _ => k.isPunct "\x7b"
  | [] => false

/-- The token of a parameter that is a name. -/
def Param.token : Param → Token.Kind
  | .mk (.ident name) _ _ => .word name
  | _ => .eof

/-- The tokens of parameters: one of them needs no parentheses. -/
def spellParams : List Param → List Token.Kind
  | [param] => [param.token]
  | params => fenced (separated (params.map fun param => [param.token]))

section Spell

variable (bare : String → Bool)

/-- The token of a key of an object literal: a word for some keys, and else a string. -/
def keyToken (key : String) : Token.Kind := if bare key then .word key else .string key

mutual

/-- The tokens of an expression, without parentheses around it.  What is constructed is spelt so
that it has no calls outside parentheses. -/
def Expr.spell : Expr → (callee : Bool) → List Token.Kind
  | .number x, _ => [.number x]
  | .string s, _ => [.string s]
  | .bool b, _ => [.word (if b then "true" else "false")]
  | .null, _ => [.word "null"]
  | .undefined, _ => [.word "undefined"]
  | .ident name, _ => [.word name]
  | .array items, _ => .punct "[" :: (separated (Element.spellAll items) ++ [.punct "]"])
  | .object properties, _ =>
    .punct "\x7b" :: (separated (Property.spellAll properties) ++ [.punct "\x7d"])
  | .function f, _ => f.spell
  | .member object name optional, callee =>
    (if object.rank < (if callee then calleeRank else linkRank) then fenced (object.spell false)
      else object.spell callee) ++ [.punct (if optional then "?." else "."), .word name]
  | .index object key optional, callee =>
    (if object.rank < (if callee then calleeRank else linkRank) then fenced (object.spell false)
      else object.spell callee) ++ (if optional then [.punct "?."] else []) ++
      .punct "[" :: (key.spell false ++ [.punct "]"])
  | .call f args optional, _ =>
    (if f.rank < linkRank then fenced (f.spell false) else f.spell false) ++
      (if optional then [.punct "?."] else []) ++ fenced (separated (Element.spellAll args))
  | .construct f args, _ =>
    .word "new" :: ((if f.rank < calleeRank then fenced (f.spell false) else f.spell true) ++
      fenced (separated (Element.spellAll args)))
  | .unary op e, _ =>
    op.token :: (if e.rank < operandRank then fenced (e.spell false) else e.spell false)
  | .await e, _ =>
    .word "await" :: (if e.rank < operandRank then fenced (e.spell false) else e.spell false)
  | .update increment true e, _ =>
    stepToken increment :: (if e.rank < operandRank then fenced (e.spell false) else e.spell false)
  | .update increment false e, _ =>
    (if e.rank < linkRank then fenced (e.spell false) else e.spell false) ++ [stepToken increment]
  | .binary op left right, _ =>
    (if left.rank < op.leftRank then fenced (left.spell false) else left.spell false) ++
      op.token ::
        (if right.rank < op.rightRank then fenced (right.spell false) else right.spell false)
  | .logical op left right, _ =>
    (if left.rank < op.tightness then fenced (left.spell false) else left.spell false) ++
      op.token ::
        (if right.rank < op.tightness + 1 then fenced (right.spell false) else right.spell false)
  | .conditional test yes no, _ =>
    (if test.rank < 1 then fenced (test.spell false) else test.spell false) ++
      .punct "?" :: (yes.spell false ++ .punct ":" :: no.spell false)
  | .assign op target value, _ =>
    (if target.rank < linkRank then fenced (target.spell false) else target.spell false) ++
      op.token :: value.spell false
  | .template _, _ => []

/-- The tokens of each item or argument. -/
def Element.spellAll : List Element → List (List Token.Kind)
  | [] => []
  | .item e :: rest => e.spell false :: Element.spellAll rest
  | .spread e :: rest => (.punct "..." :: e.spell false) :: Element.spellAll rest

/-- The tokens of each member. -/
def Property.spellAll : List Property → List (List Token.Kind)
  | [] => []
  | .named key e :: rest => (keyToken bare key :: .punct ":" :: e.spell false) ::
    Property.spellAll rest
  | .computed key e :: rest =>
    (.punct "[" :: (key.spell false ++ .punct "]" :: .punct ":" :: e.spell false)) ::
      Property.spellAll rest
  | .spread e :: rest => (.punct "..." :: e.spell false) :: Property.spellAll rest

/-- The tokens of an arrow function. -/
def Function.spell : Function → List Token.Kind
  | .mk _ params body _ async =>
    (if async then [.word "async"] else []) ++ spellParams params ++ .punct "=>" :: body.spell

/-- The tokens of the body of an arrow function. -/
def Body.spell : Body → List Token.Kind
  | .expr e => if beginsBlock (e.spell false) then fenced (e.spell false) else e.spell false
  | .block _ => []

end

/-- The tokens of an expression at a place that demands a rank. -/
def Expr.within (level : Nat) (e : Expr) : List Token.Kind :=
  if e.rank < level then fenced (e.spell bare false)
  else e.spell bare (decide (calleeRank ≤ level))

/-- The tokens of an item or argument. -/
def Element.spell : Element → List Token.Kind
  | .item e => e.spell bare false
  | .spread e => .punct "..." :: e.spell bare false

/-- The tokens of a member. -/
def Property.spell : Property → List Token.Kind
  | .named key e => keyToken bare key :: .punct ":" :: e.spell bare false
  | .computed key e =>
    .punct "[" :: (key.spell bare false ++ .punct "]" :: .punct ":" :: e.spell bare false)
  | .spread e => .punct "..." :: e.spell bare false

end Spell

/-! ### Tokens by places -/

variable (bare : String → Bool) (callee : Bool)

namespace Expr

theorem within_of_lt {level : Nat} {e : Expr} (h : e.rank < level) :
    e.within bare level = fenced (e.spell bare false) := if_pos h

theorem within_of_le {level : Nat} {e : Expr} (h : level ≤ e.rank) :
    e.within bare level = e.spell bare (decide (calleeRank ≤ level)) := if_neg (Nat.not_lt.mpr h)

/-- Below what is constructed, places differ only in the rank they demand. -/
theorem within_eq {level : Nat} (h : level < calleeRank) (e : Expr) :
    e.within bare level = if e.rank < level then fenced (e.spell bare false)
      else e.spell bare false := by
  rw [within, decide_eq_false (Nat.not_le.mpr h)]

@[simp] theorem within_zero (e : Expr) : e.within bare 0 = e.spell bare false :=
  within_of_le bare (Nat.zero_le _)

theorem spell_member (object : Expr) (name : String) (optional : Bool) :
    (Expr.member object name optional).spell bare callee =
      object.within bare (if callee then calleeRank else linkRank) ++
        [.punct (if optional then "?." else "."), .word name] := by
  cases callee <;> rfl

theorem spell_index (object key : Expr) (optional : Bool) :
    (Expr.index object key optional).spell bare callee =
      object.within bare (if callee then calleeRank else linkRank) ++
        (if optional then [.punct "?."] else []) ++
        .punct "[" :: (key.spell bare false ++ [.punct "]"]) := by
  cases callee <;> rfl

theorem spell_call (f : Expr) (args : List Element) (optional : Bool) :
    (Expr.call f args optional).spell bare callee =
      f.within bare linkRank ++ (if optional then [.punct "?."] else []) ++
        fenced (separated (Element.spellAll bare args)) :=
  rfl

theorem spell_construct (f : Expr) (args : List Element) :
    (Expr.construct f args).spell bare callee =
      .word "new" :: (f.within bare calleeRank ++ fenced (separated (Element.spellAll bare args))) :=
  rfl

theorem spell_unary (op : UnaryOp) (e : Expr) :
    (Expr.unary op e).spell bare callee = op.token :: e.within bare operandRank := rfl

theorem spell_await (e : Expr) :
    (Expr.await e).spell bare callee = .word "await" :: e.within bare operandRank := rfl

theorem spell_update_before (increment : Bool) (e : Expr) :
    (Expr.update increment true e).spell bare callee =
      stepToken increment :: e.within bare operandRank :=
  rfl

theorem spell_update_behind (increment : Bool) (e : Expr) :
    (Expr.update increment false e).spell bare callee =
      e.within bare linkRank ++ [stepToken increment] :=
  rfl

theorem spell_binary (op : BinaryOp) (left right : Expr) :
    (Expr.binary op left right).spell bare callee =
      left.within bare op.leftRank ++ op.token :: right.within bare op.rightRank := by
  rw [within_eq bare (by cases op <;> decide), within_eq bare (by cases op <;> decide)]
  rfl

theorem spell_logical (op : LogicalOp) (left right : Expr) :
    (Expr.logical op left right).spell bare callee =
      left.within bare op.tightness ++ op.token :: right.within bare (op.tightness + 1) := by
  rw [within_eq bare (by cases op <;> decide), within_eq bare (by cases op <;> decide)]
  rfl

theorem spell_conditional (test yes no : Expr) :
    (Expr.conditional test yes no).spell bare callee =
      test.within bare 1 ++ .punct "?" :: (yes.spell bare false ++ .punct ":" :: no.spell bare false) :=
  rfl

theorem spell_assign (op : AssignOp) (target value : Expr) :
    (Expr.assign op target value).spell bare callee =
      target.within bare linkRank ++ op.token :: value.spell bare false :=
  rfl

end Expr

theorem Element.spellAll_eq (items : List Element) :
    Element.spellAll bare items = items.map (Element.spell bare) := by
  induction items with
  | nil => rfl
  | cons item rest ih => cases item <;> simp [Element.spellAll, Element.spell, ih]

theorem Property.spellAll_eq (properties : List Property) :
    Property.spellAll bare properties = properties.map (Property.spell bare) := by
  induction properties with
  | nil => rfl
  | cons property rest ih => cases property <;> simp [Property.spellAll, Property.spell, ih]

/-! ### What can be spelt -/

/-- A name: it is not reserved, and no other word of the language. -/
structure IsName (name : String) : Prop where
  free : isReserved name = false
  plain : name ∉ ["true", "false", "null", "undefined", "await"]

theorem IsName.ne {name word : String} (h : IsName name) (hw : isReserved word = true) :
    name ≠ word := by
  rintro rfl
  rw [h.free] at hw
  cases hw

/-- The expression of an item or argument. -/
def Element.expr : Element → Expr
  | .item e => e
  | .spread e => e

/-- The expressions of a member. -/
def Property.exprs : Property → List Expr
  | .named _ e => [e]
  | .computed key e => [key, e]
  | .spread e => [e]

/-- The parameter is a name. -/
def Param.IsName : Param → Prop
  | .mk (.ident name) none false => Script.IsName name
  | _ => False

/-- The expression has no statements or templates in it, its names can be used as names, and what is
assigned to can be assigned to. -/
inductive Expr.Spellable : Expr → Prop
  | number (x : Float) : Spellable (.number x)
  | string (s : String) : Spellable (.string s)
  | bool (b : Bool) : Spellable (.bool b)
  | null : Spellable .null
  | undefined : Spellable .undefined
  | ident {name : String} (h : IsName name) : Spellable (.ident name)
  | array {items : List Element} (h : ∀ item ∈ items, Spellable item.expr) :
      Spellable (.array items)
  | object {properties : List Property}
      (h : ∀ property ∈ properties, ∀ e ∈ property.exprs, Spellable e) :
      Spellable (.object properties)
  | arrow {params : List Param} {body : Expr} {async : Bool} (hp : ∀ param ∈ params, param.IsName)
      (hb : Spellable body) : Spellable (.function (.mk none params (.expr body) true async))
  | member {object : Expr} (name : String) (optional : Bool) (ho : Spellable object) :
      Spellable (.member object name optional)
  | index {object key : Expr} (optional : Bool) (ho : Spellable object) (hk : Spellable key) :
      Spellable (.index object key optional)
  | call {f : Expr} {args : List Element} (optional : Bool) (hf : Spellable f)
      (ha : ∀ arg ∈ args, Spellable arg.expr) : Spellable (.call f args optional)
  | construct {f : Expr} {args : List Element} (hf : Spellable f)
      (ha : ∀ arg ∈ args, Spellable arg.expr) : Spellable (.construct f args)
  | unary (op : UnaryOp) {e : Expr} (h : Spellable e) : Spellable (.unary op e)
  | await {e : Expr} (h : Spellable e) : Spellable (.await e)
  | update (increment before : Bool) {e : Expr} (h : Spellable e) :
      Spellable (.update increment before e)
  | binary (op : BinaryOp) {left right : Expr} (hl : Spellable left) (hr : Spellable right) :
      Spellable (.binary op left right)
  | logical (op : LogicalOp) {left right : Expr} (hl : Spellable left) (hr : Spellable right) :
      Spellable (.logical op left right)
  | conditional {test yes no : Expr} (ht : Spellable test) (hy : Spellable yes)
      (hn : Spellable no) : Spellable (.conditional test yes no)
  | assign (op : AssignOp) {target value : Expr} (htarget : Parse.isTarget target = true)
      (ht : Spellable target) (hv : Spellable value) : Spellable (.assign op target value)

end BrowserLab.Script
