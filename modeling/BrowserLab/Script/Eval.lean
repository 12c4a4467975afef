import BrowserLab.Script.Global
import BrowserLab.Script.Operator
import BrowserLab.Script.Property

/-!
# Evaluation

What expressions and statements do to the machine.  Every step hands less fuel on than it was given,
and evaluation without fuel stops; a script that comes to an end does so with every fuel that is
large enough.  The steps of expressions, statements and calls can also be counted as they are taken,
one after the other, so that a run can be looked at after any number of them.
-/

namespace BrowserLab.Script

/-- How a statement came to its end. -/
inductive Completion where
  | normal
  | returned (v : Value)
  | broke
  | continued

/-- How a loop goes on after its body: another round, or the end. -/
def Completion.leaves? : Completion → Option Completion
  | .normal => none
  | .continued => none
  | .broke => some .normal
  | .returned v => some (.returned v)

namespace Eval

/-- There was no fuel left. -/
def exhausted {α : Type} : Eval α := throw .exhausted

/-- Stops if no step is left to take. -/
def step : Eval Unit := do
  if ← modifyGet Machine.takeStep then return () else exhausted

/-- Runs something and gives what it threw, if it threw a value. -/
def attempt {α : Type} (x : Eval α) : Eval (Except Value α) := ExceptT.mk fun m =>
  match x.run m with
  | (.ok a, m) => (.ok (.ok a), m)
  | (.error (.thrown v), m) => (.ok (.error v), m)
  | (.error .exhausted, m) => (.error .exhausted, m)

/-- Goes on as something that was attempted went. -/
def resume {α : Type} : Except Value α → Eval α
  | .ok a => return a
  | .error v => throwValue v

/-- Makes a function. -/
def closure (f : Function) (scope : Nat) : Eval Value :=
  allocate (·.newClosure ⟨f, scope⟩)

/-- Declares the functions of a block before the block is entered. -/
def hoist (scope : Nat) : List Stmt → Eval Unit
  | [] => return ()
  | .function f :: rest => do
    match f.name? with
    | some name =>
      let v ← closure f scope
      declare scope name v true
    | none => pure ()
    hoist scope rest
  | _ :: rest => hoist scope rest

/-- The members of an object that a pattern does not take out. -/
def remaining (h : Heap) (v : Value) (bindings : List Binding) : Dict Value :=
  match v with
  | .object ref =>
    (h.object ref).filter fun (k, _) => !bindings.any fun
      | .mk key _ _ => key == k
  | _ => []

/-- The value for the item of a list pattern at a position. -/
def itemAt (vs : List Value) (i : Nat) (rest : Bool) : Eval Value :=
  if rest then newArray (vs.drop i).toArray else return vs.getD i .undefined

/-- A value that may take its default. -/
def isUndefined : Value → Bool
  | .undefined => true
  | _ => false

/-- What a value spread into an object adds. -/
def spreadMembers (h : Heap) (v : Value) : List (String × Value) := entries h v

/-- What an operator that assigns makes of the old and the new value. -/
def compound? : AssignOp → Option BinaryOp
  | .assign => none
  | .add => some .add
  | .sub => some .sub
  | .mul => some .mul
  | .div => some .div

/-- Is the value left by a logical operator also its result? -/
def decides (op : LogicalOp) (left : Value) : Bool :=
  match op with
  | .and => !left.truthy
  | .or => left.truthy
  | .nullish => !left.isNullish

/-- A construction yields an array or an object; anything else is replaced by an empty object. -/
def constructed (v : Value) : Eval Value :=
  match v with
  | .object _ => return v
  | .array _ => return v
  | _ => newObject []

/-- Can the value be constructed? -/
def isConstructor : Value → Bool
  | .closure _ => true
  | .builtin (.errorMaker _) => true
  | _ => false

end Eval

open Eval

mutual

/-- The value of an expression. -/
def eval : Nat → Expr → Nat → Eval Value
  | 0, _, _ => exhausted
  | fuel + 1, e, scope => do
    step
    match e with
    | .number x => return .number x
    | .string s => return .string s
    | .bool b => return .bool b
    | .null => return .null
    | .undefined => return .undefined
    | .template parts => return .string (← evalTemplate fuel parts scope)
    | .ident name =>
      match ← lookup? scope name with
      | some v => return v
      | none => referenceError (name ++ " is not defined")
    | .array items =>
      let vs ← evalElements fuel items scope
      newArray vs.toArray
    | .object properties =>
      let members ← evalProperties fuel properties scope
      newObject members
    | .function f => closure f scope
    | .member object name optional =>
      let v ← eval fuel object scope
      if optional && v.isNullish then return .undefined
      else getProperty v name
    | .index object key optional =>
      let v ← eval fuel object scope
      if optional && v.isNullish then return .undefined
      else
        let k ← eval fuel key scope
        getProperty v (← display k)
    | .call callee args optional =>
      let f ← eval fuel callee scope
      if optional && f.isNullish then return .undefined
      else if !f.isCallable then typeError (callee.describe ++ " is not a function")
      else
        let vs ← evalElements fuel args scope
        call fuel f vs
    | .construct callee args =>
      let f ← eval fuel callee scope
      let vs ← evalElements fuel args scope
      if isConstructor f then constructed (← call fuel f vs)
      else typeError (callee.describe ++ " is not a constructor")
    | .unary op operand => evalUnary fuel op operand scope
    | .update increment before target =>
      let old ← number (← eval fuel target scope)
      let new := if increment then old + 1.0 else old - 1.0
      assign fuel target (.number new) scope
      return .number (if before then new else old)
    | .binary op left right =>
      let a ← eval fuel left scope
      let b ← eval fuel right scope
      binary op a b
    | .logical op left right =>
      let a ← eval fuel left scope
      if decides op a then return a else eval fuel right scope
    | .conditional test yes no =>
      let t ← eval fuel test scope
      if t.truthy then eval fuel yes scope else eval fuel no scope
    | .assign op target value =>
      let v ← eval fuel value scope
      match compound? op with
      | none =>
        assign fuel target v scope
        return v
      | some op =>
        let old ← eval fuel target scope
        let v ← binary op old v
        assign fuel target v scope
        return v
    | .await e => eval fuel e scope

/-- The text of a template. -/
def evalTemplate : Nat → List TemplatePart → Nat → Eval String
  | 0, _, _ => exhausted
  | _, [], _ => return ""
  | fuel + 1, .text s :: rest, scope => return s ++ (← evalTemplate fuel rest scope)
  | fuel + 1, .hole e :: rest, scope => do
    let s ← display (← eval fuel e scope)
    return s ++ (← evalTemplate fuel rest scope)

/-- The values of arguments or items. -/
def evalElements : Nat → List Element → Nat → Eval (List Value)
  | 0, _, _ => exhausted
  | _, [], _ => return []
  | fuel + 1, .item e :: rest, scope => do
    let v ← eval fuel e scope
    return v :: (← evalElements fuel rest scope)
  | fuel + 1, .spread e :: rest, scope => do
    let vs ← iterate (← eval fuel e scope)
    return vs ++ (← evalElements fuel rest scope)

/-- The members of an object literal. -/
def evalProperties : Nat → List Property → Nat → Eval (List (String × Value))
  | 0, _, _ => exhausted
  | _, [], _ => return []
  | fuel + 1, .named key e :: rest, scope => do
    let v ← eval fuel e scope
    return (key, v) :: (← evalProperties fuel rest scope)
  | fuel + 1, .computed key e :: rest, scope => do
    let k ← display (← eval fuel key scope)
    let v ← eval fuel e scope
    return (k, v) :: (← evalProperties fuel rest scope)
  | fuel + 1, .spread e :: rest, scope => do
    let v ← eval fuel e scope
    let members ← heap fun h => spreadMembers h v
    return members ++ (← evalProperties fuel rest scope)

/-- The value of an operator before its operand. -/
def evalUnary : Nat → UnaryOp → Expr → Nat → Eval Value
  | 0, _, _, _ => exhausted
  | fuel + 1, op, operand, scope => do
    match op with
    | .typeof =>
      match operand with
      | .ident name =>
        match ← lookup? scope name with
        | some v => return .string v.typeName
        | none => return .string "undefined"
      | e => return .string (← eval fuel e scope).typeName
    | .delete =>
      match operand with
      | .member object name _ =>
        match ← eval fuel object scope with
        | .object ref => modifyHeap (·.modifyObject ref fun members => members.erase name)
        | _ => pure ()
        return .bool true
      | _ => return .bool true
    | .not => return .bool !(← eval fuel operand scope).truthy
    | .neg => return .number (-(← number (← eval fuel operand scope)))
    | .plus => return .number (← number (← eval fuel operand scope))
    | .void =>
      let _ ← eval fuel operand scope
      return .undefined

/-- Assigns a value to a name or a property. -/
def assign : Nat → Expr → Value → Nat → Eval Unit
  | 0, _, _, _ => exhausted
  | fuel + 1, target, v, scope => do
    match target with
    | .ident name => assignName scope name v
    | .member object name _ =>
      let o ← eval fuel object scope
      setProperty o name v
    | .index object key _ =>
      let o ← eval fuel object scope
      let k ← eval fuel key scope
      setProperty o (← display k) v
    | _ => syntaxError "Invalid left-hand side in assignment"

/-- Calls a value with arguments. -/
def call : Nat → Value → List Value → Eval Value
  | 0, _, _ => exhausted
  | fuel + 1, f, args => do
    step
    match f with
    | .closure ref =>
      match ← heap (·.closure? ref) with
      | some c => callClosure fuel c args
      | none => return .undefined
    | .builtin b => settle fuel (← callBuiltin b args)
    | .method this name => callMethod fuel this name args
    | v => typeError ((← display v) ++ " is not a function")

/-- Makes the call that a reply asks for. -/
def settle : Nat → Reply → Eval Value
  | 0, _ => exhausted
  | _, .value v => return v
  | fuel + 1, .callback callee args s => do
    let result ← call fuel callee args
    return s.apply result

/-- Calls a function that a script has made. -/
def callClosure : Nat → Closure → List Value → Eval Value
  | 0, _, _ => exhausted
  | fuel + 1, c, args => do
    let scope ← openScope c.scope
    bindParams fuel c.function.params 0 args scope
    match c.function.body with
    | .expr e => eval fuel e scope
    | .block body =>
      match ← execBlock fuel body scope with
      | .returned v => return v
      | _ => return .undefined

/-- Binds parameters, of which the first is at the given position. -/
def bindParams : Nat → List Param → Nat → List Value → Nat → Eval Unit
  | 0, _, _, _, _ => exhausted
  | _, [], _, _, _ => return ()
  | fuel + 1, .mk pattern default rest :: params, i, args, scope => do
    let v ← itemAt args i rest
    let v ← withDefault fuel v default scope
    bind fuel pattern v scope true
    bindParams fuel params (i + 1) args scope

/-- The value, or its default if it is undefined and there is one. -/
def withDefault : Nat → Value → Option Expr → Nat → Eval Value
  | 0, _, _, _ => exhausted
  | fuel + 1, v, default, scope =>
    match default with
    | some e => if isUndefined v then eval fuel e scope else return v
    | none => return v

/-- Calls a method that was looked up on a value. -/
def callMethod : Nat → Value → String → List Value → Eval Value
  | 0, _, _, _ => exhausted
  | fuel + 1, this, name, args => do
    match this with
    | .handle h => settle fuel (← Surface.invoke h name args)
    | .array ref =>
      match Visit.ofName? name with
      | some visit =>
        let callback := argument args 0
        if callback.isCallable then
          let items ← heap fun h => (h.array ref).toList
          visitItems fuel visit callback ref items 0 []
        else typeError ((← display callback) ++ " is not a function")
      | none =>
        if name == "reduce" then reduceArray fuel ref args else arrayMethod ref name args
    | .string s => stringMethod s name args
    | .number x => numberMethod x name args
    | .object ref =>
      if name == "hasOwnProperty" then
        match args with
        | key :: _ =>
          let k ← display key
          heap fun h => .bool ((h.object ref).has k)
        | [] => return .bool false
      else if name == "toString" then return .string (← display this)
      else typeError ("object." ++ name ++ " is not a function")
    | v =>
      if name == "toString" then return .string (← display v)
      else typeError (v.typeName ++ "." ++ name ++ " is not a function")

/-- Calls a function for each item, of which the first is at the given position.  `kept` holds the
items of the new array, last first. -/
def visitItems : Nat → Visit → Value → Nat → List Value → Nat → List Value → Eval Value
  | 0, _, _, _, _, _, _ => exhausted
  | _, visit, _, _, [], _, kept => visit.finish kept.reverse
  | fuel + 1, visit, callback, ref, item :: rest, i, kept => do
    let answer ← call fuel callback [item, .number (Float.ofNat i), .array ref]
    match visit.decided? i item answer with
    | some result => return result
    | none => visitItems fuel visit callback ref rest (i + 1) (visit.kept item answer ++ kept)

/-- Folds an array with a function. -/
def reduceArray : Nat → Nat → List Value → Eval Value
  | 0, _, _ => exhausted
  | fuel + 1, ref, args => do
    let items ← heap fun h => (h.array ref).toList
    let callback := argument args 0
    match args[1]?, items with
    | some start, items => reduceItems fuel callback ref items 0 start
    | none, first :: rest => reduceItems fuel callback ref rest 1 first
    | none, [] => typeError "Reduce of empty array with no initial value"

/-- Folds items with a function, the first of them being at the given position. -/
def reduceItems : Nat → Value → Nat → List Value → Nat → Value → Eval Value
  | 0, _, _, _, _, _ => exhausted
  | _, _, _, [], _, acc => return acc
  | fuel + 1, callback, ref, item :: rest, i, acc => do
    let acc ← call fuel callback [acc, item, .number (Float.ofNat i), .array ref]
    reduceItems fuel callback ref rest (i + 1) acc

/-- Binds a pattern to a value. -/
def bind : Nat → Pattern → Value → Nat → Bool → Eval Unit
  | 0, _, _, _, _ => exhausted
  | fuel + 1, pattern, v, scope, mutable => do
    match pattern with
    | .ident name => declare scope name v mutable
    | .object bindings rest =>
      if v.isNullish then
        let text ← display v
        typeError ("Cannot destructure '" ++ text ++ "' as it is " ++ text ++ ".")
      else
        bindMembers fuel bindings v scope mutable
        match rest with
        | some name =>
          let others ← heap fun h => remaining h v bindings
          let o ← newObject others
          declare scope name o mutable
        | none => return ()
    | .array items =>
      let vs ← iterate v
      bindItems fuel items 0 vs scope mutable

/-- Binds the properties that an object pattern takes out. -/
def bindMembers : Nat → List Binding → Value → Nat → Bool → Eval Unit
  | 0, _, _, _, _ => exhausted
  | _, [], _, _, _ => return ()
  | fuel + 1, .mk key target default :: rest, v, scope, mutable => do
    let item ← getProperty v key
    let item ← withDefault fuel item default scope
    bind fuel target item scope mutable
    bindMembers fuel rest v scope mutable

/-- Binds the items of a list pattern, of which the first is at the given position. -/
def bindItems : Nat → List (Option Param) → Nat → List Value → Nat → Bool → Eval Unit
  | 0, _, _, _, _, _ => exhausted
  | _, [], _, _, _, _ => return ()
  | fuel + 1, none :: items, i, vs, scope, mutable =>
    bindItems fuel items (i + 1) vs scope mutable
  | fuel + 1, some (.mk pattern default rest) :: items, i, vs, scope, mutable => do
    let item ← itemAt vs i rest
    let item ← withDefault fuel item default scope
    bind fuel pattern item scope mutable
    bindItems fuel items (i + 1) vs scope mutable

/-- Executes a statement. -/
def exec : Nat → Stmt → Nat → Eval Completion
  | 0, _, _ => exhausted
  | fuel + 1, s, scope => do
    step
    match s with
    | .expr e =>
      let _ ← eval fuel e scope
      return .normal
    | .declare kind declarations =>
      execDeclarations fuel declarations scope (kind != .const)
      return .normal
    | .function _ => return .normal
    | .empty => return .normal
    | .ret none => return .returned .undefined
    | .ret (some e) => return .returned (← eval fuel e scope)
    | .ifElse test yes no =>
      let t ← eval fuel test scope
      if t.truthy then execScoped fuel yes scope
      else
        match no with
        | some no => execScoped fuel no scope
        | none => return .normal
    | .forOf kind pattern iterable body =>
      let items ← iterate (← eval fuel iterable scope)
      execForOf fuel pattern (kind != .const) body items scope
    | .forLoop init test update body =>
      let inner ← openScope scope
      match init with
      | some s =>
        let _ ← exec fuel s inner
      | none => pure ()
      execFor fuel test update body inner
    | .whileLoop test body => execWhile fuel test body scope
    | .breakLoop => return .broke
    | .continueLoop => return .continued
    | .throw e =>
      let v ← eval fuel e scope
      throwValue v
    | .attempt block param handler finalizer =>
      let inner ← openScope scope
      let first ← attempt (execBlock fuel block inner)
      let result ←
        match first, handler with
        | .error thrown, some handler => execHandler fuel param thrown handler scope
        | result, _ => pure result
      match finalizer with
      | some finalizer =>
        let inner ← openScope scope
        match ← execBlock fuel finalizer inner with
        | .normal => resume result
        | other => return other
      | none => resume result
    | .block body =>
      let inner ← openScope scope
      execBlock fuel body inner

/-- Binds what was thrown and executes the handler.  What the binding throws is not caught. -/
def execHandler : Nat → Option Pattern → Value → List Stmt → Nat →
    Eval (Except Value Completion)
  | 0, _, _, _, _ => exhausted
  | fuel + 1, param, thrown, handler, scope => do
    let inner ← openScope scope
    match param with
    | some pattern => bind fuel pattern thrown inner true
    | none => pure ()
    attempt (execBlock fuel handler inner)

/-- Executes declarations one after the other. -/
def execDeclarations : Nat → List Declarator → Nat → Bool → Eval Unit
  | 0, _, _, _ => exhausted
  | _, [], _, _ => return ()
  | fuel + 1, .mk pattern init :: rest, scope, mutable => do
    let v ←
      match init with
      | some e => eval fuel e scope
      | none => pure .undefined
    bind fuel pattern v scope mutable
    execDeclarations fuel rest scope mutable

/-- Executes a nested statement: a block gets a scope of its own. -/
def execScoped : Nat → Stmt → Nat → Eval Completion
  | 0, _, _ => exhausted
  | fuel + 1, s, scope => do
    match s with
    | .block body =>
      let inner ← openScope scope
      execBlock fuel body inner
    | s => exec fuel s scope

/-- Executes statements after their functions have been declared. -/
def execBlock : Nat → List Stmt → Nat → Eval Completion
  | 0, _, _ => exhausted
  | fuel + 1, body, scope => do
    hoist scope body
    execAll fuel body scope

/-- Executes statements until one does not end normally. -/
def execAll : Nat → List Stmt → Nat → Eval Completion
  | 0, _, _ => exhausted
  | _, [], _ => return .normal
  | fuel + 1, s :: rest, scope => do
    match ← exec fuel s scope with
    | .normal => execAll fuel rest scope
    | other => return other

/-- Executes the body of a loop for each item, in a scope of its own. -/
def execForOf : Nat → Pattern → Bool → Stmt → List Value → Nat → Eval Completion
  | 0, _, _, _, _, _ => exhausted
  | _, _, _, _, [], _ => return .normal
  | fuel + 1, pattern, mutable, body, item :: rest, scope => do
    let inner ← openScope scope
    bind fuel pattern item inner mutable
    match (← execScoped fuel body inner).leaves? with
    | some completion => return completion
    | none => execForOf fuel pattern mutable body rest scope

/-- Executes the rounds of a loop whose head has three parts. -/
def execFor : Nat → Option Expr → Option Expr → Stmt → Nat → Eval Completion
  | 0, _, _, _, _ => exhausted
  | fuel + 1, test, update, body, scope => do
    let goesOn ←
      match test with
      | some e => pure (← eval fuel e scope).truthy
      | none => pure true
    if !goesOn then return .normal
    else
      match (← execScoped fuel body scope).leaves? with
      | some completion => return completion
      | none =>
        match update with
        | some e =>
          let _ ← eval fuel e scope
        | none => pure ()
        execFor fuel test update body scope

/-- Executes the rounds of a loop with a test. -/
def execWhile : Nat → Expr → Stmt → Nat → Eval Completion
  | 0, _, _, _ => exhausted
  | fuel + 1, test, body, scope => do
    let t ← eval fuel test scope
    if !t.truthy then return .normal
    else
      match (← execScoped fuel body scope).leaves? with
      | some completion => return completion
      | none => execWhile fuel test body scope

end

end BrowserLab.Script
