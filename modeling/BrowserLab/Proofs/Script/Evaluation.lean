import BrowserLab.Proofs.Script.Judgement

/-!
# The walk through the evaluator

One more unit of fuel on both sides, and a judgement still holds of every function of the evaluator.
There is one lemma for each function; it goes through the function in the order in which it is
written, and where the function calls others it uses what is known of them with one unit less.

* `Walked.all`: every judgement holds of all of them, with more fuel on the right than on the left.
* `Upholds.along`: with more fuel evaluation follows itself with less fuel.
-/

namespace BrowserLab.Script

open Eval

variable {J : Judgement} {o : Option Nat} {c : Prop} {n k : Nat}

section Step

variable (h : Walked J n k)

/-! ### Expressions -/

include h

theorem walked_eval (e : Expr) (scope : Nat) :
    J.Holds o c (Value.All J.handles) (eval (n + 1) e scope) (eval (k + 1) e scope) := by
  cases e <;> rw [eval, eval] <;> refine J.afterStep ?_
  case template parts => exact J.bind (h.evalTemplate _ _) fun _ => J.pure fun _ => trivial
  case ident name =>
    refine J.bind (J.lookup? scope name) fun found => ?_
    cases found with
    | none => exact J.tame (.raise _ _) fun _ => .referenceError _
    | some v => exact J.pure fun hc => hc.2 v rfl
  case array items =>
    refine J.bind (h.evalElements _ _) fun vs => ?_
    exact J.tame (.newArray _) fun hc => .newArray hc.2
  case object properties => exact J.bind (h.evalProperties _ _) fun _ => J.newObject And.right
  case function f => exact J.closure _ _
  case member object name optional =>
    refine J.bind (h.eval _ _) fun v => ?_
    split
    · exact J.pure fun _ => trivial
    · exact J.getProperty And.right name
  case index object key optional =>
    refine J.bind (h.eval _ _) fun v => ?_
    split
    · exact J.pure fun _ => trivial
    · refine J.bind (h.eval _ _) fun w => J.bind (J.display w) fun name => ?_
      exact J.getProperty (fun hc => hc.1.1.2) name
  case call callee args optional =>
    refine J.bind (h.eval _ _) fun f => ?_
    split
    · exact J.pure fun _ => trivial
    split
    · exact J.typeError _
    · exact J.bind (h.evalElements _ _) fun vs => h.call (fun hc => hc.1.2) And.right
  case construct callee args =>
    refine J.bind (h.eval _ _) fun f => J.bind (h.evalElements _ _) fun vs => ?_
    split
    · refine J.bind (h.call (fun hc => hc.1.2) And.right) fun v => ?_
      exact J.tame (.constructed v) fun hc => .constructed hc.2
    · exact J.typeError _
  case unary op operand => exact h.evalUnary _ _ _
  case update increment before target =>
    refine J.bind (h.eval _ _) fun v => J.bind (J.number v) fun old => ?_
    refine J.bind (h.assign target (fun _ => Value.all_number _) _) fun _ => ?_
    exact J.pure fun _ => trivial
  case binary op left right =>
    refine J.bind (h.eval _ _) fun a => J.bind (h.eval _ _) fun b => ?_
    exact J.tame (.binary op a b) fun _ => .binary op a b
  case logical op left right =>
    refine J.bind (h.eval _ _) fun a => ?_
    split
    · exact J.pure And.right
    · exact h.eval _ _
  case conditional test yes no =>
    refine J.bind (h.eval _ _) fun t => ?_
    split
    · exact h.eval _ _
    · exact h.eval _ _
  case assign op target value =>
    refine J.bind (h.eval _ _) fun v => ?_
    cases compound? op with
    | none => exact J.bind (h.assign target And.right _) fun _ => J.pure fun hc => hc.1.2
    | some op =>
      refine J.bind (h.eval _ _) fun old => ?_
      refine J.bind (J.tame (.binary op old v) fun _ => .binary op old v) fun new => ?_
      exact J.bind (h.assign target And.right _) fun _ => J.pure fun hc => hc.1.2
  case await e => exact h.eval _ _
  all_goals exact J.pure fun _ => trivial

theorem walked_evalTemplate (parts : List TemplatePart) (scope : Nat) :
    J.Holds o c Anything
      (evalTemplate (n + 1) parts scope) (evalTemplate (k + 1) parts scope) := by
  rcases parts with _ | ⟨s | e, rest⟩
  · simp only [evalTemplate]
    exact J.pure fun _ => trivial
  · rw [evalTemplate, evalTemplate]
    exact J.bind (h.evalTemplate _ _) fun _ => J.pure fun _ => trivial
  · rw [evalTemplate, evalTemplate]
    refine J.bind (h.eval _ _) fun v => J.bind (J.display v) fun s => ?_
    exact J.bind (h.evalTemplate _ _) fun _ => J.pure fun _ => trivial

theorem walked_evalElements (items : List Element) (scope : Nat) :
    J.Holds o c (AllValues J.handles)
      (evalElements (n + 1) items scope) (evalElements (k + 1) items scope) := by
  rcases items with _ | ⟨e | e, rest⟩
  · simp only [evalElements]
    exact J.pure fun _ => allValues_nil
  · rw [evalElements, evalElements]
    refine J.bind (h.eval _ _) fun v => J.bind (h.evalElements _ _) fun vs => ?_
    exact J.pure fun hc => hc.2.cons hc.1.2
  · rw [evalElements, evalElements]
    refine J.bind (h.eval _ _) fun v => J.bind (J.iterate v) fun ws => ?_
    exact J.bind (h.evalElements _ _) fun vs => J.pure fun hc => hc.1.2.append hc.2

theorem walked_evalProperties (properties : List Property) (scope : Nat) :
    J.Holds o c (Dict.Holds (Value.All J.handles))
      (evalProperties (n + 1) properties scope) (evalProperties (k + 1) properties scope) := by
  rcases properties with _ | ⟨⟨key, e⟩ | ⟨key, e⟩ | e, rest⟩
  · simp only [evalProperties]
    exact J.pure fun _ => Dict.holds_nil
  · rw [evalProperties, evalProperties]
    refine J.bind (h.eval _ _) fun v => J.bind (h.evalProperties _ _) fun members => ?_
    exact J.pure fun hc => Dict.holds_cons hc.1.2 hc.2
  · rw [evalProperties, evalProperties]
    refine J.bind (h.eval _ _) fun w => J.bind (J.display w) fun name => ?_
    refine J.bind (h.eval _ _) fun v => J.bind (h.evalProperties _ _) fun members => ?_
    exact J.pure fun hc => Dict.holds_cons hc.1.2 hc.2
  · rw [evalProperties, evalProperties]
    refine J.bind (h.eval _ _) fun v => ?_
    refine J.bind (J.heap fun _ hh => Keeps.holds_entries hh v) fun own => ?_
    exact J.bind (h.evalProperties _ _) fun members => J.pure fun hc => hc.1.2.append hc.2

theorem walked_evalUnary (op : UnaryOp) (operand : Expr) (scope : Nat) :
    J.Holds o c (Value.All J.handles)
      (evalUnary (n + 1) op operand scope) (evalUnary (k + 1) op operand scope) := by
  cases op with
  | typeof =>
    cases operand <;> simp only [evalUnary]
    case ident name =>
      refine J.bind (J.lookup? scope name) fun found => ?_
      cases found <;> exact J.pure fun _ => trivial
    all_goals exact J.bind (h.eval _ _) fun _ => J.pure fun _ => trivial
  | delete =>
    cases operand <;> simp only [evalUnary]
    case member object name _ =>
      refine J.bind (h.eval _ _) fun v => ?_
      cases v with
      | object ref =>
        refine J.bind (J.tame (.modifyHeap _) fun _ => .modifyHeap fun _ hh => ?_) fun _ =>
          J.pure fun _ => trivial
        exact hh.modifyObject ((hh.object ref).erase name)
      | _ => exact J.pure fun _ => trivial
    all_goals exact J.pure fun _ => trivial
  | not =>
    rw [evalUnary, evalUnary]
    exact J.bind (h.eval _ _) fun _ => J.pure fun _ => trivial
  | neg =>
    rw [evalUnary, evalUnary]
    exact J.bind (h.eval _ _) fun v => J.bind (J.number v) fun _ => J.pure fun _ => trivial
  | plus =>
    rw [evalUnary, evalUnary]
    exact J.bind (h.eval _ _) fun v => J.bind (J.number v) fun _ => J.pure fun _ => trivial
  | void =>
    rw [evalUnary, evalUnary]
    exact J.bind (h.eval _ _) fun _ => J.pure fun _ => trivial

theorem walked_assign (target : Expr) {v : Value} (hv : c → v.All J.handles) (scope : Nat) :
    J.Holds o c Anything (assign (n + 1) target v scope) (assign (k + 1) target v scope) := by
  cases target <;> simp only [assign]
  case ident name => exact J.assignName hv _ _
  case member object name _ =>
    exact J.bind (h.eval _ _) fun w => J.setProperty w (fun hc => hv hc.1) name
  case index object key _ =>
    refine J.bind (h.eval _ _) fun w => J.bind (h.eval _ _) fun key => ?_
    exact J.bind (J.display key) fun name => J.setProperty w (fun hc => hv hc.1.1.1) name
  all_goals exact J.tame (.syntaxError _) fun _ => .syntaxError _

/-! ### Calls -/

theorem walked_call {f : Value} {args : List Value} (hf : c → f.All J.handles)
    (hargs : c → AllValues J.handles args) :
    J.Holds o c (Value.All J.handles) (call (n + 1) f args) (call (k + 1) f args) := by
  cases f <;> simp only [call] <;> refine J.afterStep ?_
  case closure ref =>
    refine J.bind (J.heap (Q := Anything) fun _ _ => trivial) fun closure => ?_
    cases closure with
    | none => exact J.pure fun _ => trivial
    | some closure => exact h.callClosure closure fun hc => hargs hc.1
  case builtin b => exact J.bind (J.callBuiltin hargs b) fun r => h.settle And.right
  case method object name =>
    have hobject : c → object.All J.handles := hf
    exact h.callMethod hobject hargs name
  all_goals exact J.bind (J.display _) fun _ => J.typeError _

theorem walked_settle {r : Reply} (hr : c → r.All J.handles) :
    J.Holds o c (Value.All J.handles) (settle (n + 1) r) (settle (k + 1) r) := by
  cases r with
  | value v =>
    simp only [settle]
    exact J.pure hr
  | callback callee args s =>
    rw [settle, settle]
    refine J.bind (h.call (fun hc => (hr hc).1) fun hc => (hr hc).2.1) fun result => ?_
    exact J.pure fun hc => (hr hc.1).2.2 result hc.2

/-- Parameters are declared in a scope that is opened for the call. -/
theorem walked_callClosure (closure : Closure) {args : List Value}
    (hargs : c → AllValues J.handles args) :
    J.Holds o c (Value.All J.handles)
      (callClosure (n + 1) closure args) (callClosure (k + 1) closure args) := by
  rw [callClosure, callClosure]
  refine J.opening fun scope => J.bind (h.bindParams _ _ hargs _) fun _ => ?_
  cases closure.function.body with
  | expr e => exact h.eval _ _
  | block body =>
    refine J.bind (h.execBlock _ _) fun completion => ?_
    cases completion with
    | returned v => exact J.pure And.right
    | _ => exact J.pure fun _ => trivial

theorem walked_bindParams (params : List Param) (i : Nat) {args : List Value}
    (hargs : c → AllValues J.handles args) (scope : Nat) :
    J.Holds (some scope) c Anything
      (bindParams (n + 1) params i args scope) (bindParams (k + 1) params i args scope) := by
  rcases params with _ | ⟨⟨pattern, default, rest⟩, params⟩
  · simp only [bindParams]
    exact J.pure fun _ => trivial
  · rw [bindParams, bindParams]
    refine J.bind (J.itemAt hargs i rest) fun v => ?_
    refine J.bind (h.withDefault And.right default scope) fun v => ?_
    refine J.bind (h.bind pattern And.right scope true) fun _ => ?_
    exact h.bindParams _ _ (fun hc => hargs hc.1.1.1) _

theorem walked_withDefault {v : Value} (hv : c → v.All J.handles) (default : Option Expr)
    (scope : Nat) :
    J.Holds o c (Value.All J.handles)
      (withDefault (n + 1) v default scope) (withDefault (k + 1) v default scope) := by
  cases default <;> rw [withDefault, withDefault]
  case none => exact J.pure hv
  case some e =>
    split
    · exact h.eval _ _
    · exact J.pure hv

theorem walked_callMethod {this : Value} {args : List Value} (hthis : c → this.All J.handles)
    (hargs : c → AllValues J.handles args) (name : String) :
    J.Holds o c (Value.All J.handles)
      (callMethod (n + 1) this name args) (callMethod (k + 1) this name args) := by
  unfold callMethod
  cases this <;> dsimp only
  case handle hd => exact J.bind (J.invoke hthis hargs name) fun r => h.settle And.right
  case array ref =>
    cases Visit.ofName? name with
    | some visit =>
      dsimp only
      split
      · refine J.bind (Q := AllValues J.handles) (J.heap fun _ hh => hh.array ref) fun items => ?_
        exact h.visitItems visit (fun hc => (hargs hc.1).argument 0) And.right
          (fun _ => allValues_nil) _ _
      · exact J.bind (J.display _) fun _ => J.typeError _
    | none =>
      dsimp only
      split
      · exact h.reduceArray _ hargs
      · exact J.tame (.arrayMethod ref name args) fun hc => .arrayMethod ref name (hargs hc)
  case string s => exact J.tame (.stringMethod s name args) fun _ => .stringMethod s name args
  case number x => exact J.tame (.numberMethod x name args) fun _ => .numberMethod x name args
  case object ref =>
    split
    · cases args with
      | nil => exact J.pure fun _ => trivial
      | cons key _ => exact J.bind (J.display _) fun _ => J.heap fun _ _ => trivial
    · split
      · exact J.bind (J.display _) fun _ => J.pure fun _ => trivial
      · exact J.typeError _
  all_goals
    split
    · exact J.bind (J.display _) fun _ => J.pure fun _ => trivial
    · exact J.typeError _

theorem walked_visitItems (visit : Visit) {callback : Value} {items kept : List Value}
    (hcallback : c → callback.All J.handles) (hitems : c → AllValues J.handles items)
    (hkept : c → AllValues J.handles kept) (ref i : Nat) :
    J.Holds o c (Value.All J.handles) (visitItems (n + 1) visit callback ref items i kept)
      (visitItems (k + 1) visit callback ref items i kept) := by
  cases items with
  | nil =>
    simp only [visitItems]
    exact J.tame (.finish visit _) fun hc => .finish (hkept hc).reverse
  | cons item rest =>
    have hargs (hc : c) : AllValues J.handles [item, .number (Float.ofNat i), .array ref] :=
      ((allValues_nil.cons (Value.all_array ref)).cons (Value.all_number _)).cons (hitems hc).head
    rw [visitItems, visitItems]
    refine J.bind (h.call hcallback hargs) fun answer => ?_
    cases hdecided : visit.decided? i item answer with
    | some result => exact J.pure fun hc => Visit.all_decided (hitems hc.1).head hdecided
    | none =>
      refine h.visitItems visit (fun hc => hcallback hc.1) (fun hc => (hitems hc.1).tail)
        (fun hc => ?_) _ _
      exact (Visit.all_kept (hitems hc.1).head hc.2).append (hkept hc.1)

theorem walked_reduceArray (ref : Nat) {args : List Value} (hargs : c → AllValues J.handles args) :
    J.Holds o c (Value.All J.handles)
      (reduceArray (n + 1) ref args) (reduceArray (k + 1) ref args) := by
  rw [reduceArray, reduceArray]
  refine J.bind (J.heap fun _ hh => hh.array ref) fun items => ?_
  dsimp only
  cases hstart : args[1]? with
  | some start =>
    exact h.reduceItems (fun hc => (hargs hc.1).argument 0) And.right
      (fun hc => hargs hc.1 start (List.mem_of_getElem? hstart)) _ _
  | none =>
    cases items with
    | nil => exact J.typeError _
    | cons first rest =>
      exact h.reduceItems (fun hc => (hargs hc.1).argument 0) (fun hc => hc.2.tail)
        (fun hc => hc.2.head) _ _

theorem walked_reduceItems {callback : Value} {items : List Value} {acc : Value}
    (hcallback : c → callback.All J.handles) (hitems : c → AllValues J.handles items)
    (hacc : c → acc.All J.handles) (ref i : Nat) :
    J.Holds o c (Value.All J.handles) (reduceItems (n + 1) callback ref items i acc)
      (reduceItems (k + 1) callback ref items i acc) := by
  cases items with
  | nil =>
    simp only [reduceItems]
    exact J.pure hacc
  | cons item rest =>
    have hargs (hc : c) : AllValues J.handles [acc, item, .number (Float.ofNat i), .array ref] :=
      (((allValues_nil.cons (Value.all_array ref)).cons (Value.all_number _)).cons
        (hitems hc).head).cons (hacc hc)
    rw [reduceItems, reduceItems]
    refine J.bind (h.call hcallback hargs) fun acc => ?_
    exact h.reduceItems (fun hc => hcallback hc.1) (fun hc => (hitems hc.1).tail) And.right _ _

/-! ### Patterns -/

theorem walked_bind (pattern : Pattern) {v : Value} (hv : c → v.All J.handles) (scope : Nat)
    (mutable : Bool) :
    J.Holds (some scope) c Anything
      (bind (n + 1) pattern v scope mutable) (bind (k + 1) pattern v scope mutable) := by
  unfold bind
  cases pattern <;> dsimp only
  case ident name => exact J.declare hv _ _ _
  case object bindings rest =>
    split
    · exact J.bind (J.display v) fun _ => J.typeError _
    · refine J.bind (h.bindMembers _ hv _ _) fun _ => ?_
      cases rest with
      | none => exact J.pure fun _ => trivial
      | some name =>
        refine J.bind (J.heap fun _ hh => Keeps.holds_remaining hh v bindings) fun others => ?_
        exact J.bind (J.newObject And.right) fun o => J.declare And.right _ _ _
  case array items => exact J.bind (J.iterate v) fun vs => h.bindItems _ _ And.right _ _

theorem walked_bindMembers (bindings : List Binding) {v : Value} (hv : c → v.All J.handles)
    (scope : Nat) (mutable : Bool) :
    J.Holds (some scope) c Anything (bindMembers (n + 1) bindings v scope mutable)
      (bindMembers (k + 1) bindings v scope mutable) := by
  rcases bindings with _ | ⟨⟨key, target, default⟩, rest⟩
  · simp only [bindMembers]
    exact J.pure fun _ => trivial
  · rw [bindMembers, bindMembers]
    refine J.bind (J.getProperty hv key) fun item => ?_
    refine J.bind (h.withDefault And.right default scope) fun item => ?_
    refine J.bind (h.bind target And.right scope mutable) fun _ => ?_
    exact h.bindMembers _ (fun hc => hv hc.1.1.1) _ _

theorem walked_bindItems (items : List (Option Param)) (i : Nat) {vs : List Value}
    (hvs : c → AllValues J.handles vs) (scope : Nat) (mutable : Bool) :
    J.Holds (some scope) c Anything (bindItems (n + 1) items i vs scope mutable)
      (bindItems (k + 1) items i vs scope mutable) := by
  rcases items with _ | ⟨_ | ⟨pattern, default, rest⟩, items⟩
  · simp only [bindItems]
    exact J.pure fun _ => trivial
  · rw [bindItems, bindItems]
    exact h.bindItems _ _ hvs _ _
  · rw [bindItems, bindItems]
    refine J.bind (J.itemAt hvs i rest) fun item => ?_
    refine J.bind (h.withDefault And.right default scope) fun item => ?_
    refine J.bind (h.bind pattern And.right scope mutable) fun _ => ?_
    exact h.bindItems _ _ (fun hc => hvs hc.1.1.1) _ _

/-! ### Statements -/

/-- What becomes of an attempt and its handler, once the finalizer has been executed. -/
theorem walked_finalizer (finalizer : Option (List Stmt)) (scope : Nat)
    {result : Except Value Completion}
    (hresult : c → Follows.Attempted J.handles (Completion.All J.handles) result) :
    J.Holds o c (Completion.All J.handles) (match finalizer with
      | some finalizer => do
        let inner ← openScope scope
        match ← execBlock n finalizer inner with
        | .normal => resume result
        | other => return other
      | none => resume result)
      (match finalizer with
      | some finalizer => do
        let inner ← openScope scope
        match ← execBlock k finalizer inner with
        | .normal => resume result
        | other => return other
      | none => resume result) := by
  cases finalizer with
  | none => exact J.resume hresult
  | some finalizer =>
    refine J.opening fun inner => J.bind (h.execBlock _ _) fun completion => ?_
    cases completion with
    | normal => exact J.resume fun hc => hresult hc.1
    | _ => exact J.pure And.right

theorem walked_exec (s : Stmt) (scope : Nat) :
    J.Holds (some scope) c (Completion.All J.handles)
      (exec (n + 1) s scope) (exec (k + 1) s scope) := by
  unfold exec
  refine J.afterStep ?_
  rcases s with e | ⟨kind, declarations⟩ | f | (_ | e) | ⟨test, yes, no⟩ |
    ⟨kind, pattern, iterable, body⟩ | ⟨init, test, update, body⟩ | ⟨test, body⟩ | _ | _ | e |
    ⟨block, param, handler, finalizer⟩ | body | _ <;> dsimp only
  case expr => exact J.bind (h.eval _ _) fun _ => J.pure fun _ => trivial
  case declare => exact J.bind (h.execDeclarations _ _ _) fun _ => J.pure fun _ => trivial
  case ret.some => exact J.bind (h.eval _ _) fun v => J.pure And.right
  case ifElse =>
    refine J.bind (h.eval _ _) fun t => ?_
    split
    · exact h.execScoped _ _
    · cases no with
      | none => exact J.pure fun _ => trivial
      | some no => exact h.execScoped _ _
  case forOf =>
    refine J.bind (h.eval _ _) fun v => J.bind (J.iterate v) fun items => ?_
    exact h.execForOf _ _ _ And.right _
  case forLoop =>
    refine J.opening fun inner => ?_
    cases init with
    | none => exact h.execFor _ _ _ _
    | some s => exact J.bind (h.exec _ _) fun _ => h.execFor _ _ _ _
  case whileLoop => exact h.execWhile _ _ _
  case throw => exact J.bind (h.eval _ _) fun v => J.throwValue And.right
  case attempt =>
    refine J.opening fun inner => J.bind (J.attempt (h.execBlock block inner)) fun first => ?_
    cases first with
    | ok completion => exact walked_finalizer h finalizer scope And.right
    | error thrown =>
      cases handler with
      | none => exact walked_finalizer h finalizer scope And.right
      | some handler =>
        refine J.bind (h.execHandler param And.right handler scope) fun result => ?_
        exact walked_finalizer h finalizer scope And.right
  case block => exact J.opening fun inner => h.execBlock _ _
  all_goals exact J.pure fun _ => trivial

theorem walked_execHandler (param : Option Pattern) {thrown : Value}
    (hthrown : c → thrown.All J.handles) (handler : List Stmt) (scope : Nat) :
    J.Holds o c (Follows.Attempted J.handles (Completion.All J.handles))
      (execHandler (n + 1) param thrown handler scope)
      (execHandler (k + 1) param thrown handler scope) := by
  unfold execHandler
  refine J.opening fun inner => ?_
  cases param with
  | none => exact J.attempt (h.execBlock _ _)
  | some pattern => exact J.bind (h.bind _ hthrown _ _) fun _ => J.attempt (h.execBlock _ _)

theorem walked_execDeclarations (declarations : List Declarator) (scope : Nat) (mutable : Bool) :
    J.Holds (some scope) c Anything (execDeclarations (n + 1) declarations scope mutable)
      (execDeclarations (k + 1) declarations scope mutable) := by
  rcases declarations with _ | ⟨⟨pattern, _ | e⟩, rest⟩
  · simp only [execDeclarations]
    exact J.pure fun _ => trivial
  · unfold execDeclarations
    refine J.bind (J.pure (Q := Value.All J.handles) fun _ => Value.all_undefined) fun v => ?_
    exact J.bind (h.bind _ And.right _ _) fun _ => h.execDeclarations _ _ _
  · unfold execDeclarations
    refine J.bind (h.eval _ _) fun v => J.bind (h.bind _ And.right _ _) fun _ => ?_
    exact h.execDeclarations _ _ _

theorem walked_execScoped (s : Stmt) (scope : Nat) :
    J.Holds (some scope) c (Completion.All J.handles)
      (execScoped (n + 1) s scope) (execScoped (k + 1) s scope) := by
  unfold execScoped
  cases s <;> dsimp only
  case block body => exact J.opening fun inner => h.execBlock _ _
  all_goals exact h.exec _ _

theorem walked_execBlock (body : List Stmt) (scope : Nat) :
    J.Holds (some scope) c (Completion.All J.handles)
      (execBlock (n + 1) body scope) (execBlock (k + 1) body scope) := by
  unfold execBlock
  exact J.bind (J.hoist scope body) fun _ => h.execAll _ _

theorem walked_execAll (body : List Stmt) (scope : Nat) :
    J.Holds (some scope) c (Completion.All J.handles)
      (execAll (n + 1) body scope) (execAll (k + 1) body scope) := by
  cases body with
  | nil =>
    simp only [execAll]
    exact J.pure fun _ => trivial
  | cons s rest =>
    unfold execAll
    refine J.bind (h.exec _ _) fun completion => ?_
    cases completion with
    | normal => exact h.execAll _ _
    | _ => exact J.pure And.right

/-- A round of a loop, and what comes after it unless it leaves the loop. -/
theorem walked_round (body : Stmt) (scope : Nat) {x y : Eval Completion}
    (hxy : J.Holds (some scope) c (Completion.All J.handles) x y) :
    J.Holds (some scope) c (Completion.All J.handles)
      (do
        match (← execScoped n body scope).leaves? with
        | some completion => return completion
        | none => x)
      (do
        match (← execScoped k body scope).leaves? with
        | some completion => return completion
        | none => y) := by
  refine J.bind (h.execScoped _ _) fun completion => ?_
  cases hleaves : completion.leaves? with
  | none => exact J.imp hxy And.left
  | some left => exact J.pure fun hc => Completion.all_leaves hc.2 hleaves

theorem walked_execForOf (pattern : Pattern) (mutable : Bool) (body : Stmt) {items : List Value}
    (hitems : c → AllValues J.handles items) (scope : Nat) :
    J.Holds o c (Completion.All J.handles) (execForOf (n + 1) pattern mutable body items scope)
      (execForOf (k + 1) pattern mutable body items scope) := by
  cases items with
  | nil =>
    simp only [execForOf]
    exact J.pure fun _ => trivial
  | cons item rest =>
    unfold execForOf
    refine J.opening fun inner => ?_
    refine J.bind (h.bind _ (fun hc => (hitems hc).head) _ _) fun _ => ?_
    refine walked_round h body inner ?_
    exact h.execForOf pattern mutable body (fun hc => (hitems hc.1).tail) scope

/-- The update of a loop, and what comes after it. -/
theorem walked_update (update : Option Expr) (scope : Nat) {x y : Eval Completion}
    (hxy : J.Holds (some scope) c (Completion.All J.handles) x y) :
    J.Holds (some scope) c (Completion.All J.handles)
      (do
        match update with
        | some e =>
          let _ ← eval n e scope
        | none => pure ()
        x)
      (do
        match update with
        | some e =>
          let _ ← eval k e scope
        | none => pure ()
        y) := by
  cases update with
  | none => exact hxy
  | some e => exact J.bind (h.eval e scope) fun _ => J.imp hxy And.left

theorem walked_execFor (test update : Option Expr) (body : Stmt) (scope : Nat) :
    J.Holds (some scope) c (Completion.All J.handles)
      (execFor (n + 1) test update body scope) (execFor (k + 1) test update body scope) := by
  have hrest := walked_update (c := c) h update scope (h.execFor test update body scope)
  have hround := walked_round h body scope hrest
  unfold execFor
  cases test with
  | none => exact hround
  | some e =>
    refine J.bind (h.eval e scope) fun t => ?_
    cases ht : t.truthy with
    | true => exact J.imp hround And.left
    | false => exact J.pure fun _ => trivial

theorem walked_execWhile (test : Expr) (body : Stmt) (scope : Nat) :
    J.Holds (some scope) c (Completion.All J.handles)
      (execWhile (n + 1) test body scope) (execWhile (k + 1) test body scope) := by
  unfold execWhile
  refine J.bind (h.eval _ _) fun t => ?_
  split
  · exact J.pure fun _ => trivial
  · exact walked_round h body scope (h.execWhile test body scope)

end Step

/-! ### All fuels -/

theorem Walked.succ (h : Walked J n k) : Walked J (n + 1) (k + 1) where
  eval := walked_eval h
  evalTemplate := walked_evalTemplate h
  evalElements := walked_evalElements h
  evalProperties := walked_evalProperties h
  evalUnary := walked_evalUnary h
  assign := walked_assign h
  call := walked_call h
  settle := walked_settle h
  callClosure := walked_callClosure h
  bindParams := walked_bindParams h
  withDefault := walked_withDefault h
  callMethod := walked_callMethod h
  visitItems := walked_visitItems h
  reduceArray := walked_reduceArray h
  reduceItems := walked_reduceItems h
  bind := walked_bind h
  bindMembers := walked_bindMembers h
  bindItems := walked_bindItems h
  exec := walked_exec h
  execHandler := walked_execHandler h
  execDeclarations := walked_execDeclarations h
  execScoped := walked_execScoped h
  execBlock := walked_execBlock h
  execAll := walked_execAll h
  execForOf := walked_execForOf h
  execFor := walked_execFor h
  execWhile := walked_execWhile h

/-- **A judgement holds of evaluation**, with more fuel on the right than on the left. -/
theorem Walked.all : ∀ {n k : Nat}, n ≤ k → Walked J n k
  | 0, k, _ => .zero k
  | _ + 1, _ + 1, h => (Walked.all (Nat.le_of_succ_le_succ h)).succ

/-! ### Following -/

variable {style : Style} {p : Handle → Prop} {R : Link}

/-- The judgement that a computation follows another one. -/
def Upholds.following (hU : Upholds style p R) : Judgement where
  handles := p
  link := R
  suits := hU.toSuits
  Holds _ c Q x y := c → Follows p R Q x y
  imp hx h hc := hx (h hc)
  exhausted _ := .exhausted
  bind hx hf hc := (hx hc).bind fun a ha => hf a ⟨hc, ha⟩
  attempt hx hc := (hx hc).attempt
  tame _ hx hc := hx hc
  step _ := Keeps.step
  opening hf hc := (Keeps.openScope _).follows.bind fun inner _ => hf inner hc
  lookup? scope name _ := Keeps.lookup? scope name
  declare hv scope name mutable hc := Keeps.declare (hv hc) scope name mutable
  assignName hv scope name hc := Keeps.assignName (hv hc) scope name
  callBuiltin hargs b hc := hU.callBuiltin b (hargs hc)
  invoke hh hargs method hc := hU.invoke (hh hc) method (hargs hc)

/-- **With more fuel evaluation follows itself with less fuel**, whatever the two browsers have in
common, as long as the style admits it. -/
theorem Upholds.along (hU : Upholds style p R) {n k : Nat} (hle : n ≤ k) : Along p R n k := by
  have h : Walked hU.following n k := .all hle
  exact {
    eval := fun e scope => h.eval (o := none) e scope trivial
    evalTemplate := fun parts scope => h.evalTemplate (o := none) parts scope trivial
    evalElements := fun items scope => h.evalElements (o := none) items scope trivial
    evalProperties := fun properties scope => h.evalProperties (o := none) properties scope trivial
    evalUnary := fun op operand scope => h.evalUnary (o := none) op operand scope trivial
    assign := fun target _ hv scope => h.assign (o := none) target (fun _ => hv) scope trivial
    call := fun hf hargs => h.call (o := none) (fun _ => hf) (fun _ => hargs) trivial
    settle := fun hr => h.settle (o := none) (fun _ => hr) trivial
    callClosure := fun f _ hargs => h.callClosure (o := none) f (fun _ => hargs) trivial
    bindParams := fun params i _ hargs scope => h.bindParams params i (fun _ => hargs) scope trivial
    withDefault := fun hv default scope =>
      h.withDefault (o := none) (fun _ => hv) default scope trivial
    callMethod := fun hthis hargs name =>
      h.callMethod (o := none) (fun _ => hthis) (fun _ => hargs) name trivial
    visitItems := fun visit _ _ _ hcallback hitems hkept ref i =>
      h.visitItems (o := none) visit (fun _ => hcallback) (fun _ => hitems) (fun _ => hkept) ref i
        trivial
    reduceArray := fun ref _ hargs => h.reduceArray (o := none) ref (fun _ => hargs) trivial
    reduceItems := fun hcallback hitems hacc ref i =>
      h.reduceItems (o := none) (fun _ => hcallback) (fun _ => hitems) (fun _ => hacc) ref i trivial
    bind := fun pattern _ hv scope mutable => h.bind pattern (fun _ => hv) scope mutable trivial
    bindMembers := fun bindings _ hv scope mutable =>
      h.bindMembers bindings (fun _ => hv) scope mutable trivial
    bindItems := fun items i _ hvs scope mutable =>
      h.bindItems items i (fun _ => hvs) scope mutable trivial
    exec := fun s scope => h.exec s scope trivial
    execHandler := fun param _ hthrown handler scope =>
      h.execHandler (o := none) param (fun _ => hthrown) handler scope trivial
    execDeclarations := fun declarations scope mutable =>
      h.execDeclarations declarations scope mutable trivial
    execScoped := fun s scope => h.execScoped s scope trivial
    execBlock := fun body scope => h.execBlock body scope trivial
    execAll := fun body scope => h.execAll body scope trivial
    execForOf := fun pattern mutable body _ hitems scope =>
      h.execForOf (o := none) pattern mutable body (fun _ => hitems) scope trivial
    execFor := fun test update body scope => h.execFor test update body scope trivial
    execWhile := fun test body scope => h.execWhile test body scope trivial }

end BrowserLab.Script
