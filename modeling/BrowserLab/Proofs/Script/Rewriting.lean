import BrowserLab.Proofs.Dict
import BrowserLab.Proofs.Script.ComesTo

/-!
# Properties that are read and written

An assignment that operates on the old value, and an update, read a property and write it.  The
property is named by expressions, which `PropertyExpr.locate` evaluates once.

* `properties_located_twice`: the property is located once to read it and once more to write it, and
  no other property is written.
-/

namespace BrowserLab.Script

open Eval

/-- An expression that names a property: by an object and a name, or by an object and a key. -/
inductive PropertyExpr where
  | member (object : Expr) (name : String)
  | index (object key : Expr)

namespace PropertyExpr

def expr : PropertyExpr → Expr
  | member object name => .member object name false
  | index object key => .index object key false

/-- Evaluates the expressions within, each of them once, to the value that has the property and the
name of the property. -/
def locate (fuel scope : Nat) : PropertyExpr → Eval (Value × String)
  | member object name => do
    let o ← eval fuel object scope
    return (o, name)
  | index object key => do
    let o ← eval fuel object scope
    let k ← eval fuel key scope
    return (o, ← display k)

end PropertyExpr

variable {target : PropertyExpr} {scope : Nat} {m m' : Machine}

theorem steady_locate (target : PropertyExpr) (scope : Nat) :
    Steady fun n => target.locate n scope := by
  cases target with
  | member object name => exact (steady_eval object scope).bind fun o => .const (pure (o, name))
  | index object key =>
    exact (steady_eval object scope).bind fun o => (steady_eval key scope).bind fun k =>
      .const (display k >>= fun name => pure (o, name))

theorem eval_propertyExpr (n : Nat) : eval (n + 1) target.expr scope =
    step >>= fun _ => target.locate n scope >>= fun p => getProperty p.1 p.2 := by
  cases target <;> simp [PropertyExpr.expr, PropertyExpr.locate, eval]

theorem assign_propertyExpr (n : Nat) (v : Value) : assign (n + 1) target.expr v scope =
    target.locate n scope >>= fun p => setProperty p.1 p.2 v := by
  cases target <;> simp [PropertyExpr.expr, PropertyExpr.locate, assign]

theorem runOn_getProperty_ok {o v : Value} {key : String}
    (h : (getProperty o key).runOn m = (.ok v, m')) : m' = m := by
  unfold getProperty at h
  rw [runOn_bind_ok (show (Eval.heap id).runOn m = (.ok m.heap, m) from rfl)] at h
  cases o with
  | undefined => cases h
  | null => cases h
  | number x =>
    dsimp only at h
    split at h <;> cases h <;> rfl
  | _ =>
    cases h
    rfl

/-- A property is read where it has been located. -/
theorem comesTo_eval_propertyExpr {v : Value} :
    ComesTo (eval · target.expr scope) m (.ok v) m' ↔
      ∃ m₀ p, m.takeStep = (true, m₀) ∧ ComesTo (target.locate · scope) m₀ (.ok p) m' ∧
        (getProperty p.1 p.2).runOn m' = (.ok v, m') := by
  rw [comesTo_succ (by rw [eval])]
  simp only [eval_propertyExpr]
  rw [comesTo_step]
  refine exists_congr fun m₀ => ?_
  rw [comesTo_bind_ok (steady_locate target scope) fun p => .const (getProperty p.1 p.2)]
  simp only [comesTo_const_ok]
  constructor
  · rintro ⟨hstep, p, m₁, hlocate, hget⟩
    obtain rfl := runOn_getProperty_ok hget
    exact ⟨p, hstep, hlocate, hget⟩
  · rintro ⟨p, hstep, hlocate, hget⟩
    exact ⟨hstep, p, m', hlocate, hget⟩

/-- A property is written where it has been located. -/
theorem comesTo_assign_propertyExpr {v : Value} :
    ComesTo (assign · target.expr v scope) m (.ok ()) m' ↔
      ∃ m₁ p, ComesTo (target.locate · scope) m (.ok p) m₁ ∧
        (setProperty p.1 p.2 v).runOn m₁ = (.ok (), m') := by
  rw [comesTo_succ (by rw [assign])]
  simp only [assign_propertyExpr]
  rw [comesTo_bind_ok (steady_locate target scope) fun p => .const (setProperty p.1 p.2 v)]
  simp only [comesTo_const_ok]
  exact exists_comm

/-! ### What is written -/

theorem Heap.object_modifyObject (h : Heap) (ref r : Nat) (f : Dict Value → Dict Value) :
    (h.modifyObject ref f).object r =
      if ref = r ∧ r < h.objects.size then f (h.object r) else h.object r := by
  simp only [Heap.modifyObject, Heap.object, Array.getD_eq_getD_getElem?, Array.getElem?_modify]
  by_cases href : ref = r
  · by_cases hr : r < h.objects.size <;> simp [href, hr]
  · simp [href]

theorem Heap.array_modifyArray (h : Heap) (ref r : Nat) (f : Array Value → Array Value) :
    (h.modifyArray ref f).array r =
      if ref = r ∧ r < h.arrays.size then f (h.array r) else h.array r := by
  simp only [Heap.modifyArray, Heap.array, Array.getD_eq_getD_getElem?, Array.getElem?_modify]
  by_cases href : ref = r
  · by_cases hr : r < h.arrays.size <;> simp [href, hr]
  · simp [href]

theorem getElem?_setItem (items : Array Value) (i : Nat) (v : Value) :
    (setItem items i v)[i]? = some v := by
  unfold setItem
  split
  · simp [*]
  · have hsize : (items ++ Array.replicate (i - items.size) Value.undefined).size = i := by
      simp only [Array.size_append, Array.size_replicate]
      omega
    rw [Array.getElem?_push, if_pos hsize.symm]

theorem getD_setItem (items : Array Value) {i j : Nat} (v : Value) (hj : j ≠ i) :
    (setItem items i v).getD j .undefined = items.getD j .undefined := by
  simp only [Array.getD_eq_getD_getElem?]
  unfold setItem
  split
  · rw [Array.getElem?_setIfInBounds_ne (Ne.symm hj)]
  · have hsize : (items ++ Array.replicate (i - items.size) Value.undefined).size = i := by
      simp only [Array.size_append, Array.size_replicate]
      omega
    rw [Array.getElem?_push, if_neg (by omega), Array.getElem?_append]
    split
    · rfl
    · grind

theorem size_setItem (items : Array Value) (i : Nat) (v : Value) :
    (setItem items i v).size = max items.size (i + 1) := by
  unfold setItem
  split <;> simp <;> omega

/-- The property of a value is written, and no other property of an array or an object.  What has no
properties of its own is left as it is, and an array grows as far as the item that is written. -/
structure Machine.Writes (m : Machine) (o : Value) (key : String) (v : Value) (m' : Machine) :
    Prop where
  heap : m' = { m with heap := ⟨m'.heap.arrays, m'.heap.objects, m.heap.closures⟩ }
  present : o.isNullish = false
  member : ∀ ref, o = .object ref → ref < m.heap.objects.size →
    (m'.heap.object ref).get? key = some v
  members : ∀ ref name, ¬ (o = .object ref ∧ name = key) →
    (m'.heap.object ref).get? name = (m.heap.object ref).get? name
  item : ∀ ref i, o = .array ref → ref < m.heap.arrays.size → Number.readIndex? key = some i →
    (m'.heap.array ref)[i]? = some v
  items : ∀ ref i, ¬ (o = .array ref ∧ Number.readIndex? key = some i) →
    (m'.heap.array ref).getD i .undefined = (m.heap.array ref).getD i .undefined
  size : ∀ ref, (m'.heap.array ref).size = (m.heap.array ref).size ∨
    ∃ i, o = .array ref ∧ Number.readIndex? key = some i ∧
      (m'.heap.array ref).size = max (m.heap.array ref).size (i + 1)

namespace Machine.Writes

variable {o v : Value} {key : String}

theorem nothing (hpresent : o.isNullish = false) (hobject : ∀ ref, o ≠ .object ref)
    (harray : ∀ ref i, ¬ (o = .array ref ∧ Number.readIndex? key = some i)) :
    m.Writes o key v m where
  heap := rfl
  present := hpresent
  member ref ho := absurd ho (hobject ref)
  members _ _ _ := rfl
  item ref i ho _ hi := absurd ⟨ho, hi⟩ (harray ref i)
  items _ _ _ := rfl
  size _ := .inl rfl

theorem object (m : Machine) (ref : Nat) (key : String) (v : Value) :
    m.Writes (.object ref) key v
      { m with heap := m.heap.modifyObject ref fun members => members.insert key v } where
  heap := rfl
  present := rfl
  member r ho hr := by
    cases ho
    rw [Heap.object_modifyObject, if_pos ⟨rfl, hr⟩, Dict.get?_insert, if_pos rfl]
  members r name hname := by
    rw [Heap.object_modifyObject]
    split
    · next hr =>
      rw [Dict.get?_insert, if_neg fun hkey => hname ⟨by rw [hr.1], hkey.symm⟩]
    · rfl
  item _ _ ho := by cases ho
  items _ _ _ := rfl
  size _ := .inl rfl

theorem array (m : Machine) (ref : Nat) {key : String} {i : Nat}
    (hi : Number.readIndex? key = some i) (v : Value) :
    m.Writes (.array ref) key v
      { m with heap := m.heap.modifyArray ref fun items => setItem items i v } where
  heap := rfl
  present := rfl
  member _ ho := by cases ho
  members _ _ _ := rfl
  item r j ho hr hj := by
    cases ho
    cases hi.symm.trans hj
    rw [Heap.array_modifyArray, if_pos ⟨rfl, hr⟩]
    exact getElem?_setItem _ _ _
  items r j hj := by
    rw [Heap.array_modifyArray]
    split
    · next hr => exact getD_setItem _ _ fun hji => hj ⟨by rw [hr.1], by rw [hi, hji]⟩
    · rfl
  size r := by
    rw [Heap.array_modifyArray]
    split
    · next hr => exact .inr ⟨i, by rw [hr.1], hi, size_setItem _ _ _⟩
    · exact .inl rfl

theorem of_setProperty (h : (setProperty o key v).runOn m = (.ok (), m')) :
    m.Writes o key v m' := by
  unfold setProperty at h
  cases o with
  | undefined => cases h
  | null => cases h
  | object ref =>
    cases h
    exact object m ref key v
  | array ref =>
    dsimp only at h
    cases hi : Number.readIndex? key with
    | none =>
      rw [hi] at h
      cases h
      exact nothing rfl nofun fun _ _ hkey => by cases hi.symm.trans hkey.2
    | some i =>
      rw [hi] at h
      cases h
      exact array m ref hi v
  | _ =>
    cases h
    exact nothing rfl nofun nofun

end Machine.Writes

/-! ### What operates on an old value -/

/-- What an operator that assigns makes of the old value of its target and the value beside it. -/
def AssignOp.result (h : Heap) (old v : Value) : AssignOp → Value
  | .assign => v
  | .add => plus h old v
  | .sub => arithmetic h (· - ·) old v
  | .mul => arithmetic h (· * ·) old v
  | .div => arithmetic h (· / ·) old v

/-- An expression that rewrites a property: an assignment that operates on its old value, or an
update. -/
inductive Rewriting where
  | compound (op : AssignOp) (hop : op ≠ .assign) (value : Expr)
  | update (increment before : Bool)

namespace Rewriting

def expr (target : PropertyExpr) : Rewriting → Expr
  | compound op _ value => .assign op target.expr value
  | update increment before => .update increment before target.expr

/-- What is evaluated before the property is read. -/
def operand (fuel scope : Nat) : Rewriting → Eval Value
  | compound _ _ value => eval fuel value scope
  | update _ _ => return .undefined

/-- The value that is written. -/
def new (h : Heap) (old v : Value) : Rewriting → Value
  | compound op _ _ => op.result h old v
  | update increment _ => .number (if increment then h.number old + 1.0 else h.number old - 1.0)

/-- The value of the expression. -/
def result (h : Heap) (old v : Value) : Rewriting → Value
  | compound op _ _ => op.result h old v
  | update increment before => if before then (update increment before).new h old v
      else .number (h.number old)

end Rewriting

variable {f : Rewriting}

theorem steady_operand (f : Rewriting) (scope : Nat) : Steady fun n => f.operand n scope := by
  cases f with
  | compound op _ value => exact steady_eval value scope
  | update increment before => exact .const _

/-- What remains once the operand has been evaluated. -/
def Rewriting.finish (fuel scope : Nat) (target : PropertyExpr) (f : Rewriting) (v : Value) :
    Eval Value := do
  let old ← eval fuel target.expr scope
  let h ← Eval.heap id
  assign fuel target.expr (f.new h old v) scope
  return f.result h old v

theorem eval_rewriting (n : Nat) : eval (n + 1) (f.expr target) scope =
    step >>= fun _ => f.operand n scope >>= f.finish n scope target := by
  cases f with
  | compound op hop value =>
    cases op with
    | assign => exact absurd rfl hop
    | _ => simp only [Rewriting.expr, eval]; rfl
  | update increment before =>
    simp only [Rewriting.expr, eval]
    cases before <;> rfl

theorem steady_assignHeap (f : Rewriting) (target : PropertyExpr) (scope : Nat) (old v : Value) :
    Steady fun n => Eval.heap id >>= fun h => assign n target.expr (f.new h old v) scope >>=
      fun _ => pure (f.result h old v) :=
  (Steady.const _).bind fun _ => (steady_assign _ _ _).bind fun _ => .const _

theorem steady_finish (f : Rewriting) (target : PropertyExpr) (scope : Nat) (v : Value) :
    Steady fun n => f.finish n scope target v :=
  (steady_eval _ _).bind fun old => steady_assignHeap f target scope old v

/-- The target is evaluated, and then the new value is assigned to it. -/
theorem comesTo_finish {v result : Value} :
    ComesTo (f.finish · scope target v) m (.ok result) m' ↔
      ∃ old m₁, ComesTo (eval · target.expr scope) m (.ok old) m₁ ∧
        ComesTo (assign · target.expr (f.new m₁.heap old v) scope) m₁ (.ok ()) m' ∧
        result = f.result m₁.heap old v := by
  simp only [Rewriting.finish]
  rw [comesTo_bind_ok (steady_eval _ _) fun old => steady_assignHeap f target scope old v]
  refine exists_congr fun old => exists_congr fun m₁ => and_congr_right fun _ => ?_
  rw [comesTo_after (show (Eval.heap id).runOn m₁ = (.ok m₁.heap, m₁) from rfl),
    comesTo_bind_ok (steady_assign _ _ _) fun _ => .const (pure (f.result m₁.heap old v))]
  simp only [comesTo_pure, Except.ok.injEq]
  constructor
  · rintro ⟨_, m₂, hassign, rfl, rfl⟩
    exact ⟨hassign, rfl⟩
  · rintro ⟨hassign, rfl⟩
    exact ⟨(), m', hassign, rfl, rfl⟩

/-! ### Plain targets -/

/-- What a literal or a name stands for. -/
def Expr.meaning? (s : Scopes Value) (scope : Nat) : Expr → Option Value
  | .ident name => s.lookup scope name
  | e => e.literal?

/-- A literal or a name. -/
def Expr.IsPlain : Expr → Prop
  | .ident _ => True
  | e => e.literal?.isSome

theorem Expr.IsPlain.comesTo_eval {e : Expr} (he : e.IsPlain) {v : Value} :
    ComesTo (eval · e scope) m (.ok v) m' ↔
      m.takeStep = (true, m') ∧ e.meaning? m.scopes scope = some v := by
  cases hliteral : e.literal? with
  | some u =>
    rw [comesTo_eval_literal hliteral]
    cases e <;> cases hliteral <;> simp [Expr.meaning?, Expr.literal?, eq_comm]
  | none =>
    cases e with
    | ident name => exact comesTo_eval_ident
    | _ => simp [Expr.IsPlain, hliteral] at he

namespace PropertyExpr

/-- Only literals and names stand within. -/
def IsPlain : PropertyExpr → Prop
  | member object _ => object.IsPlain
  | index object key => object.IsPlain ∧ key.IsPlain

/-- The property that is named by literals and names. -/
def meaning? (h : Heap) (s : Scopes Value) (scope : Nat) : PropertyExpr → Option (Value × String)
  | member object name => (object.meaning? s scope).map (·, name)
  | index object key =>
    (object.meaning? s scope).bind fun o => (key.meaning? s scope).map fun k => (o, h.display k)

/-- To locate what is plain changes neither the heap nor the scopes. -/
theorem IsPlain.located (h : target.IsPlain) {p : Value × String}
    (hlocate : ComesTo (target.locate · scope) m (.ok p) m') :
    m'.heap = m.heap ∧ m'.scopes = m.scopes ∧ target.meaning? m.heap m.scopes scope = some p := by
  cases target with
  | member object name =>
    simp only [locate] at hlocate
    rw [comesTo_bind_ok (steady_eval object scope) fun o => .const (pure (o, name))] at hlocate
    obtain ⟨o, m₁, hobject, hrest⟩ := hlocate
    obtain ⟨⟨⟩, rfl⟩ := comesTo_pure.mp hrest
    obtain ⟨hstep, ho⟩ := (Expr.IsPlain.comesTo_eval h).mp hobject
    rw [Machine.takeStep_eq hstep]
    exact ⟨rfl, rfl, by rw [meaning?, ho, Option.map_some]⟩
  | index object key =>
    have hdisplay (o k : Value) : Steady fun _ => display k >>= fun name => pure (o, name) :=
      .const _
    simp only [locate] at hlocate
    rw [comesTo_bind_ok (steady_eval object scope)
      fun o => (steady_eval key scope).bind (hdisplay o)] at hlocate
    obtain ⟨o, m₁, hobject, hrest⟩ := hlocate
    rw [comesTo_bind_ok (steady_eval key scope) (hdisplay o)] at hrest
    obtain ⟨k, m₂, hkey, hrest⟩ := hrest
    rw [comesTo_after (runOn_display _ _)] at hrest
    obtain ⟨⟨⟩, rfl⟩ := comesTo_pure.mp hrest
    obtain ⟨hstep, ho⟩ := (Expr.IsPlain.comesTo_eval h.1).mp hobject
    obtain ⟨hstep', hk⟩ := (Expr.IsPlain.comesTo_eval h.2).mp hkey
    have hm' := Machine.takeStep_eq hstep'
    rw [Machine.takeStep_eq hstep] at hm' hk
    rw [hm']
    exact ⟨rfl, rfl, by rw [meaning?, ho, Option.bind_some, hk, Option.map_some]⟩

end PropertyExpr

/-! ### Reading and writing -/

/-- The property is located, once, and read. -/
def PropertyExpr.Reads (target : PropertyExpr) (scope : Nat) (m : Machine) (p : Value × String)
    (v : Value) (m' : Machine) : Prop :=
  ∃ m₀, m.takeStep = (true, m₀) ∧ ComesTo (target.locate · scope) m₀ (.ok p) m' ∧
    (getProperty p.1 p.2).runOn m' = (.ok v, m')

/-- What is plain is written where it was read. -/
theorem PropertyExpr.IsPlain.same (h : target.IsPlain) {read written : Value × String} {old : Value}
    {m₁ m₂ m₃ : Machine} (hread : target.Reads scope m₁ read old m₂)
    (hwritten : ComesTo (target.locate · scope) m₂ (.ok written) m₃) : written = read := by
  obtain ⟨m₀, -, hlocate, -⟩ := hread
  obtain ⟨hheap, hscopes, hmeaning⟩ := h.located hlocate
  obtain ⟨-, -, hmeaning'⟩ := h.located hwritten
  rw [hheap, hscopes, hmeaning] at hmeaning'
  exact (Option.some.inj hmeaning').symm

/-- **A property that is rewritten is located twice.**  In every scope and state, an assignment that
operates on the old value and an update come to a value if and only if their operand does, if they
have one, the property can be located and read after it, and can then be located once more and
written.  What is written is made of the value that was read, and is written where the property was
located the second time: that may be elsewhere, unless only literals and names stand within.  No
other property is written. -/
theorem properties_located_twice (target : PropertyExpr) (f : Rewriting) (scope : Nat)
    (m m' : Machine) (result : Value) :
    ComesTo (eval · (f.expr target) scope) m (.ok result) m' ↔
      ∃ m₀ v m₁ read old m₂ written m₃, m.takeStep = (true, m₀) ∧
        ComesTo (f.operand · scope) m₀ (.ok v) m₁ ∧
        target.Reads scope m₁ read old m₂ ∧
        ComesTo (target.locate · scope) m₂ (.ok written) m₃ ∧
        (target.IsPlain → written = read) ∧
        (setProperty written.1 written.2 (f.new m₂.heap old v)).runOn m₃ = (.ok (), m') ∧
        m₃.Writes written.1 written.2 (f.new m₂.heap old v) m' ∧
        result = f.result m₂.heap old v := by
  rw [comesTo_succ (by rw [eval])]
  simp only [eval_rewriting]
  rw [comesTo_step]
  refine exists_congr fun m₀ => ?_
  rw [comesTo_bind_ok (steady_operand f scope) (steady_finish f target scope)]
  simp only [comesTo_finish, comesTo_eval_propertyExpr, comesTo_assign_propertyExpr]
  constructor
  · rintro ⟨hstep, v, m₁, hv, old, m₂, ⟨m₁', read, hread⟩, ⟨m₃, written, hwritten, hset⟩, rfl⟩
    have hreads : target.Reads scope m₁ read old m₂ := ⟨m₁', hread⟩
    exact ⟨v, m₁, read, old, m₂, written, m₃, hstep, hv, hreads, hwritten,
      fun hplain => hplain.same hreads hwritten, hset, .of_setProperty hset, rfl⟩
  · rintro ⟨v, m₁, read, old, m₂, written, m₃, hstep, hv, ⟨m₁', hread⟩, hwritten, -, hset, -, rfl⟩
    exact ⟨hstep, v, m₁, hv, old, m₂, ⟨m₁', read, hread⟩, ⟨m₃, written, hwritten, hset⟩, rfl⟩

/-- An object literal makes an object wherever it is evaluated, so that the property which is read
belongs to one object and the property which is written to the next one. -/
theorem properties_located_twice_literal :
    let m := Machine.start (.unused .playwright)
    let target := PropertyExpr.member (.object []) "n"
    let f := Rewriting.compound .add (by decide) (.string "s")
    let ref := m.heap.objects.size
    ∃ m', ComesTo (eval · (f.expr target) globalScope) m (.ok (.string "undefineds")) m' ∧
      (m'.heap.object ref).get? "n" = none ∧
      (m'.heap.object (ref + 1)).get? "n" = some (.string "undefineds") := by
  intro m target f ref
  have hlocate (m : Machine) (hm : m.stepsLeft = none) :
      ComesTo (target.locate · globalScope) m (.ok (.object m.heap.objects.size, "n"))
        { m with heap := (m.heap.newObject []).2 } := by
    refine ⟨3, runOn_attempt_eq_ok_iff.mpr ?_⟩
    simp only [target, PropertyExpr.locate, eval, evalProperties, runOn_bind, runOn_step hm]
    rfl
  let m₂ : Machine := { m with heap := (m.heap.newObject []).2 }
  let m₃ : Machine := { m₂ with heap := (m₂.heap.newObject []).2 }
  have hempty : m₂.heap.object ref = [] := by
    show (m.heap.objects.push []).getD m.heap.objects.size [] = []
    rw [Array.getD_eq_getD_getElem?, Array.getElem?_push_size]
    rfl
  have hkept : m₃.heap.object ref = [] := by
    show ((m.heap.objects.push []).push []).getD m.heap.objects.size [] = []
    rw [Array.getD_eq_getD_getElem?, Array.getElem?_push, if_neg (by simp),
      Array.getElem?_push_size]
    rfl
  have hget : (getProperty (.object ref) "n").runOn m₂ = (.ok .undefined, m₂) := by
    show (Except.ok (objectProperty m₂.heap ref "n"), m₂) = _
    rw [objectProperty, hempty]
    rfl
  have hcompound : ¬ target.IsPlain := by
    simp [target, PropertyExpr.IsPlain, Expr.IsPlain, Expr.literal?]
  have hwrites := Machine.Writes.object m₃ (ref + 1) "n" (f.new m₂.heap .undefined (.string "s"))
  have hend := (properties_located_twice target f globalScope m _ _).mpr ⟨m, .string "s", m,
    (.object ref, "n"), .undefined, m₂, (.object (ref + 1), "n"), m₃, rfl,
    (comesTo_eval_literal rfl).mpr ⟨rfl, rfl⟩, ⟨m, rfl, hlocate m rfl, hget⟩, hlocate m₂ rfl,
    fun h => absurd h hcompound, rfl, hwrites, rfl⟩
  refine ⟨_, hend, ?_, hwrites.member _ rfl ?_⟩
  · rw [hwrites.members ref "n" (by simp), hkept]
    rfl
  · simp [m₃, m₂, ref, Heap.newObject]

/-- The key is counted on twice, and the item that was read is left as it was. -/
theorem key_counted_twice :
    runText? 100 ("let i = 0\nconst counts = [10, 20]\nconst next = () => i++\n" ++
        "counts[next()] += 5\nconsole.log(i, counts.join())")
        (.unused .playwright) =
      some (.completed, ["2 10,15"]) := by
  decide +kernel

end BrowserLab.Script
