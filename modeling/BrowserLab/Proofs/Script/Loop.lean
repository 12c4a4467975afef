import BrowserLab.Proofs.Script.Scoping

/-!
# Loops that declare a variable

The head of a loop may declare a variable, test it and update it between two rounds.  The loop opens
one scope for its variable, and its rounds are `Turns` in that scope.

* `loop_variable_shared`: what a loop comes to, and what functions that are made in its rounds read
  of its variable later on.
-/

namespace BrowserLab.Script

open Eval

/-- A loop whose head declares a variable, may test and may update it. -/
structure ForLoop where
  name : String
  init : Expr
  test : Option Expr
  update : Option Expr
  body : Stmt

namespace ForLoop

/-- The declaration of the variable. -/
def head (l : ForLoop) : Stmt := .declare .lexical [.mk (.ident l.name) (some l.init)]

def stmt (l : ForLoop) : Stmt := .forLoop (some l.head) l.test l.update l.body

/-- Is there another round? -/
def goesOn (fuel scope : Nat) (l : ForLoop) : Eval Bool :=
  match l.test with
  | some e => do return (← eval fuel e scope).truthy
  | none => return true

/-- What is done between two rounds. -/
def advance (fuel scope : Nat) (l : ForLoop) : Eval Unit :=
  match l.update with
  | some e => do
    let _ ← eval fuel e scope
  | none => return ()

/-- What remains of the loop after its body. -/
def afterBody (fuel scope : Nat) (l : ForLoop) (c : Completion) : Eval Completion :=
  match c.leaves? with
  | some completion => return completion
  | none => do
    l.advance fuel scope
    execFor fuel l.test l.update l.body scope

/-- The rounds of the loop in a scope: from a machine, with the machines at which the body has come
to an end, one after the other, to what the loop comes to and the machine it leaves. -/
inductive Turns (l : ForLoop) (scope : Nat) :
    Machine → List Machine → Except Value Completion → Machine → Prop
  | untested {m m' : Machine} {w : Value}
      (htest : ComesTo (l.goesOn · scope) m (.error w) m') : l.Turns scope m [] (.error w) m'
  | finished {m m' : Machine} (htest : ComesTo (l.goesOn · scope) m (.ok false) m') :
      l.Turns scope m [] (.ok .normal) m'
  | thrown {m m₁ m' : Machine} {w : Value} (htest : ComesTo (l.goesOn · scope) m (.ok true) m₁)
      (hbody : ComesTo (execScoped · l.body scope) m₁ (.error w) m') :
      l.Turns scope m [m'] (.error w) m'
  | left {m m₁ m' : Machine} {c completion : Completion}
      (htest : ComesTo (l.goesOn · scope) m (.ok true) m₁)
      (hbody : ComesTo (execScoped · l.body scope) m₁ (.ok c) m')
      (hleaves : c.leaves? = some completion) : l.Turns scope m [m'] (.ok completion) m'
  | stuck {m m₁ m₂ m' : Machine} {c : Completion} {w : Value}
      (htest : ComesTo (l.goesOn · scope) m (.ok true) m₁)
      (hbody : ComesTo (execScoped · l.body scope) m₁ (.ok c) m₂) (hstays : c.leaves? = none)
      (hupdate : ComesTo (l.advance · scope) m₂ (.error w) m') : l.Turns scope m [m₂] (.error w) m'
  | next {m m₁ m₂ m₃ m' : Machine} {c : Completion} {ends : List Machine}
      {r : Except Value Completion} (htest : ComesTo (l.goesOn · scope) m (.ok true) m₁)
      (hbody : ComesTo (execScoped · l.body scope) m₁ (.ok c) m₂) (hstays : c.leaves? = none)
      (hupdate : ComesTo (l.advance · scope) m₂ (.ok ()) m₃) (hrest : l.Turns scope m₃ ends r m') :
      l.Turns scope m (m₂ :: ends) r m'

variable {l : ForLoop} {scope : Nat} {m m' : Machine} {r : Except Value Completion}

/-! ### Round by round -/

theorem steady_goesOn (l : ForLoop) (scope : Nat) : Steady fun n => l.goesOn n scope := by
  unfold goesOn
  cases l.test with
  | none => exact .const _
  | some e => exact (steady_eval e scope).bind fun v => .const (pure v.truthy)

theorem steady_advance (l : ForLoop) (scope : Nat) : Steady fun n => l.advance n scope := by
  unfold advance
  cases l.update with
  | none => exact .const _
  | some e => exact (steady_eval e scope).bind fun _ => .const (pure ())

theorem steady_afterBody (l : ForLoop) (scope : Nat) (c : Completion) :
    Steady fun n => l.afterBody n scope c := by
  unfold afterBody
  cases c.leaves? with
  | some completion => exact .const _
  | none => exact (steady_advance l scope).bind fun _ => steady_execFor _ _ _ _

/-- What remains of the loop after its test. -/
def afterTest (fuel scope : Nat) (l : ForLoop) (goesOn : Bool) : Eval Completion :=
  if goesOn then execScoped fuel l.body scope >>= l.afterBody fuel scope else return .normal

theorem steady_afterTest (l : ForLoop) (scope : Nat) (goesOn : Bool) :
    Steady fun n => l.afterTest n scope goesOn := by
  cases goesOn with
  | true => exact (steady_execScoped _ _).bind fun c => steady_afterBody l scope c
  | false => exact .const _

theorem execFor_succ (n : Nat) : execFor (n + 1) l.test l.update l.body scope =
    l.goesOn n scope >>= l.afterTest n scope := by
  obtain ⟨name, init, test, update, body⟩ := l
  unfold execFor
  cases test with
  | none =>
    refine bind_congr fun goesOn => ?_
    cases goesOn with
    | false => rfl
    | true =>
      refine bind_congr fun c => ?_
      cases c <;> cases update <;> simp [afterBody, advance, Completion.leaves?]
  | some e =>
    refine (bind_congr fun v => ?_).trans (bind_assoc _ _ _).symm
    rw [pure_bind]
    cases v.truthy with
    | false => rfl
    | true =>
      refine bind_congr fun c => ?_
      cases c <;> cases update <;> simp [afterBody, advance, Completion.leaves?]

/-- With the fuel for it, the loop goes through its rounds. -/
theorem turns_of_execFor {n : Nat}
    (h : (attempt (execFor n l.test l.update l.body scope)).runOn m = (.ok r, m')) :
    ∃ ends, l.Turns scope m ends r m' := by
  induction n generalizing m with
  | zero =>
    rw [execFor] at h
    cases h
  | succ n ih =>
    rw [execFor_succ, runOn_attempt_bind_eq_ok_iff] at h
    rcases h with ⟨w, rfl, htest⟩ | ⟨_ | _, m₁, htest, h⟩
    · exact ⟨_, .untested ⟨n, htest⟩⟩
    · cases h
      exact ⟨_, .finished ⟨n, htest⟩⟩
    rw [afterTest, if_pos rfl, runOn_attempt_bind_eq_ok_iff] at h
    rcases h with ⟨w, rfl, hbody⟩ | ⟨c, m₂, hbody, h⟩
    · exact ⟨_, .thrown ⟨n, htest⟩ ⟨n, hbody⟩⟩
    rw [afterBody] at h
    cases hleaves : c.leaves? with
    | some completion =>
      rw [hleaves] at h
      cases h
      exact ⟨_, .left ⟨n, htest⟩ ⟨n, hbody⟩ hleaves⟩
    | none =>
      rw [hleaves] at h
      rcases runOn_attempt_bind_eq_ok_iff.mp h with ⟨w, rfl, hupdate⟩ | ⟨_, m₃, hupdate, h⟩
      · exact ⟨_, .stuck ⟨n, htest⟩ ⟨n, hbody⟩ hleaves ⟨n, hupdate⟩⟩
      · obtain ⟨ends, hrest⟩ := ih h
        exact ⟨_, .next ⟨n, htest⟩ ⟨n, hbody⟩ hleaves ⟨n, hupdate⟩ hrest⟩

theorem comesTo_round : ComesTo (execFor · l.test l.update l.body scope) m r m' ↔
    (∃ w, r = .error w ∧ ComesTo (l.goesOn · scope) m (.error w) m') ∨
      ∃ b m₁, ComesTo (l.goesOn · scope) m (.ok b) m₁ ∧
        ComesTo (l.afterTest · scope b) m₁ r m' := by
  rw [comesTo_succ (by rw [execFor])]
  simp only [execFor_succ]
  exact comesTo_bind (steady_goesOn l scope) (steady_afterTest l scope)

theorem comesTo_afterTest_true : ComesTo (l.afterTest · scope true) m r m' ↔
    (∃ w, r = .error w ∧ ComesTo (execScoped · l.body scope) m (.error w) m') ∨
      ∃ c m₁, ComesTo (execScoped · l.body scope) m (.ok c) m₁ ∧
        ComesTo (l.afterBody · scope c) m₁ r m' :=
  comesTo_bind (steady_execScoped _ _) (steady_afterBody l scope)

theorem comesTo_afterBody_stays {c : Completion} (hstays : c.leaves? = none) :
    ComesTo (l.afterBody · scope c) m r m' ↔
      (∃ w, r = .error w ∧ ComesTo (l.advance · scope) m (.error w) m') ∨
        ∃ m₁, ComesTo (l.advance · scope) m (.ok ()) m₁ ∧
          ComesTo (execFor · l.test l.update l.body scope) m₁ r m' := by
  simp only [afterBody, hstays]
  rw [comesTo_bind (steady_advance l scope) fun _ => steady_execFor _ _ _ _]
  exact or_congr_right ⟨fun ⟨_, h⟩ => h, fun h => ⟨(), h⟩⟩

theorem comesTo_execFor_of_body {c : Completion} {m₁ m₂ : Machine}
    (htest : ComesTo (l.goesOn · scope) m (.ok true) m₁)
    (hbody : ComesTo (execScoped · l.body scope) m₁ (.ok c) m₂)
    (hrest : ComesTo (l.afterBody · scope c) m₂ r m') :
    ComesTo (execFor · l.test l.update l.body scope) m r m' :=
  comesTo_round.mpr
    (.inr ⟨true, m₁, htest, comesTo_afterTest_true.mpr (.inr ⟨c, m₂, hbody, hrest⟩)⟩)

/-- The rounds of a loop are what it comes to. -/
theorem comesTo_execFor : ComesTo (execFor · l.test l.update l.body scope) m r m' ↔
    ∃ ends, l.Turns scope m ends r m' := by
  refine ⟨fun ⟨_, h⟩ => turns_of_execFor h, ?_⟩
  rintro ⟨ends, h⟩
  induction h with
  | untested htest => exact comesTo_round.mpr (.inl ⟨_, rfl, htest⟩)
  | finished htest => exact comesTo_round.mpr (.inr ⟨false, _, htest, comesTo_pure.mpr ⟨rfl, rfl⟩⟩)
  | thrown htest hbody =>
    have hrest := comesTo_afterTest_true.mpr (.inl ⟨_, rfl, hbody⟩)
    exact comesTo_round.mpr (.inr ⟨true, _, htest, hrest⟩)
  | left htest hbody hleaves =>
    refine comesTo_execFor_of_body htest hbody ?_
    simp only [afterBody, hleaves, comesTo_pure, and_self]
  | stuck htest hbody hstays hupdate =>
    refine comesTo_execFor_of_body htest hbody ?_
    exact (comesTo_afterBody_stays hstays).mpr (.inl ⟨_, rfl, hupdate⟩)
  | next htest hbody hstays hupdate _ ih =>
    refine comesTo_execFor_of_body htest hbody ?_
    exact (comesTo_afterBody_stays hstays).mpr (.inr ⟨_, hupdate, ih⟩)

/-! ### The head -/

/-- The loop opens a scope of its own; steps are taken for it and for its head. -/
def Enters (scope : Nat) (m m' : Machine) : Prop :=
  ∃ m₀, m.takeStep = (true, m₀) ∧ (m₀.opened scope).takeStep = (true, m')

/-- The variable is declared with a value, and the first round begins. -/
def Begins (l : ForLoop) (scope : Nat) (m : Machine) (v : Value) (start : Machine) : Prop :=
  ∃ m₁ m₂, Enters scope m m₁ ∧ ComesTo (eval · l.init m.nextScope) m₁ (.ok v) m₂ ∧
    start = m₂.declared m.nextScope l.name v true

/-- There is no value to begin with. -/
def Fails (l : ForLoop) (scope : Nat) (m : Machine) (w : Value) (m' : Machine) : Prop :=
  ∃ m₁, Enters scope m m₁ ∧ ComesTo (eval · l.init m.nextScope) m₁ (.error w) m'

theorem comesTo_execDeclarations_nil {mutable : Bool} {r : Except Value Unit} :
    ComesTo (execDeclarations · [] scope mutable) m r m' ↔ r = .ok () ∧ m' = m := by
  rw [comesTo_succ (by rw [execDeclarations])]
  simp only [execDeclarations, comesTo_pure]

/-- A name is declared with the value of an expression, unless that throws. -/
theorem comesTo_execDeclarations_ident {name : String} {e : Expr} {mutable : Bool}
    {r : Except Value Unit} :
    ComesTo (execDeclarations · [.mk (.ident name) (some e)] scope mutable) m r m' ↔
      (∃ w, r = .error w ∧ ComesTo (eval · e scope) m (.error w) m') ∨
        ∃ v m₁, ComesTo (eval · e scope) m (.ok v) m₁ ∧ r = .ok () ∧
          m' = m₁.declared scope name v mutable := by
  have hnil := steady_execDeclarations [] scope mutable
  rw [comesTo_succ (by rw [execDeclarations])]
  simp only [execDeclarations]
  rw [comesTo_bind (steady_eval _ _) fun v => (steady_bind _ _ _ _).bind fun _ => hnil]
  refine or_congr_right (exists_congr fun v => exists_congr fun m₁ => and_congr_right fun _ => ?_)
  rw [comesTo_bind (steady_bind _ _ _ _) fun _ => hnil]
  simp only [comesTo_bind_ident, comesTo_execDeclarations_nil]
  constructor
  · rintro (⟨w, -, hw, -⟩ | ⟨_, _, ⟨-, rfl⟩, rfl, rfl⟩)
    · cases hw
    · exact ⟨rfl, rfl⟩
  · rintro ⟨rfl, rfl⟩
    exact .inr ⟨(), _, ⟨trivial, rfl⟩, rfl, rfl⟩

theorem comesTo_head {s : Except Value Completion} : ComesTo (exec · l.head scope) m s m' ↔
    ∃ m₀, m.takeStep = (true, m₀) ∧
      ((∃ w, s = .error w ∧ ComesTo (eval · l.init scope) m₀ (.error w) m') ∨
        ∃ v m₁, ComesTo (eval · l.init scope) m₀ (.ok v) m₁ ∧ s = .ok .normal ∧
          m' = m₁.declared scope l.name v true) := by
  rw [comesTo_succ (by rw [exec])]
  simp only [head, exec]
  rw [comesTo_step]
  refine exists_congr fun m₀ => and_congr_right fun _ => ?_
  rw [comesTo_bind (steady_execDeclarations _ _ _) fun _ => .const (pure Completion.normal)]
  simp only [show (DeclarationKind.lexical != .const) = true from rfl,
    comesTo_execDeclarations_ident, comesTo_pure]
  constructor
  · rintro (⟨w, rfl, (⟨_, ⟨⟩, h⟩ | ⟨_, _, _, ⟨⟩, _⟩)⟩ |
      ⟨_, _, (⟨_, ⟨⟩, _⟩ | ⟨v, m₁, h, -, rfl⟩), rfl, rfl⟩)
    · exact .inl ⟨w, rfl, h⟩
    · exact .inr ⟨v, m₁, h, rfl, rfl⟩
  · rintro (⟨w, rfl, h⟩ | ⟨v, m₁, h, rfl, rfl⟩)
    · exact .inl ⟨w, rfl, .inl ⟨w, rfl, h⟩⟩
    · exact .inr ⟨(), _, .inr ⟨v, m₁, h, trivial, rfl⟩, rfl, rfl⟩

/-- The head and then the rounds, in one scope. -/
theorem comesTo_inside :
    ComesTo (fun n => exec n l.head scope >>= fun _ => execFor n l.test l.update l.body scope)
        m r m' ↔
      ∃ m₁, m.takeStep = (true, m₁) ∧
        ((∃ w, r = .error w ∧ ComesTo (eval · l.init scope) m₁ (.error w) m') ∨
          ∃ v m₂ ends, ComesTo (eval · l.init scope) m₁ (.ok v) m₂ ∧
            l.Turns scope (m₂.declared scope l.name v true) ends r m') := by
  rw [comesTo_bind (steady_exec _ _) fun _ => steady_execFor _ _ _ _]
  simp only [comesTo_head, comesTo_execFor]
  constructor
  · rintro (⟨w, rfl, m₁, hstep, (⟨_, ⟨⟩, h⟩ | ⟨_, _, _, ⟨⟩, _⟩)⟩ |
      ⟨c, _, ⟨m₁, hstep, (⟨_, ⟨⟩, _⟩ | ⟨v, m₂, h, -, rfl⟩)⟩, ends, hturns⟩)
    · exact ⟨m₁, hstep, .inl ⟨w, rfl, h⟩⟩
    · exact ⟨m₁, hstep, .inr ⟨v, m₂, ends, h, hturns⟩⟩
  · rintro ⟨m₁, hstep, (⟨w, rfl, h⟩ | ⟨v, m₂, ends, h, hturns⟩)⟩
    · exact .inl ⟨w, rfl, m₁, hstep, .inl ⟨w, rfl, h⟩⟩
    · exact .inr ⟨.normal, _, ⟨m₁, hstep, .inr ⟨v, m₂, h, rfl, rfl⟩⟩, ends, hturns⟩

/-- The loop opens a scope, declares its variable there, and goes through its rounds there. -/
theorem comesTo_stmt : ComesTo (exec · l.stmt scope) m r m' ↔
    (∃ w, l.Fails scope m w m' ∧ r = .error w) ∨
      ∃ v start ends, l.Begins scope m v start ∧ l.Turns m.nextScope start ends r m' := by
  have hinner {m₀ : Machine} (hstep : m.takeStep = (true, m₀)) : m₀.nextScope = m.nextScope := by
    rw [Machine.takeStep_eq hstep]
    rfl
  rw [comesTo_succ (by rw [exec])]
  simp only [stmt, exec]
  rw [comesTo_step]
  constructor
  · rintro ⟨m₀, hstep, h⟩
    rw [comesTo_after (runOn_openScope scope m₀), hinner hstep, comesTo_inside] at h
    obtain ⟨m₁, hstep', ⟨w, rfl, h⟩ | ⟨v, m₂, ends, h, hturns⟩⟩ := h
    · exact .inl ⟨w, ⟨m₁, ⟨m₀, hstep, hstep'⟩, h⟩, rfl⟩
    · exact .inr ⟨v, _, ends, ⟨m₁, m₂, ⟨m₀, hstep, hstep'⟩, h, rfl⟩, hturns⟩
  · rintro (⟨w, ⟨m₁, ⟨m₀, hstep, hstep'⟩, h⟩, rfl⟩ |
      ⟨v, _, ends, ⟨m₁, m₂, ⟨m₀, hstep, hstep'⟩, h, rfl⟩, hturns⟩) <;>
      refine ⟨m₀, hstep, ?_⟩ <;>
      rw [comesTo_after (runOn_openScope scope m₀), hinner hstep, comesTo_inside]
    · exact ⟨m₁, hstep', .inl ⟨w, rfl, h⟩⟩
    · exact ⟨m₁, hstep', .inr ⟨v, m₂, ends, h, hturns⟩⟩

/-! ### The variable -/

theorem later_of_goesOn {s : Except Value Bool} (h : ComesTo (l.goesOn · scope) m s m') :
    m.Later m' := by
  refine later_of_comesTo (fun n => ?_) h
  unfold goesOn
  cases l.test with
  | none => exact .pure _
  | some e => exact ((Led.all n).eval e scope).bind fun _ => .pure _

theorem later_of_advance {s : Except Value Unit} (h : ComesTo (l.advance · scope) m s m') :
    m.Later m' := by
  refine later_of_comesTo (fun n => ?_) h
  unfold advance
  cases l.update with
  | none => exact .pure _
  | some e => exact ((Led.all n).eval e scope).bind fun _ => .pure _

/-- The bodies end one after the other, after the first round has begun and before the loop is
left. -/
theorem Turns.later {ends : List Machine} (h : l.Turns scope m ends r m') :
    m.Later m' ∧ ∀ e ∈ ends, m.Later e ∧ e.Later m' := by
  induction h with
  | untested htest => exact ⟨later_of_goesOn htest, nofun⟩
  | finished htest => exact ⟨later_of_goesOn htest, nofun⟩
  | thrown htest hbody | left htest hbody hleaves =>
    have hlater := (later_of_goesOn htest).trans (later_of_execScoped hbody)
    refine ⟨hlater, fun e he => ?_⟩
    obtain rfl := List.mem_singleton.mp he
    exact ⟨hlater, .now⟩
  | stuck htest hbody hstays hupdate =>
    have hlater := (later_of_goesOn htest).trans (later_of_execScoped hbody)
    refine ⟨hlater.trans (later_of_advance hupdate), fun e he => ?_⟩
    obtain rfl := List.mem_singleton.mp he
    exact ⟨hlater, later_of_advance hupdate⟩
  | next htest hbody hstays hupdate _ ih =>
    have hlater := (later_of_goesOn htest).trans (later_of_execScoped hbody)
    have hupdated := later_of_advance hupdate
    refine ⟨(hlater.trans hupdated).trans ih.1, fun e he => ?_⟩
    rcases List.mem_cons.mp he with rfl | he
    · exact ⟨hlater, hupdated.trans ih.1⟩
    · exact ⟨(hlater.trans hupdated).trans (ih.2 e he).1, (ih.2 e he).2⟩

/-- The variable is there when the first round begins. -/
theorem Begins.declared {v : Value} {start : Machine} (h : l.Begins scope m v start) :
    start.scopes.own? m.nextScope l.name = some ⟨v, true⟩ := by
  obtain ⟨m₁, m₂, ⟨m₀, hstep, hstep'⟩, hinit, rfl⟩ := h
  have hopened : (m₀.opened scope).scopes.frames[m.nextScope]? = some ⟨[], some scope⟩ := by
    rw [Machine.takeStep_eq hstep]
    simp [Machine.opened, Machine.nextScope, Scopes.child, Scopes.push]
  have hscopes : m₁.scopes = (m₀.opened scope).scopes := by rw [Machine.takeStep_eq hstep']
  obtain ⟨f, hf, -⟩ := (later_of_eval hinit).scopes.frame m.nextScope _ (hscopes ▸ hopened)
  have hsize := (Array.getElem?_eq_some_iff.mp hf).1
  exact (Scopes.own?_declare ..).trans (if_pos ⟨rfl, rfl, hsize⟩)

end ForLoop

/-- The function yields the value of a variable. -/
def Closure.Reads (c : Closure) (name : String) : Prop :=
  c.function.params = [] ∧ c.function.body = .expr (.ident name)

theorem comesTo_bindParams_nil {i : Nat} {args : List Value} {scope : Nat} {m m' : Machine}
    {r : Except Value Unit} :
    ComesTo (bindParams · [] i args scope) m r m' ↔ r = .ok () ∧ m' = m := by
  rw [comesTo_succ (by rw [bindParams])]
  simp only [bindParams, comesTo_pure]

/-- Whatever the function is called with, it yields the value. -/
def Machine.Yields (m : Machine) (c : Closure) (v : Value) : Prop :=
  ∀ args r m', ComesTo (callClosure · c args) m r m' ↔
    (m.opened c.scope).takeStep = (true, m') ∧ r = .ok v

/-- A function that reads a variable yields what its name means where the function was made. -/
theorem Closure.Reads.yields {c : Closure} {name : String} (hc : c.Reads name) {m : Machine}
    {holder : Nat} {v : Value} {mutable : Bool}
    (hholder : m.scopes.holder? c.scope name = some holder)
    (hv : m.scopes.own? holder name = some ⟨v, mutable⟩) : m.Yields c v := by
  intro args r m'
  have hlookup : (m.opened c.scope).scopes.lookup m.nextScope name = some v := by
    refine Scopes.lookup_eq_some_iff.mpr ⟨holder, mutable, Scopes.holder?_child hholder, ?_⟩
    exact (Scopes.own?_child ..).trans hv
  rw [← comesTo_eval_ident_of_lookup hlookup, comesTo_succ (by rw [callClosure])]
  simp only [callClosure, hc.1, hc.2]
  rw [comesTo_after (runOn_openScope c.scope m),
    comesTo_bind (steady_bindParams _ _ _ _) fun _ => steady_eval _ _]
  simp only [comesTo_bindParams_nil]
  constructor
  · rintro (⟨w, -, ⟨⟩, -⟩ | ⟨_, _, ⟨-, rfl⟩, h⟩)
    exact h
  · exact fun h => .inr ⟨(), _, ⟨trivial, rfl⟩, h⟩

/-- **A loop has one variable for all of its rounds.**  In every scope and state, the loop declares
its variable in a scope that it opens, with the value that it begins with, and comes to what its
rounds come to in that one scope, where each of them tests, changes and updates what the one before
it has left.  At every later machine, when the loop is over and whatever the run has done since
then, the variable has one value, and this is what is yielded by every function that reads the
variable and was made in any round, where the loop's variable was what its name meant when the body
ended, unless a nearer scope has come to declare the name since then. -/
theorem loop_variable_shared (l : ForLoop) (scope : Nat) (m m' : Machine)
    (r : Except Value Completion) :
    (ComesTo (exec · l.stmt scope) m r m' ↔
      (∃ w, l.Fails scope m w m' ∧ r = .error w) ∨
        ∃ v start ends, l.Begins scope m v start ∧ l.Turns m.nextScope start ends r m') ∧
    ∀ v start ends, l.Begins scope m v start → l.Turns m.nextScope start ends r m' →
      (∀ e ∈ ends, e.scopes.holder? m.nextScope l.name = some m.nextScope) ∧
      ∀ m₁, m'.Later m₁ → ∃ u mutable,
        m₁.scopes.own? m.nextScope l.name = some ⟨u, mutable⟩ ∧
        ∀ e ∈ ends, ∀ c : Closure, c.Reads l.name →
          e.scopes.holder? c.scope l.name = some m.nextScope →
          m₁.Yields c u ∨ ∃ nearer, e.scopes.own? nearer l.name = none ∧
            m₁.scopes.holder? c.scope l.name = some nearer := by
  refine ⟨l.comesTo_stmt, fun v start ends hbegins hturns => ?_⟩
  have hlasts {m₁ : Machine} (h : start.Later m₁) :
      ∃ x, m₁.scopes.own? m.nextScope l.name = some x :=
    Option.isSome_iff_exists.mp (h.scopes.declared _ _ (by rw [hbegins.declared]; rfl))
  obtain ⟨hafter, hends⟩ := hturns.later
  refine ⟨fun e he => ?_, fun m₁ hlater => ?_⟩
  · obtain ⟨x, hx⟩ := hlasts (hends e he).1
    exact Scopes.holder?_self hx
  · obtain ⟨⟨u, mutable⟩, hu⟩ := hlasts (hafter.trans hlater)
    refine ⟨u, mutable, hu, fun e he c hc hholder => ?_⟩
    obtain ⟨holder, hholder', rfl | hnone⟩ := ((hends e he).2.trans hlater).scopes.holder hholder
    · exact .inl (hc.yields hholder' hu)
    · exact .inr ⟨holder, hnone, hholder'⟩

/-- A loop with one round, in which a function is made that reads its variable.  The variable is
true when the body has ended, and the function yields what the update has made of it. -/
theorem loop_variable_shared_once :
    let m := Machine.start (.unused .playwright)
    let reader := Function.mk none [] (.expr (.ident "x")) true false
    let l : ForLoop := ⟨"x", .bool true, some (.ident "x"),
      some (.assign .assign (.ident "x") (.bool false)), .expr (.function reader)⟩
    let c : Closure := ⟨reader, m.nextScope⟩
    ∃ start e m', l.Begins globalScope m (.bool true) start ∧
      l.Turns m.nextScope start [e] (.ok .normal) m' ∧ c.Reads l.name ∧
      e.heap.closure? m.heap.closures.size = some c ∧
      e.scopes.holder? c.scope l.name = some m.nextScope ∧ m'.Later m' ∧
      e.Yields c (.bool true) ∧ m'.Yields c (.bool false) := by
  intro m reader l c
  let start := (m.opened globalScope).declared m.nextScope "x" (.bool true) true
  let e : Machine := { start with heap := (start.heap.newClosure c).2 }
  let m' := e.declared m.nextScope "x" (.bool false) true
  have hbegins : l.Begins globalScope m (.bool true) start :=
    ⟨_, _, ⟨m, rfl, rfl⟩, (comesTo_eval_literal rfl).mpr ⟨rfl, rfl⟩, rfl⟩
  have hstart : start.scopes.own? m.nextScope "x" = some ⟨.bool true, true⟩ :=
    hbegins.declared
  have hsize : m.nextScope < start.scopes.frames.size := by
    simp [start, Machine.declared, Machine.opened, Machine.nextScope, Scopes.declare, Scopes.child,
      Scopes.push]
  have hend : m'.scopes.own? m.nextScope "x" = some ⟨.bool false, true⟩ :=
    (Scopes.own?_declare ..).trans (if_pos ⟨rfl, rfl, hsize⟩)
  have htest (m₁ : Machine) (b : Bool) (hsteps : m₁.takeStep = (true, m₁))
      (hx : m₁.scopes.own? m.nextScope "x" = some ⟨.bool b, true⟩) :
      ComesTo (l.goesOn · m.nextScope) m₁ (.ok b) m₁ := by
    simp only [ForLoop.goesOn, l]
    rw [comesTo_bind_ok (steady_eval _ _) fun v => .const (pure v.truthy)]
    refine ⟨.bool b, m₁, comesTo_eval_ident.mpr ⟨hsteps, ?_⟩, comesTo_pure.mpr ⟨rfl, rfl⟩⟩
    exact Scopes.lookup_eq_some_iff.mpr ⟨_, _, Scopes.holder?_self hx, hx⟩
  have hbody : ComesTo (execScoped · l.body m.nextScope) start (.ok .normal) e := by
    refine ⟨4, runOn_attempt_eq_ok_iff.mpr ?_⟩
    simp only [l, execScoped, exec, eval, runOn_bind, runOn_step (m := start) rfl]
    rfl
  have hupdate : ComesTo (l.advance · m.nextScope) e (.ok ()) m' := by
    refine ⟨3, runOn_attempt_eq_ok_iff.mpr ?_⟩
    have hassign := runOn_assignName (m := e) (Scopes.holder?_self hstart) hstart rfl (.bool false)
    simp only [l, ForLoop.advance, eval, assign, compound?, runOn_bind, runOn_step (m := e) rfl,
      runOn_pure, hassign]
    rfl
  have hturns : l.Turns m.nextScope start [e] (.ok .normal) m' :=
    .next (htest start true rfl hstart) hbody rfl hupdate (.finished (htest m' false rfl hend))
  have hreads : c.Reads l.name := ⟨rfl, rfl⟩
  have hheld : e.scopes.holder? c.scope l.name = some m.nextScope := Scopes.holder?_self hstart
  have hshared := loop_variable_shared l globalScope m m' (.ok .normal)
  obtain ⟨u, mutable, hu, hyields⟩ := (hshared.2 _ _ _ hbegins hturns).2 m' .now
  obtain rfl : u = .bool false := by
    cases hend.symm.trans hu
    rfl
  have hlast : m'.Yields c (.bool false) := by
    refine (hyields e List.mem_cons_self c hreads hheld).resolve_right ?_
    rintro ⟨nearer, hnone, hnearer⟩
    obtain rfl := Option.some.inj ((Scopes.holder?_self hend).symm.trans hnearer)
    cases hstart.symm.trans hnone
  refine ⟨start, e, m', hbegins, hturns, hreads, ?_, hheld, .now, hreads.yields hheld hstart, hlast⟩
  simp [e, start, Heap.newClosure, Heap.closure?, Machine.declared, Machine.opened]

/-- Functions that are made in three rounds read what the last update has left. -/
theorem loop_variable_not_kept :
    runText? 100 ("const fs = []; for (let i = 0; i < 3; i++) \x7b fs.push(() => i) \x7d " ++
        "console.log(fs.map(f => f()).join())")
        (.unused .playwright) =
      some (.completed, ["3,3,3"]) := by
  decide +kernel

end BrowserLab.Script
