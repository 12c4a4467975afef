import BrowserLab.Proofs.Script.ComesTo

/-!
# Statements that are executed finally

A statement that attempts something guards a block: what the block throws goes to a handler, if
there is one, and in the end a last block is executed.  `Guarded` says in which ways the part before
the last block comes to an end, and `Unbound` is the one way in which it does not: what was thrown
cannot be bound to the parameter of the handler.

* `attempt_then_finally`: the last block is executed after the guarded part and once, unless that
  cannot be bound.
-/

namespace BrowserLab.Script

open Eval

variable {scope : Nat} {m m' : Machine} {r : Except Value Completion}

/-! ### Blocks -/

/-- Statements in a block are executed in a scope of their own. -/
theorem comesTo_execScoped_block {body : List Stmt} :
    ComesTo (execScoped · (.block body) scope) m r m' ↔
      ComesTo (execBlock · body m.nextScope) (m.opened scope) r m' := by
  rw [comesTo_succ (by rw [execScoped])]
  simp only [execScoped]
  exact comesTo_after (runOn_openScope scope m)

/-! ### Handlers -/

/-- Binds what was thrown to the parameter of a handler, if it has one. -/
def bindThrown (fuel : Nat) (param : Option Pattern) (thrown : Value) (scope : Nat) : Eval Unit :=
  match param with
  | some pattern => Script.bind fuel pattern thrown scope true
  | none => pure ()

theorem steady_bindThrown (param : Option Pattern) (thrown : Value) (scope : Nat) :
    Steady fun n => bindThrown n param thrown scope := by
  cases param with
  | none => exact .const _
  | some pattern => exact steady_bind pattern thrown scope true

/-- Neither without a parameter nor with a name can the binding fail. -/
theorem not_comesTo_bindThrown_error {param : Option Pattern} {thrown w : Value}
    (hparam : ∀ pattern ∈ param, ∃ name, pattern = .ident name) :
    ¬ ComesTo (bindThrown · param thrown scope) m (.error w) m' := by
  intro h
  cases param with
  | none =>
    rw [show (bindThrown · none thrown scope) = fun _ => pure () from rfl, comesTo_pure] at h
    cases h.1
  | some pattern =>
    obtain ⟨name, rfl⟩ := hparam pattern rfl
    cases (comesTo_bind_ident.mp h).1

/-- What is missing has no properties that a pattern could take out. -/
theorem comesTo_bind_missing {bindings : List Binding} {rest : Option String} {v : Value}
    (hv : v.isNullish = true) {mutable : Bool} {r : Except Value Unit} :
    ComesTo (Script.bind · (.object bindings rest) v scope mutable) m r m' ↔
      r = .error (.object m.heap.objects.size) ∧
        m' = m.withError "TypeError" ("Cannot destructure '" ++ m.heap.display v ++ "' as it is " ++
          m.heap.display v ++ ".") := by
  rw [comesTo_succ (by rw [Script.bind])]
  unfold Script.bind
  simp only [hv, if_pos]
  rw [comesTo_after (runOn_display v m), comesTo_typeError]

/-- A handler is executed in a scope in which its parameter has been bound.  What it throws becomes
a result; what the binding throws does not. -/
theorem comesTo_execHandler {param : Option Pattern} {thrown : Value} {handler : List Stmt}
    {r : Except Value (Except Value Completion)} :
    ComesTo (execHandler · param thrown handler scope) m r m' ↔
      (∃ w, r = .error w ∧
        ComesTo (bindThrown · param thrown m.nextScope) (m.opened scope) (.error w) m') ∨
      ∃ m₁ s, ComesTo (bindThrown · param thrown m.nextScope) (m.opened scope) (.ok ()) m₁ ∧
        ComesTo (execBlock · handler m.nextScope) m₁ s m' ∧ r = .ok s := by
  have hunfold : ∀ n, execHandler (n + 1) param thrown handler scope =
      openScope scope >>= fun inner => bindThrown n param thrown inner >>= fun _ =>
        attempt (execBlock n handler inner) := by
    intro n
    rw [execHandler]
    cases param <;> rfl
  rw [comesTo_succ (by rw [execHandler])]
  simp only [hunfold]
  rw [comesTo_after (runOn_openScope scope m), comesTo_bind (steady_bindThrown _ _ _)
    fun _ => (steady_execBlock _ _).attempt]
  simp only [comesTo_attempt]
  grind

/-! ### The guarded part -/

section Guarded

variable (block : List Stmt) (param : Option Pattern) (handler : Option (List Stmt)) (scope : Nat)
  (m : Machine)

/-- The ways in which the part before the last block comes to an end: the block completes, or what
it throws is not handled, or it is bound and handled. -/
inductive Guarded : Except Value Completion → Machine → Prop
  | completed {c : Completion} {m' : Machine}
      (hblock : ComesTo (execScoped · (.block block) scope) m (.ok c) m') : Guarded (.ok c) m'
  | unhandled {thrown : Value} {m' : Machine} (hnone : handler = none)
      (hblock : ComesTo (execScoped · (.block block) scope) m (.error thrown) m') :
      Guarded (.error thrown) m'
  | handled {thrown : Value} {statements : List Stmt} {m₁ m₂ m' : Machine}
      {r : Except Value Completion} (hsome : handler = some statements)
      (hblock : ComesTo (execScoped · (.block block) scope) m (.error thrown) m₁)
      (hbound : ComesTo (bindThrown · param thrown m₁.nextScope) (m₁.opened scope) (.ok ()) m₂)
      (hhandler : ComesTo (execBlock · statements m₁.nextScope) m₂ r m') : Guarded r m'

/-- What the block throws is to be handled, but to bind it throws another value. -/
inductive Unbound : Value → Machine → Prop
  | intro {thrown w : Value} {m₁ m' : Machine} (hsome : handler.isSome)
      (hblock : ComesTo (execScoped · (.block block) scope) m (.error thrown) m₁)
      (hbinding : ComesTo (bindThrown · param thrown m₁.nextScope) (m₁.opened scope)
        (.error w) m') : Unbound w m'

end Guarded

/-- How a statement completes whose guarded part came to the first result and whose last block came
to the other one. -/
def concluded (guarded : Except Value Completion) :
    Except Value Completion → Except Value Completion
  | .ok .normal => guarded
  | last => last

variable {block finalizer : List Stmt} {param : Option Pattern} {handler : Option (List Stmt)}

/-- What remains of the guarded part once its block has been executed. -/
def afterBlock (fuel : Nat) (param : Option Pattern) (handler : Option (List Stmt)) (scope : Nat)
    (first : Except Value Completion) : Eval (Except Value Completion) :=
  match first, handler with
  | .error thrown, some handler => execHandler fuel param thrown handler scope
  | result, _ => pure result

/-- The guarded part. -/
def guardedPart (fuel : Nat) (block : List Stmt) (param : Option Pattern)
    (handler : Option (List Stmt)) (scope : Nat) : Eval (Except Value Completion) := do
  let inner ← openScope scope
  let first ← attempt (execBlock fuel block inner)
  afterBlock fuel param handler scope first

/-- What remains of the statement once its guarded part has come to an end. -/
def lastBlock (fuel : Nat) (finalizer : List Stmt) (scope : Nat)
    (guarded : Except Value Completion) : Eval Completion := do
  let inner ← openScope scope
  match ← execBlock fuel finalizer inner with
  | .normal => resume guarded
  | other => return other

theorem exec_attempt (n : Nat) :
    exec (n + 1) (.attempt block param handler (some finalizer)) scope =
      step >>= fun _ => guardedPart n block param handler scope >>=
        lastBlock n finalizer scope := by
  simp only [exec, guardedPart, bind_assoc]
  refine bind_congr fun _ => bind_congr fun inner => bind_congr fun first => ?_
  cases first <;> cases handler <;> rfl

theorem steady_afterBlock (param : Option Pattern) (handler : Option (List Stmt)) (scope : Nat)
    (first : Except Value Completion) : Steady fun n => afterBlock n param handler scope first := by
  match first, handler with
  | .ok c, none => exact .const _
  | .ok c, some _ => exact .const _
  | .error v, none => exact .const _
  | .error v, some statements => exact steady_execHandler param v statements scope

theorem steady_guardedPart (block : List Stmt) (param : Option Pattern)
    (handler : Option (List Stmt)) (scope : Nat) :
    Steady fun n => guardedPart n block param handler scope :=
  (Steady.const _).bind fun inner =>
    (steady_execBlock block inner).attempt.bind fun _ => steady_afterBlock _ _ _ _

theorem steady_lastBlock (finalizer : List Stmt) (scope : Nat) (guarded : Except Value Completion) :
    Steady fun n => lastBlock n finalizer scope guarded :=
  (Steady.const _).bind fun inner =>
    (steady_execBlock finalizer inner).bind fun c => by cases c <;> exact .const _

/-- The last block decides how the statement completes unless it completes normally. -/
theorem comesTo_lastBlock {guarded : Except Value Completion} :
    ComesTo (lastBlock · finalizer scope guarded) m r m' ↔
      ∃ last, ComesTo (execScoped · (.block finalizer) scope) m last m' ∧
        r = concluded guarded last := by
  simp only [lastBlock, comesTo_execScoped_block]
  rw [comesTo_after (runOn_openScope scope m),
    comesTo_bind (steady_execBlock _ _) fun c => by cases c <;> exact .const _]
  constructor
  · rintro (⟨v, rfl, h⟩ | ⟨c, m₁, h, hrest⟩)
    · exact ⟨_, h, rfl⟩
    · cases c <;> simp at hrest <;> obtain ⟨rfl, rfl⟩ := hrest <;> exact ⟨_, h, rfl⟩
  · rintro ⟨v | c, h, rfl⟩
    · exact .inl ⟨v, rfl, h⟩
    · refine .inr ⟨c, m', h, ?_⟩
      cases c <;> simp [concluded]

theorem comesTo_afterBlock_ok {c : Completion} {s : Except Value (Except Value Completion)} :
    ComesTo (afterBlock · param handler scope (.ok c)) m s m' ↔ s = .ok (.ok c) ∧ m' = m := by
  cases handler <;> exact comesTo_pure

theorem comesTo_guardedPart {s : Except Value (Except Value Completion)} :
    ComesTo (guardedPart · block param handler scope) m s m' ↔
      (∃ w, Unbound block param handler scope m w m' ∧ s = .error w) ∨
        ∃ guarded, Guarded block param handler scope m guarded m' ∧ s = .ok guarded := by
  simp only [guardedPart]
  rw [comesTo_after (runOn_openScope scope m),
    comesTo_bind (steady_execBlock _ _).attempt fun _ => steady_afterBlock _ _ _ _]
  simp only [comesTo_attempt, ← comesTo_execScoped_block]
  constructor
  · rintro (⟨v, rfl, s, hs, -⟩ | ⟨first, m₁, ⟨_, hfirst, hblock⟩, hrest⟩)
    · cases hs
    cases hfirst
    match first, handler, hrest with
    | .ok c, handler, hrest =>
      obtain ⟨rfl, rfl⟩ := comesTo_afterBlock_ok.mp hrest
      exact .inr ⟨_, .completed hblock, rfl⟩
    | .error thrown, none, hrest =>
      obtain ⟨rfl, rfl⟩ := comesTo_pure.mp hrest
      exact .inr ⟨_, .unhandled rfl hblock, rfl⟩
    | .error thrown, some statements, hrest =>
      rcases comesTo_execHandler.mp hrest with ⟨w, rfl, hbinding⟩ | ⟨m₂, r, hbound, hhandler, rfl⟩
      · exact .inl ⟨w, .intro rfl hblock hbinding, rfl⟩
      · exact .inr ⟨r, .handled rfl hblock hbound hhandler, rfl⟩
  · rintro (⟨w, ⟨hsome, hblock, hbinding⟩, rfl⟩ | ⟨guarded, hguarded, rfl⟩)
    · obtain ⟨statements, rfl⟩ := Option.isSome_iff_exists.mp hsome
      exact .inr ⟨_, _, ⟨_, rfl, hblock⟩, comesTo_execHandler.mpr (.inl ⟨w, rfl, hbinding⟩)⟩
    · cases hguarded with
      | completed hblock =>
        exact .inr ⟨_, _, ⟨_, rfl, hblock⟩, comesTo_afterBlock_ok.mpr ⟨rfl, rfl⟩⟩
      | unhandled hnone hblock =>
        subst hnone
        exact .inr ⟨_, _, ⟨_, rfl, hblock⟩, comesTo_pure.mpr ⟨rfl, rfl⟩⟩
      | handled hsome hblock hbound hhandler =>
        subst hsome
        exact .inr ⟨_, _, ⟨_, rfl, hblock⟩,
          comesTo_execHandler.mpr (.inr ⟨_, _, hbound, hhandler, rfl⟩)⟩

/-! ### The statement -/

/-- The guarded part does not both come to an end and fail to bind. -/
theorem Guarded.not_unbound {guarded : Except Value Completion} {w : Value} {m₁ m₂ : Machine}
    (h : Guarded block param handler scope m guarded m₁) :
    ¬ Unbound block param handler scope m w m₂ := by
  intro hunbound
  have heq := (comesTo_guardedPart.mpr (.inr ⟨guarded, h, rfl⟩)).unique
    (steady_guardedPart block param handler scope)
    (comesTo_guardedPart.mpr (.inl ⟨w, hunbound, rfl⟩))
  cases heq.1

theorem Unbound.pattern {w : Value} (h : Unbound block param handler scope m w m') :
    ∃ pattern ∈ param, ∀ name, pattern ≠ .ident name := by
  obtain ⟨-, -, hbinding⟩ := h
  cases param with
  | none => exact absurd hbinding (not_comesTo_bindThrown_error (by simp))
  | some pattern =>
    refine ⟨pattern, rfl, fun name hname => not_comesTo_bindThrown_error ?_ hbinding⟩
    simp [hname]

/-- **The last block is executed after the guarded part, and once**, in every scope and state and
however the block, the binding of the parameter and the handler complete; then the statement
completes as the last block does, or as the guarded part did if the last block completes normally.
The one exception is a binding that throws: the statement throws what it threw, and the last block
is not executed.  That needs a parameter that is a pattern, and no name. -/
theorem attempt_then_finally (block : List Stmt) (param : Option Pattern)
    (handler : Option (List Stmt)) (finalizer : List Stmt) (scope : Nat) (m m' : Machine)
    (r : Except Value Completion) :
    (ComesTo (exec · (.attempt block param handler (some finalizer)) scope) m r m' ↔
      ∃ m₀, m.takeStep = (true, m₀) ∧
        ((∃ guarded m₁ last, Guarded block param handler scope m₀ guarded m₁ ∧
            ComesTo (execScoped · (.block finalizer) scope) m₁ last m' ∧
            r = concluded guarded last) ∨
          ∃ w, Unbound block param handler scope m₀ w m' ∧ r = .error w)) ∧
      ∀ m₀ w m₁, Unbound block param handler scope m₀ w m₁ →
        (∃ pattern ∈ param, ∀ name, pattern ≠ .ident name) ∧
          ∀ guarded m₂, ¬ Guarded block param handler scope m₀ guarded m₂ := by
  refine ⟨?_, fun m₀ w m₁ h => ⟨h.pattern, fun guarded m₂ hguarded => hguarded.not_unbound h⟩⟩
  rw [comesTo_succ (by rw [exec])]
  simp only [exec_attempt]
  rw [comesTo_step]
  refine exists_congr fun m₀ => and_congr_right fun _ => ?_
  rw [comesTo_bind (steady_guardedPart _ _ _ _) fun _ => steady_lastBlock _ _ _]
  simp only [comesTo_guardedPart, comesTo_lastBlock]
  grind

/-- Null is thrown, and has no properties that could be bound. -/
theorem attempt_then_finally_unbound :
    let param := some (.object [.mk "name" (.ident "name") none] none)
    let closed := Element.item (.string "closed")
    let log := .expr (.call (.member (.ident "console") "log" false) [closed] false)
    let m := Machine.start (.unused .cypress)
    ∃ w m', Unbound [.throw .null] param (some []) globalScope m w m' ∧
      ComesTo (exec · (.attempt [.throw .null] param (some []) (some [log])) globalScope) m
        (.error w) m' ∧
      m'.console = [] ∧ (∃ pattern ∈ param, ∀ name, pattern ≠ .ident name) ∧
        ∀ guarded m₂, ¬ Guarded [.throw .null] param (some []) globalScope m guarded m₂ := by
  intro param closed log m
  have hthrown : ComesTo (execScoped · (.block [.throw .null]) globalScope) m (.error .null)
      (m.opened globalScope) := by
    refine ⟨5, runOn_attempt_eq_error_iff.mpr ?_⟩
    simp [execScoped, execBlock, execAll, hoist, exec, eval, runOn_bind, runOn_openScope,
      throwValue, runOn_step (m := m.opened globalScope) rfl]
  let m₁ := (m.opened globalScope).opened globalScope
  have hbinding : ComesTo (bindThrown · param .null (m.opened globalScope).nextScope) m₁
      (.error (.object m₁.heap.objects.size))
      (m₁.withError "TypeError" "Cannot destructure 'null' as it is null.") :=
    (comesTo_bind_missing rfl).mpr ⟨rfl, rfl⟩
  have hunbound : Unbound [.throw .null] param (some []) globalScope m _ _ :=
    .intro rfl hthrown hbinding
  have hfinally := attempt_then_finally [.throw .null] param (some []) [log] globalScope m
  exact ⟨_, _, hunbound, (hfinally _ _).1.mpr ⟨m, rfl, .inr ⟨_, hunbound, rfl⟩⟩, rfl,
    (hfinally m (.error .null)).2 m _ _ hunbound⟩

/-- A script that would close what it has opened does not, as null is thrown in between. -/
theorem finally_skipped :
    runText? 100 ("try \x7b throw null \x7d catch (\x7b name \x7d) \x7b \x7d " ++
        "finally \x7b console.log('closed') \x7d")
        (.unused .playwright) =
      some (.failed "Cannot destructure 'null' as it is null.", []) := by
  decide +kernel

end BrowserLab.Script
