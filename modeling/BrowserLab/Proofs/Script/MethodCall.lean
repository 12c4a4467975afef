import BrowserLab.Proofs.Script.Chain
import BrowserLab.Proofs.Surface.Request

/-!
# Calls of methods

A script calls a method of a value in an expression: the receiver comes to the value, then the
arguments come to their values, and then a step is taken for the call.

* `comesTo_methodCall`: the expression comes to what the method comes to.
* `Expr.Calls`: an expression comes to a call of a method of a handle.
* `comesTo_of_calls`: the expression comes to what the reply of the handle is settled to.
* `comesTo_settle_callback`: a callback is called once.
* `runOn_customCommand`: which commands are looked up among those that a script has added.
-/

namespace BrowserLab.Script

open Eval

variable {α β : Type} {m m' m₁ : Machine} {scope : Nat} {e : Expr} {h : Handle} {name : String}
  {args : List Value} {r : Except Value Value}

/-! ### From an expression to a call -/

/-- The method of an object is called with arguments. -/
def Expr.methodCall (receiver : Expr) (name : String) (args : List Element) : Expr :=
  receiver.chain [.member name false, .call args false]

/-- From one machine the expression comes to a call of a method of a handle on another machine. -/
inductive Expr.Calls (scope : Nat) (m : Machine) :
    Expr → Handle → String → List Value → Machine → Prop
  | intro {receiver : Expr} {items : List Element} {h : Handle} {name : String} {args : List Value}
      {m₀ m₁ m₂ m' : Machine} (steps : m.Steps 2 m₀)
      (receiver_comes : ComesTo (eval · receiver scope) m₀ (.ok (.handle h)) m₁)
      (method : Surface.property? h name = none)
      (items_come : ComesTo (evalElements · items scope) m₁ (.ok args) m₂)
      (step : m₂.takeStep = (true, m')) :
      Calls scope m (receiver.methodCall name items) h name args m'

/-- A computation that is known to come to a value, and then another. -/
theorem comesTo_bind_of_ok {x : Nat → Eval α} {f : Nat → α → Eval β} (hx : Steady x)
    (hf : ∀ a, Steady fun n => f n a) {a : α} (ha : ComesTo x m (.ok a) m₁) {r : Except Value β} :
    ComesTo (fun n => x n >>= f n) m r m' ↔ ComesTo (fun n => f n a) m₁ r m' := by
  rw [comesTo_bind hx hf]
  constructor
  · rintro (⟨w, rfl, hthrown⟩ | ⟨b, m₂, hb, h⟩)
    · cases (ha.unique hx hthrown).1
    · obtain ⟨⟨⟩, rfl⟩ := ha.unique hx hb
      exact h
  · exact fun h => .inr ⟨a, m₁, ha, h⟩

/-- A computation that throws, and then another that is not come to. -/
theorem comesTo_bind_of_thrown {y : Eval α} {f : Nat → α → Eval β} {w : Value}
    (hy : y.runOn m = (.error (.thrown w), m₁)) {r : Except Value β} :
    ComesTo (fun n => y >>= f n) m r m' ↔ r = .error w ∧ m' = m₁ := by
  simp [ComesTo, runOn_attempt_bind, runOn_attempt_eq_error_iff.mpr hy, eq_comm]

theorem comesTo_evalElements_nil : ComesTo (evalElements · [] scope) m (.ok []) m := by
  rw [comesTo_succ (by rw [evalElements])]
  simp only [evalElements]
  exact comesTo_pure.mpr ⟨rfl, rfl⟩

/-- The arguments of a call come to their values one after the other. -/
theorem comesTo_evalElements_cons {items : List Element} {v : Value} {vs : List Value}
    (he : ComesTo (eval · e scope) m (.ok v) m₁)
    (hitems : ComesTo (evalElements · items scope) m₁ (.ok vs) m') :
    ComesTo (evalElements · (.item e :: items) scope) m (.ok (v :: vs)) m' := by
  have hsteady (v : Value) :
      Steady fun n => evalElements n items scope >>= fun vs => pure (v :: vs) :=
    (steady_evalElements items scope).bind fun _ => .const _
  rw [comesTo_succ (by rw [evalElements])]
  simp only [evalElements]
  rw [comesTo_bind_of_ok (steady_eval e scope) hsteady he,
    comesTo_bind_of_ok (steady_evalElements items scope) (fun vs => .const (pure (v :: vs))) hitems,
    comesTo_pure]
  exact ⟨rfl, rfl⟩

theorem comesTo_evalElements_item {v : Value} (he : ComesTo (eval · e scope) m (.ok v) m') :
    ComesTo (evalElements · [.item e] scope) m (.ok [v]) m' :=
  comesTo_evalElements_cons he comesTo_evalElements_nil

/-- A method that was looked up on a value is called on the value. -/
theorem comesTo_call_method {v : Value} (hstep : m.takeStep = (true, m₁)) :
    ComesTo (call · (.method v name) args) m r m' ↔
      ComesTo (callMethod · v name args) m₁ r m' := by
  rw [comesTo_succ (by rw [call])]
  simp only [call]
  rw [comesTo_step]
  constructor
  · rintro ⟨m₂, hstep', h⟩
    obtain rfl : m₁ = m₂ := (Prod.mk.inj (hstep.symm.trans hstep')).2
    exact h
  · exact fun h => ⟨m₁, hstep, h⟩

/-- What is called on a handle is settled from the reply of the handle. -/
theorem comesTo_callMethod_handle :
    ComesTo (callMethod · (.handle h) name args) m r m' ↔
      ComesTo (fun n => Surface.invoke h name args >>= settle n) m r m' := by
  rw [comesTo_succ (by rw [callMethod])]
  simp only [callMethod]

/-- The expression comes to what the call of the receiver's property comes to. -/
theorem comesTo_propertyCall {receiver : Expr} {items : List Element} {v f : Value}
    {m₀ mr ma : Machine} (steps : m.Steps 2 m₀)
    (hreceiver : ComesTo (eval · receiver scope) m₀ (.ok v) mr)
    (hproperty : (getProperty v name).runOn mr = (.ok f, mr)) (hf : f.isCallable = true)
    (hitems : ComesTo (evalElements · items scope) mr (.ok args) ma) :
    ComesTo (eval · (receiver.methodCall name items) scope) m r m' ↔
      ComesTo (call · f args) ma r m' := by
  have hfollow (n : Nat) :
      followAll n scope [.member name false, .call items false] receiver v =
        getProperty v name >>= fun w =>
          (ChainLink.call items false).follow n (receiver.member name false) scope w := by
    simp only [followAll, bind_pure]
    rfl
  have hcall (n : Nat) : (ChainLink.call items false).follow n (receiver.member name false) scope f =
      evalElements n items scope >>= fun args => call n f args := by
    simp [ChainLink.follow, ChainLink.isOptional, ChainLink.take, hf]
  have hsteps : m.Steps [ChainLink.member name false, .call items false].length m₀ := steps
  rw [Expr.methodCall, comesTo_chain hsteps,
    comesTo_bind_of_ok (steady_eval receiver scope)
      (fun v => steady_followAll scope _ receiver v) hreceiver]
  simp only [hfollow]
  rw [comesTo_after hproperty]
  simp only [hcall]
  rw [comesTo_bind_of_ok (steady_evalElements items scope) (fun _ => steady_call _ _) hitems]

/-- The expression comes to what the method of the receiver comes to. -/
theorem comesTo_methodCall {receiver : Expr} {items : List Element} {v : Value}
    {m₀ mr ma : Machine} (steps : m.Steps 2 m₀)
    (hreceiver : ComesTo (eval · receiver scope) m₀ (.ok v) mr)
    (hmethod : (getProperty v name).runOn mr = (.ok (.method v name), mr))
    (hitems : ComesTo (evalElements · items scope) mr (.ok args) ma)
    (step : ma.takeStep = (true, m₁)) :
    ComesTo (eval · (receiver.methodCall name items) scope) m r m' ↔
      ComesTo (callMethod · v name args) m₁ r m' := by
  rw [comesTo_propertyCall steps hreceiver hmethod rfl hitems, comesTo_call_method step]

/-- The expression comes to what the reply of the handle is settled to. -/
theorem comesTo_of_calls (hcalls : e.Calls scope m h name args m₁) :
    ComesTo (eval · e scope) m r m' ↔
      ComesTo (fun n => Surface.invoke h name args >>= settle n) m₁ r m' := by
  cases hcalls with
  | @intro receiver items _ _ _ m₀ mr ma _ steps hreceiver hproperty hitems step =>
    have hget : (getProperty (.handle h) name).runOn mr = (.ok (.method (.handle h) name), mr) := by
      have hmethod : (Surface.property? h name).getD (.method (.handle h) name) =
          .method (.handle h) name := by rw [hproperty, Option.getD_none]
      exact congrArg (Except.ok ·, mr) hmethod
    rw [comesTo_methodCall steps hreceiver hget hitems step, comesTo_callMethod_handle]

/-! ### Replies -/

theorem steady_settle (reply : Reply) : Steady fun n => settle n reply :=
  .of_follows fun h style => (along_same h style).settle reply.all_any

/-- What is settled from a reply that is known. -/
theorem comesTo_invoke {reply : Reply} {m₂ : Machine}
    (hreply : (Surface.answerCall h name args).runOn (m.noted h name) = (.ok reply, m₂)) :
    ComesTo (fun n => Surface.invoke h name args >>= settle n) m r m' ↔
      ComesTo (fun n => settle n reply) m₂ r m' :=
  comesTo_after hreply

/-- A reply that is a value is settled at once. -/
theorem comesTo_settle_value {v : Value} :
    ComesTo (fun n => settle n (.value v)) m r m' ↔ r = .ok v ∧ m' = m := by
  rw [comesTo_succ (by rw [settle])]
  simp only [settle, comesTo_pure]

/-- A callback is called once, and what it returns is turned into the result. -/
theorem comesTo_settle_callback {callee : Value} {s : Settle} :
    ComesTo (fun n => settle n (.callback callee args s)) m r m' ↔
      ∃ result, ComesTo (call · callee args) m result m' ∧ r = result.map s.apply := by
  rw [comesTo_succ (by rw [settle])]
  simp only [settle]
  rw [comesTo_bind (steady_call callee args) fun v => .const (pure (s.apply v))]
  simp only [comesTo_pure]
  constructor
  · rintro (⟨w, rfl, hthrown⟩ | ⟨v, m₂, hv, rfl, rfl⟩)
    · exact ⟨_, hthrown, rfl⟩
    · exact ⟨_, hv, rfl⟩
  · rintro ⟨result, hresult, rfl⟩
    cases result with
    | error w => exact .inl ⟨w, rfl, hresult⟩
    | ok v => exact .inr ⟨v, m', hresult, rfl, rfl⟩

/-- A function that is there from the beginning has its value at once. -/
theorem comesTo_call_builtin {b : Builtin} {v : Value} {m₂ : Machine}
    (hstep : m.takeStep = (true, m₁))
    (hreply : (callBuiltin b args).runOn m₁ = (.ok (.value v), m₂)) :
    ComesTo (call · (.builtin b) args) m (.ok v) m₂ := by
  rw [comesTo_succ (by rw [call])]
  simp only [call]
  rw [comesTo_step]
  refine ⟨m₁, hstep, ?_⟩
  rw [comesTo_after hreply]
  exact comesTo_settle_value.mpr ⟨rfl, rfl⟩

/-! ### Commands of the script's own -/

/-- The commands that are there from the beginning. -/
def builtinCommands : List String :=
  ["visit", "request", "get", "contains", "intercept", "wrap", "window", "document", "url",
    "location"] ++ Surface.idleCommands

theorem commandMethod_of_not_builtin (hname : name ∉ builtinCommands) :
    Surface.commandMethod name args = Surface.customCommand name args := by
  unfold Surface.commandMethod
  split
  case h_11 =>
    refine if_neg fun hidle => hname (List.mem_append_right _ ?_)
    exact List.contains_iff_mem.mp hidle
  all_goals exact absurd (by decide) hname

/-- A command of the script's own asks for its function to be called; any other name is that of a
method that is left for all handles. -/
theorem runOn_customCommand (name : String) (args : List Value) (m : Machine) :
    (Surface.customCommand name args).runOn m =
      match m.browser.commands.get? name with
      | some f => (.ok (.callback f args .cy), m)
      | none => (Surface.fallback .cy name args).runOn m := by
  unfold Surface.customCommand
  refine (runOn_bind_ok (show (Eval.browser (·.commands)).runOn m = (.ok m.browser.commands, m)
    from rfl)).trans ?_
  cases m.browser.commands.get? name <;> rfl

end BrowserLab.Script
