import BrowserLab.Proofs.Script.Json.Echo
import BrowserLab.Proofs.Script.Scoping

/-!
# Scripts that register one test

A script whose only statement registers a test, at once or in a group, runs its statement and then
the function of that test.  If neither does anything in the browser, neither does the run.

* `runOn_eval_test`, `runOn_eval_group`: what the calls that register come to.
* `run_test`: the run of such a script, when the function of its test returns.
* `run_idleTest`, `run_idleGroup`: a test that does nothing, alone and in a group.
-/

namespace BrowserLab.Script

open Eval

variable {m m' : Machine} {fuel scope ref : Nat} {e : Expr} {v : Value} {c : Closure}
  {body : List Stmt}

/-! ### Calls -/

/-- In a scope that has just been opened a name means what it means around it. -/
theorem Scopes.lookup_child {s : Scopes Value} {name : String}
    (h : s.lookup scope name = some v) :
    (s.child scope).2.lookup s.frames.size name = some v := by
  obtain ⟨holder, mutable, hholder, hown⟩ := Scopes.lookup_eq_some_iff.mp h
  refine Scopes.lookup_eq_some_iff.mpr ⟨holder, mutable, Scopes.holder?_child hholder, ?_⟩
  rw [Scopes.own?_child]
  exact hown

theorem runOn_eval_name {name : String} (hm : m.stepsLeft = none)
    (hname : m.scopes.lookup scope name = some v) :
    (eval (fuel + 1) (.ident name) scope).runOn m = (.ok v, m) := by
  have hlookup : (lookup? scope name).runOn m = (.ok (some v), m) := by
    rw [← hname]
    rfl
  rw [eval, runOn_bind_ok (runOn_step hm), runOn_bind_ok hlookup]
  rfl

/-- The machine once a function has been made. -/
def Machine.withClosure (m : Machine) (c : Closure) : Machine :=
  { m with heap := (m.heap.newClosure c).2 }

theorem Machine.closure?_withClosure (m : Machine) (c : Closure) :
    (m.withClosure c).heap.closure? m.heap.closures.size = some c := by
  simp [withClosure, Heap.newClosure, Heap.closure?]

/-- A call of what a name stands for, with a text and a function. -/
theorem runOn_eval_named {name title : String} {f : Function} {b : Builtin}
    (hm : m.stepsLeft = none) (hname : m.scopes.lookup scope name = some (.builtin b)) :
    (eval (fuel + 5) (.call (.ident name) [.item (.string title), .item (.function f)] false)
      scope).runOn m =
      (call (fuel + 4) (.builtin b) [.string title, .closure m.heap.closures.size]).runOn
        (m.withClosure ⟨f, scope⟩) := by
  have hstring : (eval (fuel + 3) (.string title) scope).runOn m = (.ok (.string title), m) := by
    rw [eval, runOn_bind_ok (runOn_step hm)]
    rfl
  have hfunction : (eval (fuel + 2) (.function f) scope).runOn m =
      (.ok (.closure m.heap.closures.size), m.withClosure ⟨f, scope⟩) := by
    rw [eval, runOn_bind_ok (runOn_step hm)]
    rfl
  have hargs : (evalElements (fuel + 4) [.item (.string title), .item (.function f)]
      scope).runOn m =
      (.ok [.string title, .closure m.heap.closures.size], m.withClosure ⟨f, scope⟩) := by
    have hnone : (evalElements (fuel + 2) [] scope).runOn (m.withClosure ⟨f, scope⟩) =
        (.ok [], m.withClosure ⟨f, scope⟩) := by
      rw [evalElements]
      · rfl
      · exact Nat.succ_ne_zero _
    have hrest : (evalElements (fuel + 3) [.item (.function f)] scope).runOn m =
        (.ok [.closure m.heap.closures.size], m.withClosure ⟨f, scope⟩) := by
      rw [evalElements, runOn_bind_ok hfunction, runOn_bind_ok hnone]
      rfl
    rw [evalElements, runOn_bind_ok hstring, runOn_bind_ok hrest]
    rfl
  rw [eval, runOn_bind_ok (runOn_step hm), runOn_bind_ok (runOn_eval_name hm hname)]
  show (evalElements (fuel + 4) _ scope >>= _).runOn m = _
  rw [runOn_bind_ok hargs]

/-- The machine once a test has been registered, with a function that is made for it. -/
def Machine.withTest (m : Machine) (c : Closure) : Machine :=
  { m.withClosure c with tests := .closure m.heap.closures.size :: m.tests }

/-- A test is registered with the function that it is given. -/
theorem runOn_eval_test {name : String} (title : String) (f : Function) (hm : m.stepsLeft = none)
    (hname : m.scopes.lookup scope name = some (.builtin .test)) :
    (eval (fuel + 5) (.call (.ident name) [.item (.string title), .item (.function f)] false)
      scope).runOn m = (.ok .undefined, m.withTest ⟨f, scope⟩) := by
  have hreply : (callBuiltin .test [.string title, .closure m.heap.closures.size]).runOn
      (m.withClosure ⟨f, scope⟩) = (.ok (.value .undefined), m.withTest ⟨f, scope⟩) := rfl
  have hsteps : (m.withClosure ⟨f, scope⟩).stepsLeft = none := hm
  rw [runOn_eval_named hm hname, call, runOn_bind_ok (runOn_step hsteps)]
  show (callBuiltin .test _ >>= _).runOn _ = _
  rw [runOn_bind_ok hreply, settle]
  · rfl
  · exact Nat.succ_ne_zero _

/-- For a group, the function that it is given is called. -/
theorem runOn_eval_group {name : String} (title : String) (f : Function) (hm : m.stepsLeft = none)
    (hname : m.scopes.lookup scope name = some (.builtin .describe))
    (h : (call (fuel + 2) (.closure m.heap.closures.size) []).runOn (m.withClosure ⟨f, scope⟩) =
      (.ok v, m')) :
    (eval (fuel + 5) (.call (.ident name) [.item (.string title), .item (.function f)] false)
      scope).runOn m = (.ok .undefined, m') := by
  have hreply : (callBuiltin .describe [.string title, .closure m.heap.closures.size]).runOn
      (m.withClosure ⟨f, scope⟩) =
      (.ok (.callback (.closure m.heap.closures.size) [] .undefined), m.withClosure ⟨f, scope⟩) :=
    rfl
  have hsteps : (m.withClosure ⟨f, scope⟩).stepsLeft = none := hm
  rw [runOn_eval_named hm hname, call, runOn_bind_ok (runOn_step hsteps)]
  show (callBuiltin .describe _ >>= _).runOn _ = _
  rw [runOn_bind_ok hreply, settle, runOn_bind_ok h]
  rfl

/-- A call of a function with a block, which comes to its end. -/
theorem runOn_call_closure {args : List Value} {m₁ : Machine} (hm : m.stepsLeft = none)
    (hc : m.heap.closure? ref = some c) (hbody : c.function.body = .block body)
    (hparams : (bindParams fuel c.function.params 0 args m.nextScope).runOn (m.opened c.scope) =
      (.ok (), m₁))
    (hblock : (execBlock fuel body m.nextScope).runOn m₁ = (.ok .normal, m')) :
    (call (fuel + 2) (.closure ref) args).runOn m = (.ok .undefined, m') := by
  have hclosure : (heap (·.closure? ref)).runOn m = (.ok (some c), m) := by
    rw [← hc]
    rfl
  rw [call, runOn_bind_ok (runOn_step hm)]
  show (heap (·.closure? ref) >>= _).runOn m = _
  rw [runOn_bind_ok hclosure]
  show (callClosure (fuel + 1) c args).runOn m = _
  rw [callClosure, runOn_bind_ok (runOn_openScope c.scope m), runOn_bind_ok hparams, hbody]
  show (execBlock fuel body m.nextScope >>= _).runOn m₁ = _
  rw [runOn_bind_ok hblock]
  rfl

/-! ### Parameters -/

theorem runOn_bindParams_nil (args : List Value) (i : Nat) :
    (bindParams (fuel + 1) [] i args scope).runOn m = (.ok (), m) := by
  rw [bindParams]
  · rfl
  · exact Nat.succ_ne_zero _

/-- The parameter that takes names out of what a function is called with. -/
def namesParam (names : List String) : Param :=
  .mk (.object (names.map fun name => .mk name (.ident name) none) none) none false

/-- Whatever an object has, names can be taken out of it. -/
theorem runOn_bindMembers_object {mutable : Bool} (names : List String) (m : Machine) :
    ∃ scopes, (bindMembers (fuel + names.length + 2)
      (names.map fun name => .mk name (.ident name) none) (.object ref) scope mutable).runOn m =
        (.ok (), { m with scopes }) := by
  induction names generalizing m with
  | nil =>
    refine ⟨m.scopes, ?_⟩
    rw [List.map_nil, bindMembers]
    · rfl
    · exact Nat.succ_ne_zero _
  | cons name names ih =>
    have hitem : (getProperty (.object ref) name).runOn m =
        (.ok (objectProperty m.heap ref name), m) := rfl
    have hdefault (v : Value) : (withDefault (fuel + names.length + 2) v none scope).runOn m =
        (.ok v, m) := by
      rw [withDefault]
      rfl
    have hbind (v : Value) : (Script.bind (fuel + names.length + 2) (.ident name) v scope
        mutable).runOn m = (.ok (), m.declared scope name v mutable) := by
      rw [Script.bind]
      rfl
    obtain ⟨scopes, hrest⟩ := ih (m.declared scope name (objectProperty m.heap ref name) mutable)
    refine ⟨scopes, ?_⟩
    rw [List.map_cons]
    show (bindMembers (fuel + names.length + 2 + 1) _ _ scope mutable).runOn m = _
    rw [bindMembers, runOn_bind_ok hitem, runOn_bind_ok (hdefault _), runOn_bind_ok (hbind _),
      hrest]
    rfl

theorem runOn_bindParams_names (names : List String) (m : Machine) :
    ∃ scopes, (bindParams (fuel + names.length + 4) [namesParam names] 0 [.object ref] scope).runOn
      m = (.ok (), { m with scopes }) := by
  obtain ⟨scopes, hmembers⟩ := @runOn_bindMembers_object fuel scope ref true names m
  have hbind : (Script.bind (fuel + names.length + 3) (.object (names.map fun name =>
      .mk name (.ident name) none) none) (.object ref) scope true).runOn m =
      (.ok (), { m with scopes }) := by
    rw [Script.bind]
    show (bindMembers (fuel + names.length + 2) _ (.object ref) scope true >>= _).runOn m = _
    rw [runOn_bind_ok hmembers]
    rfl
  have hdefault : (withDefault (fuel + names.length + 3) (.object ref) none scope).runOn m =
      (.ok (.object ref), m) := by
    rw [withDefault]
    rfl
  have hitem : (itemAt [.object ref] 0 false).runOn m = (.ok (.object ref), m) := rfl
  refine ⟨scopes, ?_⟩
  rw [namesParam, bindParams, runOn_bind_ok hitem, runOn_bind_ok hdefault, runOn_bind_ok hbind]
  exact runOn_bindParams_nil _ _

/-! ### Blocks -/

theorem runOn_execBlock_nil : (execBlock (fuel + 2) [] scope).runOn m = (.ok .normal, m) := by
  rw [execBlock]
  show (execAll (fuel + 1) [] scope).runOn m = _
  rw [execAll]
  · rfl
  · exact Nat.succ_ne_zero _

/-! ### Runs -/

/-- The run of a script of one expression that has registered one test and no hooks, when neither
the expression nor the function of the test has done anything in the browser. -/
theorem run_test {style : Style} {b : Browser} {f : Value} {top : Machine}
    (hstyle : b.style = style) (he : (eval fuel e 1).runOn (.begun b) = (.ok v, top)) (htests : top.tests = [f])
    (hhooks : top.hooks = []) (hbrowser : top.browser = b)
    (hcall : ∀ args before, Given { top with tests := [] } args before style →
      ∃ m, (call (fuel + 3) f args).runOn before = (.ok .undefined, m) ∧
        m.browser = before.browser) :
    ∃ m, (Program.mk [.expr e]).run (fuel + 3) b = (.completed, m) ∧ m.browser = b := by
  have hstyle' : ({ top with tests := [] } : Machine).browser.style = style := by
    rw [← hstyle, ← hbrowser]
  obtain ⟨args, before, hargs, hgiven⟩ := given_testArguments hstyle'
  obtain ⟨m, hcall, hleft⟩ := hcall args before hgiven
  have hbefore : hooks.runOn { top with tests := [] } = (.ok [], { top with tests := [] }) := by
    rw [← hhooks]
    rfl
  have hall : (callAll (fuel + 3) [f]).runOn { top with tests := [] } = (.ok (), m) := by
    rw [callAll, runOn_bind_ok hargs, runOn_bind_ok hcall]
    rfl
  have hrun : (runTests (fuel + 3) top.tests.reverse).runOn { top with tests := [] } =
      (.ok (), m) := by
    rw [htests, List.reverse_singleton, runTests, runOn_bind_ok hbefore, List.nil_append,
      runOn_bind_ok hall]
    rfl
  refine ⟨m, ?_, ?_⟩
  · rw [Program.run, runFor_eq_ofResult, runOn_runProgram (runOn_topLevel_expression he), hrun]
    rfl
  · rw [hleft, hgiven.registers.2]
    exact hbrowser

set_option maxRecDepth 2000 in
theorem lookup_test :
    (Machine.start (.unused .playwright)).scopes.lookup globalScope "test" =
      some (.builtin .test) := rfl

set_option maxRecDepth 2000 in
theorem lookup_describe :
    (Machine.start (.unused .cypress)).scopes.lookup globalScope "describe" =
      some (.builtin .describe) := rfl

set_option maxRecDepth 2000 in
theorem lookup_it :
    (Machine.start (.unused .cypress)).scopes.lookup globalScope "it" = some (.builtin .test) :=
  rfl

/-- A program finds what its style has, whatever has become of the browser. -/
theorem Machine.lookup_begun {b : Browser} {style : Style} {name : String}
    (hstyle : b.style = style)
    (h : (Machine.start (.unused style)).scopes.lookup globalScope name = some v) :
    (Machine.begun b).scopes.lookup 1 name = some v := by
  subst hstyle
  have hsize : (Machine.start (.unused b.style)).scopes.frames.size = 1 := size_declareAll _ _ _
  have hchild := Scopes.lookup_child h
  rw [hsize] at hchild
  exact hchild

/-- The function of a test that does nothing, which takes names out of what it is called with. -/
def idleTest (names : List String) : Function := .mk none [namesParam names] (.block []) true true

/-- A test that does nothing leaves the browser alone. -/
theorem run_idleTest {b : Browser} (hstyle : b.style = .playwright) (title : String)
    (names : List String) (hfuel : names.length + 8 ≤ fuel) :
    ∃ m, (Program.mk [.expr (.call (.ident "test")
        [.item (.string title), .item (.function (idleTest names))] false)]).run fuel b =
      (.completed, m) ∧ m.browser = b := by
  obtain ⟨fuel, rfl⟩ : ∃ n, fuel = n + names.length + 8 := ⟨fuel - (names.length + 8), by omega⟩
  have hname := Machine.lookup_begun hstyle lookup_test
  have hregister : (eval (fuel + names.length + 5) _ 1).runOn (.begun b) = _ :=
    runOn_eval_test title (idleTest names) rfl hname
  refine run_test hstyle hregister rfl rfl rfl ?_
  -- The function of the test is called with a new object, which has the page.
  rintro args before ⟨rfl, rfl⟩
  have hc := (Machine.begun b).closure?_withClosure ⟨idleTest names, 1⟩
  have hlength : fuel + names.length + 5 + 3 = fuel + 2 + names.length + 4 + 2 := by omega
  obtain ⟨scopes, hparams⟩ := runOn_bindParams_names names _
  rw [hlength]
  exact ⟨_, runOn_call_closure rfl hc rfl hparams runOn_execBlock_nil, rfl⟩

/-- The function of a group of one test, which does nothing. -/
def idleGroup (test : String) : Function :=
  .mk none [] (.block [.expr (.call (.ident "it") [.item (.string test),
    .item (.function (.mk none [] (.block []) true false))] false)]) true false

/-- A group of one test that does nothing leaves the browser alone. -/
theorem run_idleGroup {b : Browser} (hstyle : b.style = .cypress) (title test : String)
    (hfuel : 16 ≤ fuel) :
    ∃ m, (Program.mk [.expr (.call (.ident "describe")
        [.item (.string title), .item (.function (idleGroup test))] false)]).run fuel b =
      (.completed, m) ∧ m.browser = b := by
  obtain ⟨fuel, rfl⟩ : ∃ n, fuel = n + 16 := ⟨fuel - 16, by omega⟩
  have hdescribe := Machine.lookup_begun hstyle lookup_describe
  have hit := Machine.lookup_begun hstyle lookup_it
  -- The function of the group is called at once, in a scope within that of the script.
  have hgroup := (Machine.begun b).closure?_withClosure ⟨idleGroup test, 1⟩
  have hregister : (eval (fuel + 5) _ _).runOn
      (((Machine.begun b).withClosure ⟨idleGroup test, 1⟩).opened 1) = _ :=
    runOn_eval_test test (.mk none [] (.block []) true false) rfl (Scopes.lookup_child hit)
  have hopened := runOn_call_closure rfl hgroup rfl (runOn_bindParams_nil [] 0)
    (runOn_execBlock_expression rfl hregister)
  have htop := runOn_eval_group title (idleGroup test) rfl hdescribe hopened
  refine run_test hstyle htop rfl rfl rfl ?_
  -- The function of the test is called with nothing.
  rintro args before ⟨rfl, rfl⟩
  have hc := (((Machine.begun b).withClosure ⟨idleGroup test, 1⟩).opened 1).closure?_withClosure
    ⟨.mk none [] (.block []) true false, (Machine.begun b).nextScope⟩
  exact ⟨_, runOn_call_closure rfl hc rfl (runOn_bindParams_nil [] 0) runOn_execBlock_nil, rfl⟩

end BrowserLab.Script
