import BrowserLab.Script.Eval
import BrowserLab.Script.Program

/-!
# Runs of programs

The statements of a program come first, and then the tests that they have registered, each after
everything that is to be called before a test.  The first thrown value ends the run.
-/

namespace BrowserLab.Script

/-- How the run of a program ended. -/
inductive Ending where
  | completed
  /-- A value was thrown that has this message. -/
  | failed (message : String)
  /-- The run took more steps than allowed. -/
  | exhausted
  deriving DecidableEq, Repr, Inhabited

/-- What a test is called with: the page and the object that makes requests. -/
def fixtures : Eval Value :=
  Eval.newObject [("page", .handle (.page .root)), ("request", .handle .request)]

/-- The arguments of a test. -/
def testArguments : Eval (List Value) := do
  match ← Eval.browser (·.style) with
  | .playwright => return [← fixtures]
  | .cypress => return []

/-- Calls functions one after the other, each with the arguments of a test. -/
def callAll (fuel : Nat) : List Value → Eval Unit
  | [] => return ()
  | f :: rest => do
    let args ← testArguments
    let _ ← call fuel f args
    callAll fuel rest

/-- What is to be called before each test. -/
def hooks : Eval (List Value) := do
  let m ← get
  return m.hooks

/-- Runs tests one after the other. -/
def runTests (fuel : Nat) : List Value → Eval Unit
  | [] => return ()
  | test :: rest => do
    let before ← hooks
    callAll fuel (before ++ [test])
    runTests fuel rest

/-- The tests that have been registered, the first one first; none are left. -/
def takeTests : Eval (List Value) :=
  modifyGet fun m => (m.tests.reverse, { m with tests := [] })

/-- Runs a program. -/
def runProgram (fuel : Nat) (p : Program) : Eval Unit := do
  let scope ← Eval.openScope globalScope
  let _ ← execBlock fuel p.body scope
  let tests ← takeTests
  runTests fuel tests

/-- Runs a program on a browser, for so many steps if a number is given; the machine it leaves tells
all that it did. -/
def Program.runFor (steps : Option Nat) (fuel : Nat) (p : Program) (browser : Browser) :
    Ending × Machine :=
  match (runProgram fuel p).run { Machine.start browser with stepsLeft := steps } with
  | (.ok _, m) => (.completed, m)
  | (.error (.thrown v), m) => (.failed (Eval.messageOf m.heap v), m)
  | (.error .exhausted, m) => (.exhausted, m)

/-- Runs a program on a browser to its end. -/
def Program.run (fuel : Nat) (p : Program) (browser : Browser) : Ending × Machine :=
  p.runFor none fuel browser

/-- How many steps a script may take, one within the other or one after the other. -/
def stepLimit : Nat := Nat.pow 10 12

end BrowserLab.Script
