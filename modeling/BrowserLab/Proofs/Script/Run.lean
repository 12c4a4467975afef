import BrowserLab.Proofs.Script.Evaluation
import BrowserLab.Script.Run

/-!
# Runs of programs follow each other

A machine starts with the handles of its style, and so it goes on.

* `Judgement.Runs.runProgram`: a judgement that holds of what runs do apart from evaluating holds of
  programs.
* `Upholds.runFor`: a program that is run on two browsers which are related comes to the same end on
  both, unless it runs out of fuel, of steps or of draws on the first one.
-/

namespace BrowserLab.Script

variable {style : Style} {p : Handle → Prop} {R : Link} {n k : Nat}

/-! ### The beginning -/

theorem holds_globalObjects :
    ∀ entry ∈ globalObjects, Dict.Holds (Value.All p) entry.2 := by
  simp [globalObjects]

theorem holds_globalValues : Dict.Holds (Value.All p) globalValues := by
  simp [globalValues]

theorem all_makeObjects {objects : List (String × List (String × Value))}
    (h : ∀ entry ∈ objects, Dict.Holds (Value.All p) entry.2) :
    ∀ {heap : Heap}, heap.All p →
      Dict.Holds (Value.All p) (makeObjects heap objects).1 ∧ (makeObjects heap objects).2.All p := by
  induction objects with
  | nil => exact fun hheap => ⟨Dict.holds_nil, hheap⟩
  | cons entry rest ih =>
    intro heap hheap
    have hentry : Dict.Holds (Value.All p) (Dict.ofPairs entry.2) :=
      (h entry List.mem_cons_self).ofPairs
    have hrest := ih (fun e he => h e (List.mem_cons_of_mem _ he)) (hheap.newObject hentry)
    exact ⟨Dict.holds_cons trivial hrest.1, hrest.2⟩

theorem all_declareAll (scope : Nat) {vs : List (String × Value)} :
    Dict.Holds (Value.All p) vs → ∀ {scopes : Scopes Value}, scopes.All p →
      (declareAll scope vs scopes).All p := by
  induction vs with
  | nil => exact fun _ _ hs => hs
  | cons entry rest ih =>
    intro h scopes hs
    exact ih h.tail (hs.declare (h entry List.mem_cons_self) scope entry.1 false)

theorem size_declareAll (scope : Nat) (vs : List (String × Value)) (scopes : Scopes Value) :
    (declareAll scope vs scopes).frames.size = scopes.frames.size := by
  induction vs generalizing scopes with
  | nil => rfl
  | cons pair vs ih => exact (ih _).trans (Array.size_modify ..)

theorem Machine.all_start {b : Browser} (hglobals : Dict.Holds (Value.All p) (styleValues b.style))
    (hcommands : Dict.Holds (Value.All p) b.commands) (steps : Option Nat) :
    { Machine.start b with stepsLeft := steps }.All p := by
  have hmade := all_makeObjects (p := p) holds_globalObjects Heap.all_empty
  unfold Machine.start
  generalize makeObjects .empty globalObjects = made at hmade ⊢
  have hall := (hmade.1.append holds_globalValues).append hglobals
  exact ⟨hmade.2, all_declareAll _ hall (Scopes.all_empty.push none), allValues_nil,
    allValues_nil, hcommands⟩

/-! ### Tests and programs -/

namespace Keeps

theorem hooks : Keeps p R (AllValues p) hooks :=
  modifyGet (g := fun m => (m.hooks, m)) (fun _ _ => rfl) fun _ hm => ⟨hm.hooks, hm⟩

theorem takeTests : Keeps p R (AllValues p) takeTests :=
  modifyGet (g := fun m => (m.tests.reverse, { m with tests := [] })) (fun _ _ => rfl)
    fun _ hm => ⟨hm.tests.reverse, { hm with tests := allValues_nil }⟩

end Keeps

/-- What the tests of a style are called with. -/
def argumentsOf : Style → Eval (List Value)
  | .playwright => do return [← fixtures]
  | .cypress => return []

theorem runOn_testArguments (m : Machine) :
    testArguments.runOn m = (argumentsOf m.browser.style).runOn m :=
  rfl

/-- The judgement holds of what runs do apart from evaluating. -/
structure Judgement.Runs (J : Judgement) : Prop where
  style : ∀ {o c}, J.Holds o c (fun style => Dict.Holds (Value.All J.handles) (styleValues style))
    (Eval.browser (·.style)) (Eval.browser (·.style))
  hooks : ∀ {o c}, J.Holds o c (AllValues J.handles) hooks hooks
  takeTests : ∀ {o c}, J.Holds o c (AllValues J.handles) takeTests takeTests

namespace Judgement.Runs

variable {J : Judgement} {o : Option Nat} {c : Prop} (hJ : J.Runs)

include hJ

theorem testArguments : J.Holds o c (AllValues J.handles) testArguments testArguments := by
  refine J.bind hJ.style fun style => ?_
  cases style with
  | cypress => exact J.pure fun _ => allValues_nil
  | playwright =>
    refine J.bind (J.newObject fun hc => ?_) fun v => J.pure fun hc => allValues_nil.cons hc.2
    have hpage : (Value.handle (.page .root)).All J.handles :=
      hc.2 ("page", _) (by simp [styleValues])
    have hrequest : (Value.handle .request).All J.handles :=
      hc.2 ("request", _) (by simp [styleValues])
    exact Dict.holds_cons hpage (Dict.holds_cons hrequest Dict.holds_nil)

theorem callAll (hle : n ≤ k) {fs : List Value} (hfs : c → AllValues J.handles fs) :
    J.Holds o c Anything (callAll n fs) (callAll k fs) := by
  induction fs generalizing c with
  | nil => exact J.pure fun _ => trivial
  | cons f rest ih =>
    refine J.bind hJ.testArguments fun args => ?_
    refine J.bind ((Walked.all hle).call (fun hc => (hfs hc.1).head) And.right) fun _ => ?_
    exact ih fun hc => (hfs hc.1.1).tail

theorem runTests (hle : n ≤ k) {tests : List Value} (htests : c → AllValues J.handles tests) :
    J.Holds o c Anything (runTests n tests) (runTests k tests) := by
  induction tests generalizing c with
  | nil => exact J.pure fun _ => trivial
  | cons test rest ih =>
    refine J.bind hJ.hooks fun before => ?_
    refine J.bind (hJ.callAll hle fun hc => ?_) fun _ => ih fun hc => (htests hc.1.1).tail
    exact hc.2.append (allValues_nil.cons (htests hc.1).head)

/-- A program is executed in a scope that is opened for it, and so are its tests. -/
theorem runProgram (hle : n ≤ k) (program : Program) :
    J.Holds o c Anything (runProgram n program) (runProgram k program) := by
  refine J.opening fun scope => J.bind ((Walked.all hle).execBlock program.body scope) fun _ => ?_
  exact J.bind hJ.takeTests fun tests => hJ.runTests hle And.right

end Judgement.Runs

/-- How a program ended, by what came of it. -/
def Ending.ofResult : Except Stop Unit × Machine → Ending × Machine
  | (.ok _, m) => (.completed, m)
  | (.error (.thrown v), m) => (.failed (Eval.messageOf m.heap v), m)
  | (.error .exhausted, m) => (.exhausted, m)

theorem Ending.snd_ofResult (r : Except Stop Unit × Machine) : (ofResult r).2 = r.2 := by
  obtain ⟨(_ | _) | _, _⟩ := r <;> rfl

theorem runFor_eq_ofResult (steps : Option Nat) (fuel : Nat) (program : Program) (b : Browser) :
    program.runFor steps fuel b =
      Ending.ofResult
        ((runProgram fuel program).runOn { Machine.start b with stepsLeft := steps }) :=
  rfl

namespace Upholds

variable (hU : Upholds style p R)

include hU

theorem alike_start {b b' : Browser} (h : R b b')
    (hcommands : Dict.Holds (Value.All p) b.commands) (steps : Option Nat) :
    Alike p R { Machine.start b with stepsLeft := steps }
      { Machine.start b' with stepsLeft := steps } where
  same := by
    rw [Machine.start, Machine.start, hU.sameStyle h]
  held := by
    obtain rfl := hU.ofStyle h
    exact Machine.all_start hU.globals hcommands steps
  browsers := h

/-- The style is the same on both sides. -/
theorem follows_style : Keeps p R (fun style => Dict.Holds (Value.All p) (styleValues style))
    (Eval.browser (·.style)) := by
  refine ⟨fun m m' h => ?_, fun m hm hs => ⟨?_, hm, hs⟩⟩
  · show Ends p R _ (.ok m.browser.style, m) (.ok m'.browser.style, m')
    rw [hU.sameStyle h.browsers, hU.ofStyle h.browsers]
    exact .ok hU.globals h
  · show Dict.Holds (Value.All p) (styleValues m.browser.style)
    rw [hU.spentStyle hs]
    exact hU.globals

theorem runs : hU.following.Runs where
  style _ := hU.follows_style
  hooks _ := Keeps.hooks
  takeTests _ := Keeps.takeTests

/-- **A program that is run on two browsers comes to the same end on both**, however many steps it
is given, unless it runs out of fuel or of steps on the first one, or draws more there than the two
have in common.  Even then its machine holds handles as `p` tells, and its browser is related to
one. -/
theorem runFor (hle : n ≤ k) (program : Program) (steps : Option Nat) {b b' : Browser} (hb : R b b')
    (hcommands : b.commands = []) (hspent : ¬ R.spent (program.runFor steps n b).2.browser) :
    (∃ m', Alike p R (program.runFor steps n b).2 m') ∧
      ((program.runFor steps n b).1 ≠ .exhausted →
        (program.runFor steps k b').1 = (program.runFor steps n b).1 ∧
          Alike p R (program.runFor steps n b).2 (program.runFor steps k b').2) := by
  have hstart := hU.alike_start hb (by rw [hcommands]; exact Dict.holds_nil) steps
  have hend := (hU.runs.runProgram (o := none) hle program trivial).alike _ _ hstart
  rw [runFor_eq_ofResult] at hspent
  rw [runFor_eq_ofResult, runFor_eq_ofResult]
  generalize (Script.runProgram n program).runOn { Machine.start b with stepsLeft := steps } = r
    at hend hspent ⊢
  generalize (Script.runProgram k program).runOn { Machine.start b' with stepsLeft := steps } = r'
    at hend ⊢
  cases hend with
  | @ok _ m m' _ h => exact ⟨⟨m', h⟩, fun _ => ⟨rfl, h⟩⟩
  | @thrown v m m' _ h =>
    refine ⟨⟨m', h⟩, fun _ => ⟨?_, h⟩⟩
    show Ending.failed (Eval.messageOf m'.heap v) = .failed (Eval.messageOf m.heap v)
    rw [h.same]
  | @exhausted m m' _ h => exact ⟨⟨m', h⟩, fun hne => absurd rfl hne⟩
  | spent h =>
    refine absurd ?_ hspent
    rw [Ending.snd_ofResult]
    exact h.spent

/-- A program that is run to its end on two browsers comes to the same end on both. -/
theorem run (hle : n ≤ k) (program : Program) {b b' : Browser} (hb : R b b')
    (hcommands : b.commands = []) (hspent : ¬ R.spent (program.run n b).2.browser) :
    (∃ m', Alike p R (program.run n b).2 m') ∧
      ((program.run n b).1 ≠ .exhausted →
        (program.run k b').1 = (program.run n b).1 ∧
          Alike p R (program.run n b).2 (program.run k b').2) :=
  hU.runFor hle program none hb hcommands hspent

end Upholds

end BrowserLab.Script
