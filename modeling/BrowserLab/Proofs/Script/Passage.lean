import BrowserLab.Proofs.Script.Tame

/-!
# Where computations lead

A `Passage` is a relation between the machine before and the machine after that nothing which
evaluation does in one go can break: it may work on its heap, open a scope and declare a name, count
a step, write to the console and draw a number, register a test or a hook, and call a method of a
handle.  A computation `Leads` along a passage if it takes every machine to one to which it is
related, however it ends.

* `Leads.bind`, `Leads.attempt`: this is kept by the ways in which computations are put together.
* `Does.leads`: what is tame leads along every passage.
-/

namespace BrowserLab.Script

/-- A relation between machines, before and after. -/
structure Passage where
  related : Machine → Machine → Prop
  refl : ∀ m, related m m
  trans : ∀ {m₁ m₂ m₃}, related m₁ m₂ → related m₂ m₃ → related m₁ m₃
  heap : ∀ m heap, related m { m with heap }
  opened : ∀ m parent, related m { m with scopes := (m.scopes.child parent).2 }
  declared : ∀ m scope name v mutable,
    related m { m with scopes := m.scopes.declare scope name v mutable }
  counted : ∀ m stepsLeft, related m { m with stepsLeft }
  written : ∀ m console, related m { m with console }
  draw : ∀ m n, related m { m with browser := { m.browser with draws := m.browser.draws.skip n } }
  test : ∀ m f, related m { m with tests := f :: m.tests }
  hook : ∀ m f, related m { m with hooks := m.hooks ++ [f] }
  invoke : ∀ h method args m, related m ((Surface.invoke h method args).runOn m).2

instance : CoeFun Passage fun _ => Machine → Machine → Prop := ⟨Passage.related⟩

/-- However the computation ends, it leads to a machine that is related to the one before. -/
def Leads (T : Passage) {α : Type} (x : Eval α) : Prop := ∀ m, T m (x.runOn m).2

variable {T : Passage} {α β : Type}

/-! ### Putting computations together -/

theorem Does.leads {x : Eval α} (hx : Tame x) : Leads T x := by
  intro m
  obtain ⟨r, heap, browser, hrun, hr⟩ := hx m
  obtain rfl : m.browser = browser := by
    match r, hr with
    | .ok _, hr => exact hr
    | .error (.thrown _), hr => exact hr.2
  rw [hrun]
  exact T.heap m heap

namespace Leads

theorem pure (a : α) : Leads T (pure a : Eval α) := T.refl

theorem throw (e : Stop) : Leads T (throw e : Eval α) := T.refl

theorem bind {x : Eval α} {f : α → Eval β} (hx : Leads T x) (hf : ∀ a, Leads T (f a)) :
    Leads T (x >>= f) := by
  intro m
  have hlead := hx m
  rw [Eval.runOn_bind]
  generalize x.runOn m = r at hlead
  match r with
  | (.ok a, m') => exact T.trans hlead (hf a m')
  | (.error e, m') => exact hlead

theorem attempt {x : Eval α} (hx : Leads T x) : Leads T (Eval.attempt x) := by
  intro m
  have hlead := hx m
  rw [Eval.runOn_attempt]
  generalize x.runOn m = r at hlead
  match r with
  | (.ok a, m') => exact hlead
  | (.error (.thrown v), m') => exact hlead
  | (.error .exhausted, m') => exact hlead

/-! ### Working on the memory -/

theorem raise (name message : String) : Leads T (Eval.raise name message : Eval α) :=
  Does.leads (.raise name message)

theorem typeError (message : String) : Leads T (Eval.typeError message : Eval α) := raise _ _

theorem display (v : Value) : Leads T (Eval.display v) := Does.leads (.display v)

theorem number (v : Value) : Leads T (Eval.number v) := Does.leads (.number v)

theorem heap (f : Heap → α) : Leads T (Eval.heap f) := Does.leads (.heap f)

theorem newObject (members : List (String × Value)) : Leads T (Eval.newObject members) :=
  Does.leads (.newObject members)

theorem openScope (parent : Nat) : Leads T (Eval.openScope parent) :=
  fun m => T.opened m parent

theorem declare (scope : Nat) (name : String) (v : Value) (mutable : Bool) :
    Leads T (Eval.declare scope name v mutable) :=
  fun m => T.declared m scope name v mutable

theorem lookup? (scope : Nat) (name : String) : Leads T (Eval.lookup? scope name) := T.refl

/-- To assign is to declare where the name has been declared, or to fail. -/
theorem assigned (m : Machine) (scope : Nat) (name : String) (v : Value) :
    T m { m with scopes := (m.scopes.assign scope name v).2 } := by
  unfold Scopes.assign
  split
  · exact T.refl m
  · split
    · exact T.declared m _ name v true
    · exact T.refl m

theorem assignName (scope : Nat) (name : String) (v : Value) :
    Leads T (Eval.assignName scope name v) := by
  refine bind (fun m => assigned m scope name v) fun failure => ?_
  cases failure with
  | none => exact pure ()
  | some e => exact raise _ _

theorem takeStep (m : Machine) : T m m.takeStep.2 := by
  unfold Machine.takeStep
  split
  · exact T.refl m
  · exact T.refl m
  · exact T.counted m _

theorem step : Leads T Eval.step := by
  refine bind (fun m => takeStep m) fun goesOn => ?_
  cases goesOn with
  | true => exact pure ()
  | false => exact throw _

/-! ### Functions that are there from the beginning -/

theorem registerTest (args : List Value) : Leads T (registerTest args) := by
  unfold Script.registerTest
  split
  case h_1 callback _ => exact bind (fun m => T.test m callback) fun _ => pure _
  case h_2 => exact (display _).bind fun name => typeError _

theorem registerHook (args : List Value) : Leads T (registerHook args) := by
  unfold Script.registerHook
  split
  case h_1 hook _ => exact bind (fun m => T.hook m hook) fun _ => pure _
  case h_2 => exact typeError _

theorem writeLine (level : LogLevel) (args : List Value) : Leads T (writeLine level args) := by
  refine (heap id).bind fun h => bind (fun m => ?_) fun _ => pure _
  exact T.written m _

theorem draw (args : List Value) : Leads T (mathFunction .random args) :=
  (number _).bind fun _ => bind (fun m => T.draw m 1) fun _ => pure _

theorem callBuiltin (b : Builtin) (args : List Value) : Leads T (callBuiltin b args) := by
  by_cases hb : b.Reaches
  · unfold Script.callBuiltin
    cases b with
    | test => exact registerTest args
    | beforeEach => exact registerHook args
    | console level => exact (writeLine level args).bind fun _ => pure _
    | math f =>
      cases f with
      | random => exact (draw args).bind fun _ => pure _
      | _ => exact hb.elim
    | _ => exact hb.elim
  · exact Does.leads (.callBuiltin hb args)

end Leads

end BrowserLab.Script
