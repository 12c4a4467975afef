import BrowserLab.Proofs.Draws
import BrowserLab.Proofs.Script.Held
import BrowserLab.Script.Eval

/-!
# One evaluation follows another

Two machines are `Alike` if they differ in their browsers only, the browsers are related, and every
handle in the machine is as `p` tells.  A computation `y` `Follows` another one, `x`, if from alike
machines `y` comes to the same end as `x`, and to machines that are again alike.  Nothing is said
about `y` if `x` runs out of fuel, or draws more numbers than the two have in common.  The relation
is free: taken between a browser and itself it is an invariant of runs, and taken between two
browsers it compares two runs.

* `Follows.bind`, `Follows.attempt`: following is kept by the ways in which computations are put
  together.
* `Keeps` says that a computation follows itself.  Whatever only works on the memory does so.
-/

namespace BrowserLab.Script

/-- What comes of a computation on a machine. -/
def Eval.runOn {α : Type} (x : Eval α) (m : Machine) : Except Stop α × Machine := x.run m

namespace Eval

variable {α β : Type}

@[simp] theorem runOn_pure (a : α) (m : Machine) : (pure a : Eval α).runOn m = (.ok a, m) := rfl

theorem runOn_bind (x : Eval α) (f : α → Eval β) (m : Machine) :
    (x >>= f).runOn m =
      match x.runOn m with
      | (.ok a, m) => (f a).runOn m
      | (.error e, m) => (.error e, m) := by
  show ExceptT.bindCont f (x m).1 (x m).2 =
    match x m with
    | (.ok a, m) => (f a).runOn m
    | (.error e, m) => (.error e, m)
  generalize x m = r
  obtain ⟨_ | _, _⟩ := r <;> rfl

/-- One computation and then another. -/
theorem runOn_bind_ok {x : Eval α} {f : α → Eval β} {a : α} {m m' : Machine}
    (h : x.runOn m = (.ok a, m')) : (x >>= f).runOn m = (f a).runOn m' := by
  rw [runOn_bind, h]

@[simp] theorem runOn_modifyGet (g : Machine → α × Machine) (m : Machine) :
    (modifyGet g : Eval α).runOn m = (.ok (g m).1, (g m).2) := rfl

@[simp] theorem runOn_throw (e : Stop) (m : Machine) :
    (throw e : Eval α).runOn m = (.error e, m) := rfl

theorem runOn_attempt (x : Eval α) (m : Machine) :
    (attempt x).runOn m =
      match x.runOn m with
      | (.ok a, m) => (.ok (.ok a), m)
      | (.error (.thrown v), m) => (.ok (.error v), m)
      | (.error .exhausted, m) => (.error .exhausted, m) := rfl

theorem runOn_step {m : Machine} (hm : m.stepsLeft = none) : step.runOn m = (.ok (), m) := by
  have htake : (modifyGet Machine.takeStep : Eval Bool).runOn m = (.ok true, m) := by
    rw [runOn_modifyGet, Machine.takeStep, hm]
  rw [step, runOn_bind_ok htake]
  rfl

end Eval

/-! ### Alike machines -/

/-- How the browsers of two runs are related, and when the first one has spent the numbers that both
draw, which is so for good. -/
structure Link where
  related : Browser → Browser → Prop
  spent : Browser → Prop
  lasting : ∀ {b b' : Browser} {n : Nat}, spent b → b'.style = b.style →
    b'.draws = b.draws.skip n → spent b'

instance : CoeFun Link fun _ => Browser → Browser → Prop := ⟨Link.related⟩

/-- A relation between the browsers of runs that draw the same numbers, however many. -/
def Link.endless (related : Browser → Browser → Prop) : Link :=
  ⟨related, fun _ => False, fun h _ _ => h⟩

section Definitions

variable (p : Handle → Prop) (R : Link)

/-- The machines differ in their browsers only, which are related, and hold handles as `p` tells. -/
structure Alike (m m' : Machine) : Prop where
  same : m' = { m with browser := m'.browser }
  held : m.All p
  browsers : R m.browser m'.browser

/-- A result is as `Q` tells, and a thrown value as `Value.All`. -/
def Sound {α : Type} (Q : α → Prop) : Except Stop α → Prop
  | .ok a => Q a
  | .error (.thrown v) => v.All p
  | .error .exhausted => True

/-- An end that came after the numbers in common were spent. -/
structure Spent {α : Type} (Q : α → Prop) (r : Except Stop α × Machine) : Prop where
  sound : Sound p Q r.1
  held : r.2.All p
  spent : R.spent r.2.browser

/-- The second end is like the first one, unless the first one came for want of fuel or of draws. -/
inductive Ends {α : Type} (Q : α → Prop) :
    Except Stop α × Machine → Except Stop α × Machine → Prop
  | ok {a : α} {m m' : Machine} (ha : Q a) (h : Alike p R m m') : Ends Q (.ok a, m) (.ok a, m')
  | thrown {v : Value} {m m' : Machine} (hv : v.All p) (h : Alike p R m m') :
      Ends Q (.error (.thrown v), m) (.error (.thrown v), m')
  | exhausted {m m' : Machine} {r : Except Stop α × Machine} (h : Alike p R m m') :
      Ends Q (.error .exhausted, m) r
  | spent {r r' : Except Stop α × Machine} (h : Spent p R Q r) : Ends Q r r'

/-- From alike machines `y` ends as `x` does, with a result as `Q` tells; and once the numbers in
common are spent, they remain so. -/
structure Follows {α : Type} (Q : α → Prop) (x y : Eval α) : Prop where
  alike : ∀ m m', Alike p R m m' → Ends p R Q (x.runOn m) (y.runOn m')
  spent : ∀ m : Machine, m.All p → R.spent m.browser → Spent p R Q (x.runOn m)

/-- From alike machines the computation ends in the same way, with a result as `Q` tells. -/
def Keeps {α : Type} (Q : α → Prop) (x : Eval α) : Prop := Follows p R Q x x

end Definitions

variable {p : Handle → Prop} {R : Link} {α β : Type}

/-- What holds of every result. -/
def Anything {α : Type} : α → Prop := fun _ => True

/-- An optional value is as `Value.All` tells. -/
def AllOption (p : Handle → Prop) (o : Option Value) : Prop := ∀ v, o = some v → v.All p

/-! ### Putting computations together -/

/-- What is thrown is passed on. -/
theorem Sound.error {Q : α → Prop} {Q' : β → Prop} {e : Stop}
    (h : Sound p Q (.error e : Except Stop α)) : Sound p Q' (.error e : Except Stop β) := by
  cases e <;> exact h

namespace Follows

variable {Q : α → Prop} {x y : Eval α}

theorem pure {a : α} (ha : Q a) : Follows p R Q (pure a) (pure a) :=
  ⟨fun _ _ h => .ok ha h, fun _ hm hs => ⟨ha, hm, hs⟩⟩

theorem exhausted : Follows p R Q Eval.exhausted y :=
  ⟨fun _ _ h => .exhausted h, fun _ hm hs => ⟨trivial, hm, hs⟩⟩

theorem throwValue {v : Value} (hv : v.All p) :
    Follows p R Q (Eval.throwValue v) (Eval.throwValue v) :=
  ⟨fun _ _ h => .thrown hv h, fun _ hm hs => ⟨hv, hm, hs⟩⟩

/-- Once the numbers in common are spent, going on changes nothing about that. -/
theorem spent_bind {Q' : β → Prop} {f g : α → Eval β} (r : Except Stop α × Machine)
    (hf : ∀ a, Q a → Follows p R Q' (f a) (g a)) :
    Spent p R Q r →
      Spent p R Q' (match r with
        | (.ok a, m) => (f a).runOn m
        | (.error e, m) => (.error e, m)) := by
  intro hr
  obtain ⟨_ | a, m⟩ := r
  · exact ⟨hr.sound.error, hr.held, hr.spent⟩
  · exact (hf a hr.sound).spent m hr.held hr.spent

theorem bind {Q' : β → Prop} {f g : α → Eval β} (hx : Follows p R Q x y)
    (hf : ∀ a, Q a → Follows p R Q' (f a) (g a)) : Follows p R Q' (x >>= f) (y >>= g) := by
  refine ⟨fun m m' h => ?_, fun m hm hs => ?_⟩
  · rw [Eval.runOn_bind, Eval.runOn_bind]
    have hend := hx.alike m m' h
    generalize x.runOn m = r at hend
    generalize y.runOn m' = r' at hend
    cases hend with
    | ok ha h => exact (hf _ ha).alike _ _ h
    | thrown hv h => exact .thrown hv h
    | exhausted h => exact .exhausted h
    | spent hr => exact .spent (spent_bind _ hf hr)
  · rw [Eval.runOn_bind]
    exact spent_bind _ hf (hx.spent m hm hs)

/-- The result of an attempt, or what it threw, is as it should be. -/
def Attempted (p : Handle → Prop) (Q : α → Prop) : Except Value α → Prop
  | .ok a => Q a
  | .error v => v.All p

theorem spent_attempt (r : Except Stop α × Machine) :
    Spent p R Q r →
      Spent p R (Attempted p Q) (match r with
        | (.ok a, m) => (.ok (.ok a), m)
        | (.error (.thrown v), m) => (.ok (.error v), m)
        | (.error .exhausted, m) => (.error .exhausted, m)) := by
  intro hr
  obtain ⟨(v | _) | a, m⟩ := r
  · exact ⟨hr.sound, hr.held, hr.spent⟩
  · exact ⟨trivial, hr.held, hr.spent⟩
  · exact ⟨hr.sound, hr.held, hr.spent⟩

theorem attempt (hx : Follows p R Q x y) :
    Follows p R (Attempted p Q) (Eval.attempt x) (Eval.attempt y) := by
  refine ⟨fun m m' h => ?_, fun m hm hs => ?_⟩
  · rw [Eval.runOn_attempt, Eval.runOn_attempt]
    have hend := hx.alike m m' h
    generalize x.runOn m = r at hend
    generalize y.runOn m' = r' at hend
    cases hend with
    | ok ha h => exact .ok ha h
    | thrown hv h => exact .ok hv h
    | exhausted h => exact .exhausted h
    | spent hr => exact .spent (spent_attempt _ hr)
  · rw [Eval.runOn_attempt]
    exact spent_attempt _ (hx.spent m hm hs)

end Follows

/-! ### Working on the memory -/

namespace Keeps

variable {Q : α → Prop} {x : Eval α}

theorem follows (h : Keeps p R Q x) : Follows p R Q x x := h

theorem pure {a : α} (ha : Q a) : Keeps p R Q (pure a) := Follows.pure ha

theorem throwValue {v : Value} (hv : v.All p) : Keeps p R Q (Eval.throwValue v) :=
  Follows.throwValue hv

theorem bind {Q' : β → Prop} {f : α → Eval β} (hx : Keeps p R Q x)
    (hf : ∀ a, Q a → Keeps p R Q' (f a)) : Keeps p R Q' (x >>= f) :=
  Follows.bind hx hf

/-- Only what comes of a computation matters. -/
theorem congr {y : Eval α} (hy : Keeps p R Q y) (h : ∀ m, x.runOn m = y.runOn m) :
    Keeps p R Q x := by
  refine ⟨fun m m' hm => ?_, fun m hm hs => ?_⟩
  · rw [h, h]
    exact hy.alike m m' hm
  · rw [h]
    exact hy.spent m hm hs

/-- A branch that has its value at once goes on with it. -/
theorem pureBind {Q' : β → Prop} {a : α} {f : α → Eval β} (hf : Keeps p R Q' (f a)) :
    Keeps p R Q' (Pure.pure a >>= f) :=
  hf

/-- What neither reads nor changes the browser, and holds no other handles afterwards, does the same
on alike machines. -/
theorem modifyGet {g : Machine → α × Machine}
    (hlocal : ∀ m b, g { m with browser := b } = ((g m).1, { (g m).2 with browser := b }))
    (hheld : ∀ m, m.All p → Q (g m).1 ∧ (g m).2.All p) : Keeps p R Q (modifyGet g) := by
  have hbrowser (m : Machine) : (g m).2.browser = m.browser :=
    congrArg (fun r => r.2.browser) (hlocal m m.browser)
  refine ⟨fun m m' h => ?_, fun m hm hs => ?_⟩
  · obtain ⟨hsame, hm, hR⟩ := h
    have hg := hlocal m m'.browser
    rw [← hsame] at hg
    rw [Eval.runOn_modifyGet, Eval.runOn_modifyGet, hg]
    refine .ok (hheld m hm).1 ⟨rfl, (hheld m hm).2, ?_⟩
    show R (g m).2.browser m'.browser
    rw [hbrowser]
    exact hR
  · rw [Eval.runOn_modifyGet]
    refine ⟨(hheld m hm).1, (hheld m hm).2, ?_⟩
    show R.spent (g m).2.browser
    rw [hbrowser]
    exact hs

theorem heap {f : Heap → α} (hf : ∀ h, h.All p → Q (f h)) : Keeps p R Q (Eval.heap f) :=
  modifyGet (g := fun m => (f m.heap, m)) (fun _ _ => rfl) fun _ hm => ⟨hf _ hm.heap, hm⟩

/-- The steps that are left are no matter of the browser. -/
theorem step : Keeps p R Anything Eval.step := by
  refine bind (Q := Anything) (modifyGet (g := Machine.takeStep) (fun m b => ?_) fun m hm => ?_)
    fun goesOn _ => ?_
  · obtain ⟨heap, scopes, tests, hooks, console, browser, _ | _ | left⟩ := m <;> rfl
  · obtain ⟨heap, scopes, tests, hooks, console, browser, _ | _ | left⟩ := m <;>
      exact ⟨trivial, { hm with }⟩
  · cases goesOn with
    | true => exact pure trivial
    | false => exact Follows.exhausted

theorem display (v : Value) : Keeps p R Anything (Eval.display v) := heap fun _ _ => trivial

theorem number (v : Value) : Keeps p R Anything (Eval.number v) := heap fun _ _ => trivial

theorem json (v : Value) : Keeps p R Anything (Eval.json v) := heap fun _ _ => trivial

theorem option? (v : Value) (key : String) : Keeps p R (AllOption p) (Eval.option? v key) :=
  heap fun _ hh _ hw => hh.option? hw

theorem modifyHeap {f : Heap → Heap} (hf : ∀ h, h.All p → (f h).All p) :
    Keeps p R Anything (Eval.modifyHeap f) :=
  modifyGet (g := fun m => ((), { m with heap := f m.heap })) (fun _ _ => rfl)
    fun _ hm => ⟨trivial, { hm with heap := hf _ hm.heap }⟩

theorem allocate {f : Heap → Value × Heap} (hf : ∀ h, h.All p → (f h).1.All p ∧ (f h).2.All p) :
    Keeps p R (Value.All p) (Eval.allocate f) :=
  modifyGet (g := fun m => ((f m.heap).1, { m with heap := (f m.heap).2 })) (fun _ _ => rfl)
    fun _ hm => ⟨(hf _ hm.heap).1, { hm with heap := (hf _ hm.heap).2 }⟩

theorem newArray {items : Array Value} (hi : AllValues p items.toList) :
    Keeps p R (Value.All p) (Eval.newArray items) :=
  allocate fun _ hh => ⟨trivial, hh.newArray hi⟩

theorem newObject {members : List (String × Value)} (hm : Dict.Holds (Value.All p) members) :
    Keeps p R (Value.All p) (Eval.newObject members) :=
  allocate fun _ hh => ⟨trivial, hh.newObject hm.ofPairs⟩

theorem ofJson (j : Json) : Keeps p R (Value.All p) (Eval.ofJson j) :=
  allocate fun _ hh => hh.ofJson j

theorem closure (f : Function) (scope : Nat) : Keeps p R (Value.All p) (Eval.closure f scope) :=
  allocate fun _ hh => ⟨trivial, hh.newClosure _⟩

theorem raise (name message : String) : Keeps p R Q (Eval.raise name message) :=
  bind (newObject (Dict.holds_cons trivial (Dict.holds_cons trivial Dict.holds_nil)))
    fun _ he => throwValue he

theorem typeError (message : String) : Keeps p R Q (Eval.typeError message) := raise _ _

theorem rangeError (message : String) : Keeps p R Q (Eval.rangeError message) := raise _ _

theorem referenceError (message : String) : Keeps p R Q (Eval.referenceError message) := raise _ _

theorem syntaxError (message : String) : Keeps p R Q (Eval.syntaxError message) := raise _ _

theorem openScope (parent : Nat) : Keeps p R Anything (Eval.openScope parent) :=
  modifyGet
    (g := fun m => ((m.scopes.child parent).1, { m with scopes := (m.scopes.child parent).2 }))
    (fun _ _ => rfl) fun _ hm => ⟨trivial, { hm with scopes := hm.scopes.push _ }⟩

theorem declare {v : Value} (hv : v.All p) (scope : Nat) (name : String) (mutable : Bool) :
    Keeps p R Anything (Eval.declare scope name v mutable) :=
  modifyGet (g := fun m => ((), { m with scopes := m.scopes.declare scope name v mutable }))
    (fun _ _ => rfl) fun _ hm => ⟨trivial, { hm with scopes := hm.scopes.declare hv _ _ _ }⟩

theorem lookup? (scope : Nat) (name : String) :
    Keeps p R (AllOption p) (Eval.lookup? scope name) :=
  modifyGet (g := fun m => (m.scopes.lookup scope name, m)) (fun _ _ => rfl)
    fun _ hm => ⟨fun _ hv => hm.scopes.lookup hv, hm⟩

theorem assignName {v : Value} (hv : v.All p) (scope : Nat) (name : String) :
    Keeps p R Anything (Eval.assignName scope name v) := by
  refine bind (Q := Anything) (modifyGet
    (g := fun m => ((m.scopes.assign scope name v).1,
      { m with scopes := (m.scopes.assign scope name v).2 }))
    (fun _ _ => rfl) fun _ hm => ⟨trivial, { hm with scopes := hm.scopes.assign hv _ _ }⟩) ?_
  intro failure _
  cases failure with
  | none => exact pure trivial
  | some e => exact raise _ _

/-! ### Working on the browser -/

/-- What only works on the browser does the same on alike machines, if related browsers yield the
same and are still related afterwards, or else the numbers in common are spent. -/
theorem ofBrowser {f : Browser → α × Browser}
    (hx : ∀ m, x.runOn m = (.ok (f m.browser).1, { m with browser := (f m.browser).2 }))
    (hf : ∀ b b', R b b' →
      R.spent (f b).2 ∨ ((f b').1 = (f b).1 ∧ R (f b).2 (f b').2))
    (hspent : ∀ b, R.spent b → R.spent (f b).2)
    (hheld : ∀ b, Dict.Holds (Value.All p) b.commands →
      Q (f b).1 ∧ Dict.Holds (Value.All p) (f b).2.commands) : Keeps p R Q x := by
  refine ⟨fun m m' h => ?_, fun m hm hs => ?_⟩
  · obtain ⟨hsame, hm, hR⟩ := h
    have hh := hheld _ hm.commands
    rw [hx, hx]
    rcases hf _ _ hR with hs | ⟨hyield, hR'⟩
    · exact .spent ⟨hh.1, { hm with commands := hh.2 }, hs⟩
    · rw [hyield]
      refine .ok hh.1 ⟨?_, { hm with commands := hh.2 }, hR'⟩
      rw [hsame]
  · have hh := hheld _ hm.commands
    rw [hx]
    exact ⟨hh.1, { hm with commands := hh.2 }, hspent _ hs⟩

theorem browser {f : Browser → α} (hf : ∀ b b', R b b' → f b' = f b)
    (hQ : ∀ b, Dict.Holds (Value.All p) b.commands → Q (f b)) : Keeps p R Q (Eval.browser f) :=
  ofBrowser (f := fun b => (f b, b)) (fun _ => rfl) (fun _ _ h => .inr ⟨hf _ _ h, h⟩)
    (fun _ h => h) fun _ h => ⟨hQ _ h, h⟩

theorem modifyBrowser {f : Browser → Browser} (hf : ∀ b b', R b b' → R (f b) (f b'))
    (hspent : ∀ b, (f b).style = b.style ∧ (f b).draws = b.draws)
    (hheld : ∀ b, Dict.Holds (Value.All p) b.commands →
      Dict.Holds (Value.All p) (f b).commands) :
    Keeps p R Anything (Eval.modifyBrowser f) :=
  ofBrowser (f := fun b => ((), f b)) (fun _ => rfl) (fun _ _ h => .inr ⟨rfl, hf _ _ h⟩)
    (fun b h => R.lasting (n := 0) h (hspent b).1 (hspent b).2) fun _ h => ⟨trivial, hheld _ h⟩

end Keeps

end BrowserLab.Script
