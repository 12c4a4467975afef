import BrowserLab.Proofs.Script.Evaluation
import BrowserLab.Proofs.Surface.Atomic
import BrowserLab.Script.Program
import BrowserLab.Script.Run

/-!
# What computations come to

Evaluation is given fuel, and without enough of it comes to nothing.  `ComesTo x m r m'` leaves the
fuel out: with enough of it the computation comes from the machine `m` to a value or to a thrown
value, which is `r`, and to the machine `m'`.

* `Steady`: more fuel changes nothing about what a computation comes to, so it comes to one end only
  (`ComesTo.unique`).  All of evaluation is steady.
* `comesTo_bind` and others: what becomes of computations that are put together.
-/

namespace BrowserLab.Script

open Eval

variable {α β : Type} {x : Nat → Eval α} {m m' : Machine}

/-- With enough fuel the computation comes to a value or throws one. -/
def ComesTo (x : Nat → Eval α) (m : Machine) (r : Except Value α) (m' : Machine) : Prop :=
  ∃ fuel, (attempt (x fuel)).runOn m = (.ok r, m')

/-- More fuel changes nothing about what the computation comes to. -/
def Steady (x : Nat → Eval α) : Prop :=
  ∀ ⦃n k m r m'⦄, n ≤ k → (attempt (x n)).runOn m = (.ok r, m') →
    (attempt (x k)).runOn m = (.ok r, m')

/-! ### Attempts -/

theorem runOn_attempt_eq_ok_iff {y : Eval α} {a : α} :
    (attempt y).runOn m = (.ok (.ok a), m') ↔ y.runOn m = (.ok a, m') := by
  rw [runOn_attempt]
  generalize y.runOn m = r
  match r with
  | (.ok b, m₁) => simp
  | (.error (.thrown v), m₁) => simp
  | (.error .exhausted, m₁) => simp

theorem runOn_attempt_eq_error_iff {y : Eval α} {v : Value} :
    (attempt y).runOn m = (.ok (.error v), m') ↔ y.runOn m = (.error (.thrown v), m') := by
  rw [runOn_attempt]
  generalize y.runOn m = r
  match r with
  | (.ok b, m₁) => simp
  | (.error (.thrown w), m₁) => simp
  | (.error .exhausted, m₁) => simp

theorem runOn_attempt_bind (y : Eval α) (f : α → Eval β) :
    (attempt (y >>= f)).runOn m =
      match (attempt y).runOn m with
      | (.ok (.ok a), m₁) => (attempt (f a)).runOn m₁
      | (.ok (.error v), m₁) => (.ok (.error v), m₁)
      | (.error e, m₁) => (.error e, m₁) := by
  simp only [runOn_attempt, runOn_bind]
  generalize y.runOn m = r
  match r with
  | (.ok b, m₁) => rfl
  | (.error (.thrown v), m₁) => rfl
  | (.error .exhausted, m₁) => rfl

theorem runOn_attempt_bind_eq_ok_iff {y : Eval α} {f : α → Eval β} {r : Except Value β} :
    (attempt (y >>= f)).runOn m = (.ok r, m') ↔
      (∃ v, r = .error v ∧ (attempt y).runOn m = (.ok (.error v), m')) ∨
        ∃ a m₁, (attempt y).runOn m = (.ok (.ok a), m₁) ∧
          (attempt (f a)).runOn m₁ = (.ok r, m') := by
  rw [runOn_attempt_bind]
  generalize (attempt y).runOn m = s
  match s with
  | (.ok (.ok a), m₁) =>
    refine ⟨fun h => .inr ⟨a, m₁, rfl, h⟩, ?_⟩
    rintro (⟨v, -, hv⟩ | ⟨b, m₂, hb, h⟩)
    · cases hv
    · cases hb
      exact h
  | (.ok (.error v), m₁) => grind
  | (.error e, m₁) => simp

theorem runOn_attempt_attempt (y : Eval α) :
    (attempt (attempt y)).runOn m =
      match (attempt y).runOn m with
      | (.ok r, m₁) => (.ok (.ok r), m₁)
      | (.error e, m₁) => (.error e, m₁) := by
  simp only [runOn_attempt]
  generalize y.runOn m = r
  match r with
  | (.ok b, m₁) => rfl
  | (.error (.thrown v), m₁) => rfl
  | (.error .exhausted, m₁) => rfl

/-! ### What does not fail -/

theorem runOn_display (v : Value) (m : Machine) :
    (display v).runOn m = (.ok (m.heap.display v), m) := rfl

/-! ### Computations that are put together -/

theorem Steady.const (y : Eval α) : Steady fun _ => y := fun _ _ _ _ _ _ h => h

theorem Steady.bind {f : Nat → α → Eval β} (hx : Steady x) (hf : ∀ a, Steady fun n => f n a) :
    Steady fun n => x n >>= f n := by
  intro n k m r m' hle h
  rw [runOn_attempt_bind_eq_ok_iff] at h ⊢
  rcases h with ⟨v, hr, hv⟩ | ⟨a, m₁, ha, hrest⟩
  · exact .inl ⟨v, hr, hx hle hv⟩
  · exact .inr ⟨a, m₁, hx hle ha, hf a hle hrest⟩

theorem Steady.attempt (hx : Steady x) : Steady fun n => Eval.attempt (x n) := by
  intro n k m r m' hle h
  rw [runOn_attempt_attempt] at h ⊢
  cases hn : (Eval.attempt (x n)).runOn m with
  | mk s m₁ =>
    rw [hn] at h
    cases s with
    | error e => cases h
    | ok s =>
      rw [hx hle hn]
      exact h

/-- The computation does not come to two ends. -/
theorem ComesTo.unique (hx : Steady x) {r r' : Except Value α} {m₁ m₂ : Machine}
    (h : ComesTo x m r m₁) (h' : ComesTo x m r' m₂) : r = r' ∧ m₁ = m₂ := by
  obtain ⟨n, hn⟩ := h
  obtain ⟨k, hk⟩ := h'
  have heq := (hx (Nat.le_max_left n k) hn).symm.trans (hx (Nat.le_max_right n k) hk)
  simpa using heq

/-- What needs a unit of fuel comes to what it comes to with one unit more. -/
theorem comesTo_succ (hzero : x 0 = exhausted) {r : Except Value α} :
    ComesTo x m r m' ↔ ComesTo (fun n => x (n + 1)) m r m' := by
  refine ⟨fun ⟨n, hn⟩ => ?_, fun ⟨n, hn⟩ => ⟨n + 1, hn⟩⟩
  cases n with
  | zero =>
    rw [hzero] at hn
    cases hn
  | succ n => exact ⟨n, hn⟩

theorem comesTo_const_ok {y : Eval α} {a : α} :
    ComesTo (fun _ => y) m (.ok a) m' ↔ y.runOn m = (.ok a, m') :=
  ⟨fun ⟨_, h⟩ => runOn_attempt_eq_ok_iff.mp h, fun h => ⟨0, runOn_attempt_eq_ok_iff.mpr h⟩⟩

theorem comesTo_const {y : Eval α} {r : Except Value α} :
    ComesTo (fun _ => y) m r m' ↔ (attempt y).runOn m = (.ok r, m') :=
  ⟨fun ⟨_, h⟩ => h, fun h => ⟨0, h⟩⟩

@[simp] theorem comesTo_pure {a : α} {r : Except Value α} :
    ComesTo (fun _ => pure a) m r m' ↔ r = .ok a ∧ m' = m := by
  rw [comesTo_const, runOn_attempt, runOn_pure]
  simp [eq_comm]

@[simp] theorem comesTo_throwValue {v : Value} {r : Except Value α} :
    ComesTo (fun _ => throwValue v) m r m' ↔ r = .error v ∧ m' = m := by
  rw [comesTo_const, runOn_attempt, throwValue, runOn_throw]
  simp [eq_comm]

@[simp] theorem comesTo_resume {s r : Except Value α} :
    ComesTo (fun _ => resume s) m r m' ↔ r = s ∧ m' = m := by
  cases s with
  | ok a => exact comesTo_pure
  | error v => exact comesTo_throwValue

/-- The members of an error. -/
def errorMembers (name message : String) : Dict Value :=
  Dict.ofPairs [("name", .string name), ("message", .string message)]

/-- The machine once an error has been made, as its newest object. -/
def Machine.withError (m : Machine) (name message : String) : Machine :=
  { m with heap := (m.heap.newObject (errorMembers name message)).2 }

@[simp] theorem comesTo_raise {name message : String} {r : Except Value α} :
    ComesTo (fun _ => raise name message) m r m' ↔
      r = .error (.object m.heap.objects.size) ∧ m' = m.withError name message := by
  rw [comesTo_const, show (attempt (raise name message : Eval α)).runOn m =
    (.ok (.error (.object m.heap.objects.size)), m.withError name message) from rfl]
  simp [eq_comm]

@[simp] theorem comesTo_typeError {message : String} {r : Except Value α} :
    ComesTo (fun _ => typeError message) m r m' ↔
      r = .error (.object m.heap.objects.size) ∧ m' = m.withError "TypeError" message :=
  comesTo_raise

/-- One computation and then another: the first one throws, or the second one begins where it has
come to a value. -/
theorem comesTo_bind {f : Nat → α → Eval β} (hx : Steady x) (hf : ∀ a, Steady fun n => f n a)
    {r : Except Value β} :
    ComesTo (fun n => x n >>= f n) m r m' ↔
      (∃ v, r = .error v ∧ ComesTo x m (.error v) m') ∨
        ∃ a m₁, ComesTo x m (.ok a) m₁ ∧ ComesTo (fun n => f n a) m₁ r m' := by
  constructor
  · rintro ⟨n, hn⟩
    rcases runOn_attempt_bind_eq_ok_iff.mp hn with ⟨v, rfl, hv⟩ | ⟨a, m₁, ha, hrest⟩
    · exact .inl ⟨v, rfl, n, hv⟩
    · exact .inr ⟨a, m₁, ⟨n, ha⟩, n, hrest⟩
  · rintro (⟨v, rfl, n, hn⟩ | ⟨a, m₁, ⟨n, hn⟩, k, hk⟩)
    · exact ⟨n, runOn_attempt_bind_eq_ok_iff.mpr (.inl ⟨v, rfl, hn⟩)⟩
    · -- both have enough fuel with that of the one that needs more
      refine ⟨max n k, runOn_attempt_bind_eq_ok_iff.mpr (.inr ⟨a, m₁, ?_, ?_⟩)⟩
      · exact hx (Nat.le_max_left n k) hn
      · exact hf a (Nat.le_max_right n k) hk

theorem comesTo_bind_ok {f : Nat → α → Eval β} (hx : Steady x) (hf : ∀ a, Steady fun n => f n a)
    {b : β} :
    ComesTo (fun n => x n >>= f n) m (.ok b) m' ↔
      ∃ a m₁, ComesTo x m (.ok a) m₁ ∧ ComesTo (fun n => f n a) m₁ (.ok b) m' := by
  rw [comesTo_bind hx hf]
  simp

/-- A computation that comes to a value, and then another. -/
theorem comesTo_after {y : Eval α} {a : α} {m₁ : Machine} (hy : y.runOn m = (.ok a, m₁))
    {f : Nat → α → Eval β} {r : Except Value β} :
    ComesTo (fun n => y >>= f n) m r m' ↔ ComesTo (fun n => f n a) m₁ r m' := by
  simp only [ComesTo, runOn_attempt_bind, runOn_attempt_eq_ok_iff.mpr hy]

theorem comesTo_attempt {r : Except Value (Except Value α)} :
    ComesTo (fun n => attempt (x n)) m r m' ↔ ∃ s, r = .ok s ∧ ComesTo x m s m' := by
  constructor
  · rintro ⟨n, hn⟩
    rw [runOn_attempt_attempt] at hn
    cases hs : (attempt (x n)).runOn m with
    | mk s m₁ =>
      rw [hs] at hn
      cases s with
      | error e => cases hn
      | ok s =>
        cases hn
        exact ⟨s, rfl, n, hs⟩
  · rintro ⟨s, rfl, n, hn⟩
    refine ⟨n, ?_⟩
    rw [runOn_attempt_attempt, hn]

/-- A step is taken before the computation. -/
theorem comesTo_step {r : Except Value α} :
    ComesTo (fun n => step >>= fun _ => x n) m r m' ↔
      ∃ m₀, m.takeStep = (true, m₀) ∧ ComesTo x m₀ r m' := by
  cases htake : m.takeStep with
  | mk taken m₀ =>
    have hstep : step.runOn m = (if taken then .ok () else .error .exhausted, m₀) := by
      rw [step, runOn_bind, runOn_modifyGet, htake]
      cases taken <;> rfl
    cases taken with
    | true =>
      rw [comesTo_after hstep]
      constructor
      · exact fun h => ⟨m₀, rfl, h⟩
      · rintro ⟨m₁, heq, h⟩
        obtain rfl : m₀ = m₁ := (Prod.mk.inj heq).2
        exact h
    | false =>
      constructor
      · rintro ⟨n, hn⟩
        rw [runOn_attempt_bind, runOn_attempt, hstep] at hn
        cases hn
      · rintro ⟨m₁, heq, -⟩
        cases heq

/-! ### Evaluation is steady -/

/-- The browser is the same, and of a style. -/
def Link.same (style : Style) : Link := .endless fun b b' => b' = b ∧ b.style = style

theorem alike_same {style : Style} : Alike anyHandle (.same style) m m' ↔
    m' = m ∧ m.browser.style = style := by
  constructor
  · rintro ⟨hsame, -, hbrowser, hstyle⟩
    rw [hbrowser] at hsame
    exact ⟨hsame, hstyle⟩
  · rintro ⟨rfl, hstyle⟩
    exact ⟨rfl, m'.all_any, rfl, hstyle⟩

/-- What leaves the style alone follows itself. -/
theorem keeps_same {style : Style} {Q : α → Prop} {y : Eval α} (hQ : ∀ a, Q a)
    (hy : ∀ m, (y.runOn m).2.browser.style = m.browser.style) :
    Keeps anyHandle (.same style) Q y := by
  refine ⟨fun m m' h => ?_, fun _ _ hspent => hspent.elim⟩
  obtain ⟨rfl, hstyle⟩ := alike_same.mp h
  have halike : Alike anyHandle (.same style) (y.runOn m').2 (y.runOn m').2 :=
    alike_same.mpr ⟨rfl, (hy m').trans hstyle⟩
  generalize y.runOn m' = r at halike
  match r, halike with
  | (.ok a, m₁), halike => exact .ok (hQ a) halike
  | (.error (.thrown v), m₁), halike => exact .thrown v.all_any halike
  | (.error .exhausted, m₁), halike => exact .exhausted halike

theorem style_invoke (h : Handle) (method : String) (args : List Value) (m : Machine) :
    ((Surface.invoke h method args).runOn m).2.browser.style = m.browser.style := by
  obtain ⟨r, heap, browser, hrun, hmoves⟩ := Atomic.invoke_moves h method args m
  rw [hrun]
  exact hmoves.style

theorem upholds_same (style : Style) : Upholds style anyHandle (.same style) where
  ofStyle h := h.2
  sameStyle h := h.1 ▸ rfl
  spentStyle h := h.elim
  globals entry _ := entry.2.all_any
  expectation _ := trivial
  property _ _ v _ := v.all_any
  invoke _ method args _ := keeps_same Reply.all_any (style_invoke _ method args)
  random := keeps_same (fun _ => trivial) fun _ => rfl

/-- What follows itself with more fuel, in whatever style, is steady. -/
theorem Steady.of_follows {Q : α → Prop}
    (h : ∀ {n k}, n ≤ k → ∀ style, Follows anyHandle (.same style) Q (x n) (x k)) : Steady x := by
  intro n k m r m' hle hn
  have hend := (h hle m.browser.style).alike m m (alike_same.mpr ⟨rfl, rfl⟩)
  rw [runOn_attempt] at hn ⊢
  generalize (x n).runOn m = s at hend hn
  generalize (x k).runOn m = s' at hend
  cases hend with
  | ok _ halike =>
    obtain ⟨rfl, -⟩ := alike_same.mp halike
    exact hn
  | thrown _ halike =>
    obtain ⟨rfl, -⟩ := alike_same.mp halike
    exact hn
  | exhausted => cases hn
  | spent hspent => exact hspent.spent.elim

theorem along_same {n k : Nat} (h : n ≤ k) (style : Style) : Along anyHandle (.same style) n k :=
  (upholds_same style).along h

theorem steady_eval (e : Expr) (scope : Nat) : Steady fun n => eval n e scope :=
  .of_follows fun h style => (along_same h style).eval e scope

theorem steady_evalElements (items : List Element) (scope : Nat) :
    Steady fun n => evalElements n items scope :=
  .of_follows fun h style => (along_same h style).evalElements items scope

theorem steady_assign (target : Expr) (v : Value) (scope : Nat) :
    Steady fun n => assign n target v scope :=
  .of_follows fun h style => (along_same h style).assign target v.all_any scope

theorem steady_call (f : Value) (args : List Value) : Steady fun n => call n f args :=
  .of_follows fun h style => (along_same h style).call f.all_any fun v _ => v.all_any

theorem steady_bindParams (params : List Param) (i : Nat) (args : List Value) (scope : Nat) :
    Steady fun n => bindParams n params i args scope :=
  .of_follows fun h style => (along_same h style).bindParams params i (fun v _ => v.all_any) scope

theorem steady_bind (pattern : Pattern) (v : Value) (scope : Nat) (mutable : Bool) :
    Steady fun n => Script.bind n pattern v scope mutable :=
  .of_follows fun h style => (along_same h style).bind pattern v.all_any scope mutable

theorem steady_exec (s : Stmt) (scope : Nat) : Steady fun n => exec n s scope :=
  .of_follows fun h style => (along_same h style).exec s scope

theorem steady_execDeclarations (declarations : List Declarator) (scope : Nat) (mutable : Bool) :
    Steady fun n => execDeclarations n declarations scope mutable :=
  .of_follows fun h style => (along_same h style).execDeclarations declarations scope mutable

theorem steady_execHandler (param : Option Pattern) (thrown : Value) (handler : List Stmt)
    (scope : Nat) : Steady fun n => execHandler n param thrown handler scope :=
  .of_follows fun h style => (along_same h style).execHandler param thrown.all_any handler scope

theorem steady_execScoped (s : Stmt) (scope : Nat) : Steady fun n => execScoped n s scope :=
  .of_follows fun h style => (along_same h style).execScoped s scope

theorem steady_execBlock (body : List Stmt) (scope : Nat) :
    Steady fun n => execBlock n body scope :=
  .of_follows fun h style => (along_same h style).execBlock body scope

theorem steady_execFor (test update : Option Expr) (body : Stmt) (scope : Nat) :
    Steady fun n => execFor n test update body scope :=
  .of_follows fun h style => (along_same h style).execFor test update body scope

/-! ### Literals and names -/

/-- What an expression stands for that is a literal. -/
def Expr.literal? : Expr → Option Value
  | .number x => some (.number x)
  | .string s => some (.string s)
  | .bool b => some (.bool b)
  | .null => some .null
  | .undefined => some .undefined
  | _ => none

theorem comesTo_eval_literal {e : Expr} {v : Value} (h : e.literal? = some v) {scope : Nat}
    {r : Except Value Value} :
    ComesTo (eval · e scope) m r m' ↔ m.takeStep = (true, m') ∧ r = .ok v := by
  have hunfold (n : Nat) : eval (n + 1) e scope = step >>= fun _ => pure v := by
    cases e <;> cases h <;> simp only [eval]
  rw [comesTo_succ (by rw [eval])]
  simp only [hunfold]
  rw [comesTo_step]
  simp only [comesTo_pure]
  constructor
  · rintro ⟨m₀, hstep, rfl, rfl⟩
    exact ⟨hstep, rfl⟩
  · rintro ⟨hstep, rfl⟩
    exact ⟨m', hstep, rfl, rfl⟩

/-- To take a step changes nothing but how many are left. -/
theorem Machine.takeStep_eq {taken : Bool} (h : m.takeStep = (taken, m')) :
    m' = { m with stepsLeft := m'.stepsLeft } := by
  unfold Machine.takeStep at h
  split at h <;> cases h <;> rfl

/-- A name that has a meaning comes to it. -/
theorem comesTo_eval_ident_of_lookup {name : String} {scope : Nat} {v : Value}
    (hv : m.scopes.lookup scope name = some v) {r : Except Value Value} :
    ComesTo (eval · (.ident name) scope) m r m' ↔ m.takeStep = (true, m') ∧ r = .ok v := by
  rw [comesTo_succ (by rw [eval])]
  simp only [eval]
  rw [comesTo_step]
  have hfound {m₀ : Machine} (hstep : m.takeStep = (true, m₀)) :
      (lookup? scope name).runOn m₀ = (.ok (some v), m₀) := by
    rw [Machine.takeStep_eq hstep, ← hv]
    rfl
  constructor
  · rintro ⟨m₀, hstep, h⟩
    rw [comesTo_after (hfound hstep)] at h
    obtain ⟨rfl, rfl⟩ := comesTo_pure.mp h
    exact ⟨hstep, rfl⟩
  · rintro ⟨hstep, rfl⟩
    refine ⟨m', hstep, ?_⟩
    rw [comesTo_after (hfound hstep)]
    exact comesTo_pure.mpr ⟨rfl, rfl⟩

/-- A name that has none does not come to a value. -/
theorem not_comesTo_eval_ident {name : String} {scope : Nat} {v : Value}
    (hnone : m.scopes.lookup scope name = none) :
    ¬ ComesTo (eval · (.ident name) scope) m (.ok v) m' := by
  rw [comesTo_succ (by rw [eval])]
  simp only [eval]
  rw [comesTo_step]
  rintro ⟨m₀, hstep, h⟩
  have hfound : (lookup? scope name).runOn m₀ = (.ok none, m₀) := by
    rw [Machine.takeStep_eq hstep, ← hnone]
    rfl
  rw [comesTo_after hfound] at h
  cases (comesTo_raise.mp h).1

/-- A name comes to what it means. -/
theorem comesTo_eval_ident {name : String} {scope : Nat} {v : Value} :
    ComesTo (eval · (.ident name) scope) m (.ok v) m' ↔
      m.takeStep = (true, m') ∧ m.scopes.lookup scope name = some v := by
  cases hlookup : m.scopes.lookup scope name with
  | none => simp [not_comesTo_eval_ident hlookup]
  | some w => simp [comesTo_eval_ident_of_lookup hlookup, eq_comm]

/-! ### Scopes and variables -/

/-- The number of the scope that is opened next. -/
def Machine.nextScope (m : Machine) : Nat := m.scopes.frames.size

/-- The machine once that scope has been opened within another. -/
def Machine.opened (m : Machine) (parent : Nat) : Machine :=
  { m with scopes := (m.scopes.child parent).2 }

theorem runOn_openScope (parent : Nat) (m : Machine) :
    (openScope parent).runOn m = (.ok m.nextScope, m.opened parent) := rfl

/-- The machine once a name has been declared. -/
def Machine.declared (m : Machine) (scope : Nat) (name : String) (v : Value) (mutable : Bool) :
    Machine :=
  { m with scopes := m.scopes.declare scope name v mutable }

/-- To bind a name is to declare it. -/
theorem comesTo_bind_ident {name : String} {v : Value} {scope : Nat} {mutable : Bool}
    {r : Except Value Unit} :
    ComesTo (Script.bind · (.ident name) v scope mutable) m r m' ↔
      r = .ok () ∧ m' = m.declared scope name v mutable := by
  rw [comesTo_succ (by rw [Script.bind])]
  simp only [Script.bind]
  have hdeclare : (declare scope name v mutable).runOn m =
    (.ok (), m.declared scope name v mutable) := rfl
  rw [comesTo_const, runOn_attempt, hdeclare]
  simp [eq_comm]

/-! ### Texts -/

/-- A browser that has not been used, the page of which responds at once. -/
def Browser.unused (style : Style) : Browser :=
  { style, latency := .instant, clock := 0, draws := .zeros }

/-- How the run of a text ends, and what it has written to the console; nothing if the text is no
script. -/
def runText? (fuel : Nat) (text : String) (b : Browser) : Option (Ending × List String) :=
  (compile text).toOption.map fun p =>
    let (ending, m) := p.run fuel b
    (ending, m.console.reverse)

end BrowserLab.Script
