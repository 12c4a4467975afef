import BrowserLab.Proofs.Script.ComesTo

/-!
# Chains of accesses and calls

A chain is an expression with links behind it, each of which takes a property, takes the property
under a key, or makes a call, and each of which may be optional.  A chain is evaluated link by link
(`comesTo_chain`), and each link decides for itself what becomes of a missing value: if it is
optional the chain goes on with an undefined value, and otherwise the chain ends there with a thrown
error (`ChainLink.Refuses`).

* `missing_passed_along_chain`: what a chain comes to that has an optional link behind a missing
  value.
-/

namespace BrowserLab.Script

open Eval

/-- A link of a chain. -/
inductive ChainLink where
  | member (name : String) (optional : Bool)
  | index (key : Expr) (optional : Bool)
  | call (args : List Element) (optional : Bool)

namespace ChainLink

def isOptional : ChainLink → Bool
  | member _ optional => optional
  | index _ optional => optional
  | call _ optional => optional

/-- The expression with the link behind it. -/
def on (e : Expr) : ChainLink → Expr
  | member name optional => .member e name optional
  | index key optional => .index e key optional
  | call args optional => .call e args optional

/-- What the link takes from the value of the expression before it. -/
def take (fuel : Nat) (e : Expr) (scope : Nat) (v : Value) : ChainLink → Eval Value
  | member name _ => getProperty v name
  | index key _ => do
    let k ← eval fuel key scope
    getProperty v (← display k)
  | call args _ =>
    if !v.isCallable then typeError (e.describe ++ " is not a function")
    else do
      let vs ← evalElements fuel args scope
      Script.call fuel v vs

/-- What the link makes of the value: an optional one takes nothing from a missing value. -/
def follow (fuel : Nat) (e : Expr) (scope : Nat) (v : Value) (l : ChainLink) : Eval Value :=
  if l.isOptional && v.isNullish then return .undefined else l.take fuel e scope v

/-- What a link that is not optional throws where the value is undefined: an error, or what the
evaluation of its key threw.  Arguments are not evaluated. -/
inductive Refuses (e : Expr) (scope : Nat) (m : Machine) : ChainLink → Value → Machine → Prop
  | member (name : String) : Refuses e scope m (.member name false) (.object m.heap.objects.size)
      (m.withError "TypeError" ("Cannot read properties of undefined (reading '" ++ name ++ "')"))
  | index {key : Expr} {k : Value} {m₁ : Machine}
      (hkey : ComesTo (eval · key scope) m (.ok k) m₁) :
      Refuses e scope m (.index key false) (.object m₁.heap.objects.size)
        (m₁.withError "TypeError"
          ("Cannot read properties of undefined (reading '" ++ m₁.heap.display k ++ "')"))
  | key {key : Expr} {w : Value} {m₁ : Machine}
      (hkey : ComesTo (eval · key scope) m (.error w) m₁) :
      Refuses e scope m (.index key false) w m₁
  | call (args : List Element) : Refuses e scope m (.call args false) (.object m.heap.objects.size)
      (m.withError "TypeError" (e.describe ++ " is not a function"))

end ChainLink

/-- The expression with links behind it. -/
def Expr.chain (e : Expr) (links : List ChainLink) : Expr := links.foldl ChainLink.on e

/-- What the links make of the value of the expression before them. -/
def followAll (fuel scope : Nat) : List ChainLink → Expr → Value → Eval Value
  | [], _, v => return v
  | l :: links, e, v => l.follow fuel e scope v >>= followAll fuel scope links (l.on e)

/-- So many steps are taken. -/
inductive Machine.Steps : Nat → Machine → Machine → Prop
  | zero (m : Machine) : Steps 0 m m
  | succ {n : Nat} {m m₁ m' : Machine} (h : Steps n m m₁) (hstep : m₁.takeStep = (true, m')) :
      Steps (n + 1) m m'

variable {e : Expr} {scope : Nat} {m m' : Machine} {r : Except Value Value} {v : Value}

/-! ### Link by link -/

theorem eval_on (n : Nat) (l : ChainLink) : eval (n + 1) (l.on e) scope =
    step >>= fun _ => eval n e scope >>= fun v => l.follow n e scope v := by
  cases l <;> rw [ChainLink.on, eval] <;> rfl

theorem steady_take (e : Expr) (scope : Nat) (v : Value) (l : ChainLink) :
    Steady fun n => l.take n e scope v := by
  cases l with
  | member name optional => exact .const _
  | index key optional => exact (steady_eval key scope).bind fun _ => .const _
  | call args optional =>
    simp only [ChainLink.take]
    cases v.isCallable with
    | false => exact .const _
    | true => exact (steady_evalElements args scope).bind fun _ => steady_call _ _

theorem steady_follow (e : Expr) (scope : Nat) (v : Value) (l : ChainLink) :
    Steady fun n => l.follow n e scope v := by
  simp only [ChainLink.follow]
  cases l.isOptional && v.isNullish with
  | true => exact .const _
  | false => exact steady_take e scope v l

theorem steady_followAll (scope : Nat) (links : List ChainLink) :
    ∀ e v, Steady fun n => followAll n scope links e v := by
  induction links with
  | nil => exact fun _ _ => .const _
  | cons l links ih => exact fun e v => (steady_follow e scope v l).bind fun _ => ih _ _

/-- A step is taken for the link, then the expression before it is evaluated. -/
theorem comesTo_on {l : ChainLink} {m₀ : Machine} (hstep : m.takeStep = (true, m₀)) :
    ComesTo (eval · (l.on e) scope) m r m' ↔
      ComesTo (fun n => eval n e scope >>= fun v => l.follow n e scope v) m₀ r m' := by
  rw [comesTo_succ (by rw [eval])]
  simp only [eval_on]
  rw [comesTo_step]
  constructor
  · rintro ⟨m₁, hstep', h⟩
    obtain rfl : m₀ = m₁ := (Prod.mk.inj (hstep.symm.trans hstep')).2
    exact h
  · exact fun h => ⟨m₀, hstep, h⟩

/-- A step is taken for each link, then the expression before them is evaluated, and then its value
goes from link to link. -/
theorem comesTo_chain {links : List ChainLink} {m₀ : Machine} (hsteps : m.Steps links.length m₀) :
    ComesTo (eval · (e.chain links) scope) m r m' ↔
      ComesTo (fun n => eval n e scope >>= fun v => followAll n scope links e v) m₀ r m' := by
  induction links generalizing e m₀ with
  | nil =>
    cases hsteps
    simp only [followAll, bind_pure]
    rfl
  | cons l links ih =>
    cases hsteps with | succ hsteps hstep => ?_
    have hfollow := (steady_eval e scope).bind fun v => steady_follow e scope v l
    calc ComesTo (eval · ((l.on e).chain links) scope) m r m'
      _ ↔ ComesTo (fun n => eval n (l.on e) scope >>= fun v => followAll n scope links (l.on e) v)
            _ r m' := ih hsteps
      _ ↔ ComesTo (fun n => (eval n e scope >>= fun v => l.follow n e scope v) >>=
            fun v => followAll n scope links (l.on e) v) m₀ r m' := by
          rw [comesTo_bind (steady_eval _ scope) fun v => steady_followAll scope links _ v,
            comesTo_bind hfollow fun v => steady_followAll scope links _ v]
          simp only [comesTo_on hstep]
      _ ↔ _ := by simp only [bind_assoc, followAll]

/-! ### Missing values -/

/-- An optional link makes an undefined value of a missing one. -/
theorem follow_optional {l : ChainLink} (hl : l.isOptional = true) (hv : v.isNullish = true)
    (n : Nat) : l.follow n e scope v = return .undefined :=
  if_pos (by rw [hl, hv]; rfl)

/-- Optional links pass an undefined value on. -/
theorem followAll_optional {links : List ChainLink} (hlinks : ∀ l ∈ links, l.isOptional = true)
    (n : Nat) (e : Expr) : followAll n scope links e .undefined = return .undefined := by
  induction links generalizing e with
  | nil => rfl
  | cons l links ih =>
    have hpassed : l.follow n e scope .undefined = return .undefined :=
      follow_optional (hlinks l List.mem_cons_self) rfl n
    rw [followAll, hpassed, pure_bind]
    exact ih (fun l h => hlinks l (List.mem_cons_of_mem _ h)) _

theorem followAll_append (n : Nat) (links more : List ChainLink) (e : Expr) (v : Value) :
    followAll n scope (links ++ more) e v =
      followAll n scope links e v >>= fun v => followAll n scope more (e.chain links) v := by
  induction links generalizing e v with
  | nil => rw [List.nil_append, followAll, pure_bind]; rfl
  | cons l links ih =>
    rw [List.cons_append, followAll, followAll, bind_assoc]
    exact bind_congr fun v => ih _ _

/-- An undefined value has no properties. -/
theorem comesTo_getProperty_undefined {name : String} :
    ComesTo (fun _ => getProperty .undefined name) m r m' ↔
      r = .error (.object m.heap.objects.size) ∧ m' = m.withError "TypeError"
        ("Cannot read properties of undefined (reading '" ++ name ++ "')") := by
  rw [← comesTo_typeError]
  exact comesTo_after (y := Eval.heap id) (f := fun _ _ => typeError _) rfl

/-- A link that is not optional refuses a missing value, and does nothing else. -/
theorem comesTo_follow_refuses {l : ChainLink} (hl : l.isOptional = false) :
    ComesTo (fun n => l.follow n e scope .undefined) m r m' ↔
      ∃ w, l.Refuses e scope m w m' ∧ r = .error w := by
  have htake (n : Nat) : l.follow n e scope .undefined = l.take n e scope .undefined := by
    rw [ChainLink.follow, hl]
    rfl
  simp only [htake]
  cases l with
  | member name optional =>
    obtain rfl : optional = false := hl
    simp only [ChainLink.take, comesTo_getProperty_undefined]
    constructor
    · rintro ⟨rfl, rfl⟩
      exact ⟨_, .member name, rfl⟩
    · rintro ⟨w, ⟨⟩, rfl⟩
      exact ⟨rfl, rfl⟩
  | index key optional =>
    obtain rfl : optional = false := hl
    simp only [ChainLink.take]
    rw [comesTo_bind (steady_eval key scope)
      fun k => .const (display k >>= fun name => getProperty .undefined name)]
    simp only [comesTo_after (runOn_display _ _), comesTo_getProperty_undefined]
    constructor
    · rintro (⟨w, rfl, hkey⟩ | ⟨k, m₁, hkey, rfl, rfl⟩)
      · exact ⟨w, .key hkey, rfl⟩
      · exact ⟨_, .index hkey, rfl⟩
    · rintro ⟨w, hrefuses, rfl⟩
      cases hrefuses with
      | index hkey => exact .inr ⟨_, _, hkey, rfl, rfl⟩
      | key hkey => exact .inl ⟨w, rfl, hkey⟩
  | call args optional =>
    obtain rfl : optional = false := hl
    simp only [ChainLink.take, Value.isCallable, Bool.not_false, if_true, comesTo_typeError]
    constructor
    · rintro ⟨rfl, rfl⟩
      exact ⟨_, .call args, rfl⟩
    · rintro ⟨w, ⟨⟩, rfl⟩
      exact ⟨rfl, rfl⟩

/-- What the links come to behind a missing value, the first of them being optional. -/
theorem followAll_missing {first : ChainLink} {links : List ChainLink}
    (hfirst : first.isOptional = true) (hv : v.isNullish = true) (n : Nat) :
    followAll n scope (first :: links) e v = followAll n scope links (first.on e) .undefined := by
  rw [followAll, follow_optional hfirst hv, pure_bind]

/-- **A missing value is passed along a chain by optional links only.**  Suppose that the expression
before a chain comes to a missing value, in whatever scope and state, and that the first link is
optional.  If all links are, the chain comes to an undefined value; it throws nothing, and no more
is evaluated.  Otherwise the chain ends at the first link that is not optional, and throws what that
link throws where the value is undefined: keys and arguments before and behind it are not
evaluated. -/
theorem missing_passed_along_chain {e : Expr} {first : ChainLink} {links : List ChainLink}
    {scope : Nat} {m m₀ m₁ : Machine} {v : Value} (hfirst : first.isOptional = true)
    (hsteps : m.Steps (links.length + 1) m₀) (he : ComesTo (eval · e scope) m₀ (.ok v) m₁)
    (hv : v.isNullish = true) (r : Except Value Value) (m' : Machine) :
    ((∀ l ∈ links, l.isOptional = true) →
      (ComesTo (eval · (e.chain (first :: links)) scope) m r m' ↔ r = .ok .undefined ∧ m' = m₁)) ∧
    ∀ before plain behind, links = before ++ plain :: behind →
      (∀ l ∈ before, l.isOptional = true) → plain.isOptional = false →
      (ComesTo (eval · (e.chain (first :: links)) scope) m r m' ↔
        ∃ w, plain.Refuses (e.chain (first :: before)) scope m₁ w m' ∧ r = .error w) := by
  have hchain : ComesTo (eval · (e.chain (first :: links)) scope) m r m' ↔
      ComesTo (fun n => followAll n scope links (first.on e) .undefined) m₁ r m' := by
    have hfollow (v : Value) := steady_followAll scope (first :: links) e v
    rw [comesTo_chain (show m.Steps (first :: links).length m₀ from hsteps),
      comesTo_bind (steady_eval e scope) hfollow]
    simp only [← followAll_missing hfirst hv]
    constructor
    · rintro (⟨w, rfl, hthrown⟩ | ⟨v', m₂, he', h⟩)
      · cases (he.unique (steady_eval e scope) hthrown).1
      · obtain ⟨⟨⟩, rfl⟩ := he.unique (steady_eval e scope) he'
        exact h
    · exact fun h => .inr ⟨v, m₁, he, h⟩
  rw [hchain]
  refine ⟨fun hall => ?_, fun before plain behind hlinks hbefore hplain => ?_⟩
  · simp only [followAll_optional hall, comesTo_pure]
  · subst hlinks
    simp only [followAll_append, followAll_optional hbefore, pure_bind, followAll]
    rw [comesTo_bind (steady_follow _ _ _ _) fun _ => steady_followAll _ _ _ _]
    simp only [comesTo_follow_refuses hplain]
    constructor
    · rintro (⟨w, rfl, w', hrefuses, hw⟩ | ⟨a, m₂, ⟨w, -, hw⟩, -⟩)
      · cases hw
        exact ⟨w, hrefuses, rfl⟩
      · cases hw
    · rintro ⟨w, hrefuses, rfl⟩
      exact .inl ⟨w, rfl, w, hrefuses, rfl⟩

/-- Null is missing.  Two links behind it, whose key and argument have no meaning, pass it along; a
plain link between them does not. -/
theorem missing_passed_along_chain_null :
    let m := Machine.start (.unused .playwright)
    let key := ChainLink.index (.ident "never") true
    let call := ChainLink.call [.item (.ident "never")] true
    ComesTo (eval · .null globalScope) m (.ok .null) m ∧
      ComesTo (eval · (Expr.null.chain [key, call]) globalScope) m (.ok .undefined) m ∧
      ComesTo (eval · (Expr.null.chain [key, .member "length" false, call]) globalScope) m
        (.error (.object m.heap.objects.size))
        (m.withError "TypeError" "Cannot read properties of undefined (reading 'length')") := by
  intro m key call
  have hnull : ComesTo (eval · .null globalScope) m (.ok .null) m :=
    (comesTo_eval_literal rfl).mpr ⟨rfl, rfl⟩
  have hkey : key.isOptional = true := rfl
  have hpassed : m.Steps ([call].length + 1) m := .succ (.succ (.zero m) rfl) rfl
  have hcut : m.Steps ([.member "length" false, call].length + 1) m :=
    .succ (.succ (.succ (.zero m) rfl) rfl) rfl
  refine ⟨hnull, ?_, ?_⟩
  · refine ((missing_passed_along_chain hkey hpassed hnull rfl _ _).1 ?_).mpr ⟨rfl, rfl⟩
    simp [call, ChainLink.isOptional]
  · exact ((missing_passed_along_chain hkey hcut hnull rfl _ _).2 [] _ [call] rfl nofun rfl).mpr
      ⟨_, .member "length", rfl⟩

/-- The name of a missing user has no length to be asked for. -/
theorem chain_not_cut_short :
    runText? 100 "const user = undefined; console.log(user?.name.length)"
        (.unused .playwright) =
      some (.failed "Cannot read properties of undefined (reading 'length')", []) := by
  decide +kernel

end BrowserLab.Script
