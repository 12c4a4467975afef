import Mathlib.Data.List.Nodup
import Mathlib.Data.List.Infix
import BrowserLab.Bus

/-!
# What a bus delivers

A history is a list of calls, one after the other, of a bus that was empty.  Who listens in a role
after it is told by the calls about that role alone (`holder?`), and of two roles the one goes first
that has been held ever since a moment at which the other was free (`Precedes`).

* `Standing` is the invariant: no role twice, in each role its holder, in this order, and as many
  generations as runs have begun.
* `Standing.call`: each call keeps it.
* `delivered_to_holders_in_order`: what every call of a bus comes to, after every history.
-/

namespace BrowserLab.Bus

variable {σ ε : Type}

/-! ### Histories -/

/-- The bus behind calls, one after the other. -/
def after (bus : Bus σ) (calls : List (Call σ ε)) : Bus σ :=
  calls.foldl (fun bus c => (bus.call c).bus) bus

/-- What calls come to, one after the other. -/
def effects (bus : Bus σ) : List (Call σ ε) → List (Effect σ ε)
  | [] => []
  | c :: rest => bus.call c :: (bus.call c).bus.effects rest

/-- The token that an answer gives. -/
def Answer.token? : Answer σ → Option Token
  | .began token => some token
  | _ => none

/-- The tokens that a history of calls has given, in order. -/
def tokens (calls : List (Call σ ε)) : List Token :=
  ((empty : Bus σ).effects calls).filterMap fun e => e.answer.token?

/-- Who listens in a role behind a call, if `old` did before. -/
def Call.leaves (c : Call σ ε) (role : Role) (old : Option σ) : Option σ :=
  match c with
  | .subscribe r s => if r = role then some s else old
  | .unsubscribe r => if r = role then none else old
  | _ => old

/-- Who listens in a role after a history of calls. -/
def holder? (role : Role) (calls : List (Call σ ε)) : Option σ :=
  calls.foldl (fun old c => c.leaves role old) none

/-- Somebody has listened in the one role ever since a moment at which nobody listened in the
other. -/
def Precedes (calls : List (Call σ ε)) (first second : Role) : Prop :=
  ∃ earlier later, calls = earlier ++ later ∧ holder? second earlier = none ∧
    ∀ part, part <+: later → holder? first (earlier ++ part) ≠ none

/-- The roles in which somebody listens, in order. -/
def roles (bus : Bus σ) : List Role := bus.listeners.map Prod.fst

section Snoc

variable (calls : List (Call σ ε)) (c : Call σ ε)

theorem after_snoc (bus : Bus σ) : bus.after (calls ++ [c]) = ((bus.after calls).call c).bus := by
  simp [after]

theorem effects_snoc (bus : Bus σ) :
    bus.effects (calls ++ [c]) = bus.effects calls ++ [(bus.after calls).call c] := by
  induction calls generalizing bus with
  | nil => rfl
  | cons d calls ih =>
    show bus.call d :: (bus.call d).bus.effects (calls ++ [c]) = _
    rw [ih]
    rfl

theorem tokens_snoc :
    tokens (calls ++ [c]) =
      tokens calls ++ (((empty : Bus σ).after calls).call c).answer.token?.toList := by
  rw [tokens, effects_snoc, List.filterMap_append]
  cases h : (((empty : Bus σ).after calls).call c).answer.token? <;> simp [h, tokens]

theorem holder?_snoc (role : Role) :
    holder? role (calls ++ [c]) = c.leaves role (holder? role calls) := by
  simp [holder?]

end Snoc

namespace Precedes

variable {calls : List (Call σ ε)} {c : Call σ ε} {first second : Role}

/-- The order lasts as long as the first role is held. -/
theorem snoc (h : Precedes calls first second) (hheld : holder? first (calls ++ [c]) ≠ none) :
    Precedes (calls ++ [c]) first second := by
  obtain ⟨earlier, later, rfl, hfree, hsince⟩ := h
  refine ⟨earlier, later ++ [c], List.append_assoc _ _ _, hfree, ?_⟩
  intro part hpart
  rcases List.prefix_concat_iff.mp hpart with rfl | hpart
  · rw [← List.append_assoc]
    exact hheld
  · exact hsince part hpart

/-- A role that is free goes behind one that is held. -/
theorem of_free (hfree : holder? second calls = none) (hheld : holder? first calls ≠ none)
    (hheld' : holder? first (calls ++ [c]) ≠ none) : Precedes (calls ++ [c]) first second := by
  refine ⟨calls, [c], rfl, hfree, ?_⟩
  intro part hpart
  rw [← List.nil_append [c], List.prefix_concat_iff, List.prefix_nil] at hpart
  rcases hpart with rfl | rfl
  · exact hheld'
  · rw [List.append_nil]
    exact hheld

end Precedes

/-! ### The listeners in a role -/

variable {role : Role} {s old : σ} {before behind : List (Role × σ)}

/-- A listener takes the place of the one that was in the role. -/
theorem place_of_held (hrole : role ∉ before.map Prod.fst) :
    place role s (before ++ (role, old) :: behind) = before ++ (role, s) :: behind := by
  induction before with
  | nil => simp [place]
  | cons l before ih =>
    rw [List.map_cons, List.mem_cons, not_or] at hrole
    rw [List.cons_append, place, if_neg (Ne.symm hrole.1), ih hrole.2, List.cons_append]

/-- A listener in a role that was free goes last. -/
theorem place_of_free {ls : List (Role × σ)} (hrole : role ∉ ls.map Prod.fst) :
    place role s ls = ls ++ [(role, s)] := by
  induction ls with
  | nil => rfl
  | cons l ls ih =>
    rw [List.map_cons, List.mem_cons, not_or] at hrole
    rw [place, if_neg (Ne.symm hrole.1), ih hrole.2, List.cons_append]

variable {bus : Bus σ}

theorem listener?_of_held (hrole : role ∉ before.map Prod.fst)
    (hbus : bus.listeners = before ++ (role, old) :: behind) : bus.listener? role = some old := by
  rw [listener?, hbus, List.find?_append, List.find?_eq_none.mpr]
  · simp
  · rintro ⟨r, t⟩ ht hr
    rw [decide_eq_true_eq] at hr
    exact hrole (List.mem_map.mpr ⟨(r, t), ht, hr⟩)

theorem listener?_of_free (hrole : role ∉ bus.roles) : bus.listener? role = none := by
  rw [listener?, Option.map_eq_none_iff, List.find?_eq_none]
  rintro ⟨r, t⟩ ht hr
  rw [decide_eq_true_eq] at hr
  exact hrole (List.mem_map.mpr ⟨(r, t), ht, hr⟩)

/-- Either nobody listens in a role, or somebody does between the others. -/
theorem free_or_held (bus : Bus σ) (role : Role) :
    role ∉ bus.roles ∨
      ∃ before old behind, bus.listeners = before ++ (role, old) :: behind := by
  by_cases hrole : role ∈ bus.roles
  · obtain ⟨⟨r, old⟩, hmem, rfl⟩ := List.mem_map.mp hrole
    obtain ⟨before, behind, hbus⟩ := List.append_of_mem hmem
    exact .inr ⟨before, old, behind, hbus⟩
  · exact .inl hrole

/-- Where no role is held twice, the one who listens in a role is the only one. -/
theorem not_mem_before (hnodup : bus.roles.Nodup)
    (hbus : bus.listeners = before ++ (role, old) :: behind) : role ∉ before.map Prod.fst := by
  rw [roles, hbus, List.map_append, List.map_cons] at hnodup
  intro hmem
  exact List.disjoint_of_nodup_append hnodup hmem List.mem_cons_self

theorem call_subscribe_held (hnodup : bus.roles.Nodup)
    (hbus : bus.listeners = before ++ (role, old) :: behind) :
    bus.call (.subscribe role s : Call σ ε) =
      { answer := .subscribed (some old)
        bus := { bus with listeners := before ++ (role, s) :: behind } } := by
  have hrole := not_mem_before hnodup hbus
  rw [call, listener?_of_held hrole hbus, subscribe, hbus, place_of_held hrole]

theorem call_subscribe_free (hrole : role ∉ bus.roles) :
    bus.call (.subscribe role s : Call σ ε) =
      { answer := .subscribed none
        bus := { bus with listeners := bus.listeners ++ [(role, s)] } } := by
  rw [call, listener?_of_free hrole, subscribe, place_of_free hrole]

theorem call_unsubscribe (bus : Bus σ) (role : Role) :
    bus.call (.unsubscribe role : Call σ ε) =
      { answer := .unsubscribed (role ∈ bus.roles)
        bus := { bus with listeners := bus.listeners.filter (·.1 ≠ role) } } := by
  have hfound : (bus.unsubscribe role).listeners.length ≠ bus.listeners.length ↔
      role ∈ bus.roles := by
    rw [unsubscribe, Ne, List.length_filter_eq_length_iff, roles, List.mem_map]
    simp only [decide_eq_true_eq]
    push Not
    rfl
  simp only [call, hfound]
  rfl

theorem call_publish (bus : Bus σ) (token : Token) (e : ε) :
    bus.call (.publish token e) =
      if token = bus.current then
        { answer := .published true, heard := bus.listeners.map fun l => (l.2, e), bus }
      else { answer := .published false, bus } := by
  obtain ⟨generation⟩ := token
  by_cases h : generation = bus.generation
  · subst h
    simp [call, isCurrent, recipients, current]
  · simp [call, isCurrent, recipients, current, h, Ne.symm h]

theorem publish_eq (bus : Bus σ) (token : Token) (hear : σ → σ) :
    bus.publish token hear =
      if token = bus.current then
        (true, { bus with listeners := bus.listeners.map fun l => (l.1, hear l.2) })
      else (false, bus) := by
  obtain ⟨generation⟩ := token
  by_cases h : generation = bus.generation
  · subst h
    simp [publish, isCurrent, mapListeners, current]
  · simp [publish, isCurrent, current, h, Ne.symm h]

/-! ### The invariant -/

/-- How a bus stands after a history of calls. -/
structure Standing (calls : List (Call σ ε)) (bus : Bus σ) : Prop where
  once : bus.roles.Nodup
  holders : ∀ role s, (role, s) ∈ bus.listeners ↔ holder? role calls = some s
  order : bus.roles.Pairwise (Precedes calls)
  generation : bus.generation = (tokens calls).length

namespace Standing

variable {calls : List (Call σ ε)}

theorem empty : Standing ([] : List (Call σ ε)) (Bus.empty : Bus σ) where
  once := List.nodup_nil
  holders role s := by simp [Bus.empty, holder?]
  order := .nil
  generation := rfl

/-- A role is held if and only if it has a holder. -/
theorem mem_roles_iff (h : Standing calls bus) :
    role ∈ bus.roles ↔ holder? role calls ≠ none := by
  rw [roles, List.mem_map, Option.ne_none_iff_exists']
  constructor
  · rintro ⟨⟨r, s⟩, hmem, rfl⟩
    exact ⟨s, (h.holders r s).mp hmem⟩
  · rintro ⟨s, hs⟩
    exact ⟨(role, s), (h.holders role s).mpr hs, rfl⟩

/-- Roles that stay held keep their order. -/
theorem order_snoc (h : Standing calls bus) (c : Call σ ε) {rs : List Role}
    (hrs : rs.Sublist bus.roles) (hheld : ∀ r ∈ rs, holder? r (calls ++ [c]) ≠ none) :
    rs.Pairwise (Precedes (calls ++ [c])) := by
  refine (h.order.sublist hrs).imp_of_mem ?_
  intro first second hfirst _ hprecedes
  exact hprecedes.snoc (hheld first hfirst)

/-- A listener that is replaced leaves its place to the other. -/
theorem subscribe_held (h : Standing calls bus)
    (hbus : bus.listeners = before ++ (role, old) :: behind)
    (htokens : (tokens (calls ++ [.subscribe role s])).length = (tokens calls).length) :
    Standing (calls ++ [.subscribe role s])
      { bus with listeners := before ++ (role, s) :: behind } := by
  have hsame : roles { bus with listeners := before ++ (role, s) :: behind } = bus.roles := by
    simp [roles, hbus]
  have hholders (r : Role) (t : σ) : (r, t) ∈ before ++ (role, s) :: behind ↔
      holder? r (calls ++ [.subscribe role s]) = some t := by
    rw [holder?_snoc, Call.leaves]
    by_cases hr : role = r
    · subst hr
      have honce := h.once
      rw [roles, hbus, List.map_append, List.map_cons, List.nodup_middle, List.nodup_cons,
        ← List.map_append] at honce
      have hothers : (role, t) ∉ before ++ behind := fun hmem =>
        honce.1 (List.mem_map.mpr ⟨(role, t), hmem, rfl⟩)
      rw [List.mem_append, not_or] at hothers
      simp [hothers, eq_comm]
    · rw [if_neg hr, ← h.holders r t, hbus]
      simp [Ne.symm hr]
  refine ⟨?_, hholders, ?_, ?_⟩
  · rw [hsame]
    exact h.once
  · rw [hsame]
    refine h.order_snoc _ (List.Sublist.refl _) ?_
    intro r hr
    rw [← hsame, roles, List.mem_map] at hr
    obtain ⟨⟨r, t⟩, hmem, rfl⟩ := hr
    rw [(hholders r t).mp hmem]
    exact Option.some_ne_none t
  · rw [htokens]
    exact h.generation

/-- A role that is taken anew goes last. -/
theorem subscribe_free (h : Standing calls bus) (hrole : role ∉ bus.roles)
    (htokens : (tokens (calls ++ [.subscribe role s])).length = (tokens calls).length) :
    Standing (calls ++ [.subscribe role s])
      { bus with listeners := bus.listeners ++ [(role, s)] } := by
  have hfree : holder? role calls = none := by
    by_contra hheld
    exact hrole (h.mem_roles_iff.mpr hheld)
  have hlater : roles { bus with listeners := bus.listeners ++ [(role, s)] } =
      bus.roles ++ [role] := by
    simp [roles]
  have hheld (r : Role) (hr : r ∈ bus.roles) :
      holder? r (calls ++ [.subscribe role s]) ≠ none := by
    rw [holder?_snoc, Call.leaves, if_neg (ne_of_mem_of_not_mem hr hrole).symm]
    exact h.mem_roles_iff.mp hr
  refine ⟨?_, ?_, ?_, ?_⟩
  · rw [hlater, List.nodup_append_comm, List.singleton_append, List.nodup_cons]
    exact ⟨hrole, h.once⟩
  · intro r t
    rw [holder?_snoc, Call.leaves]
    by_cases hr : role = r
    · subst hr
      have hnew : (role, t) ∉ bus.listeners := fun hmem => hrole (List.mem_map_of_mem hmem)
      simp [hnew, eq_comm]
    · rw [if_neg hr, ← h.holders r t]
      simp [Ne.symm hr]
  · rw [hlater, List.pairwise_append]
    refine ⟨h.order_snoc _ (List.Sublist.refl _) hheld, List.pairwise_singleton _ _, ?_⟩
    intro first hfirst second hsecond
    rw [List.mem_singleton] at hsecond
    subst hsecond
    exact .of_free hfree (h.mem_roles_iff.mp hfirst) (hheld first hfirst)
  · rw [htokens]
    exact h.generation

/-- The roles that stay when one is left keep their order. -/
theorem unsubscribe (h : Standing calls bus)
    (htokens : (tokens (calls ++ [.unsubscribe role])).length = (tokens calls).length) :
    Standing (calls ++ [.unsubscribe role])
      { bus with listeners := bus.listeners.filter (·.1 ≠ role) } := by
  have hfewer : (roles { bus with listeners := bus.listeners.filter (·.1 ≠ role) }).Sublist
      bus.roles := List.filter_sublist.map _
  have hholders (r : Role) (t : σ) : (r, t) ∈ bus.listeners.filter (·.1 ≠ role) ↔
      holder? r (calls ++ [.unsubscribe role]) = some t := by
    rw [holder?_snoc, Call.leaves, List.mem_filter, h.holders r t]
    by_cases hr : role = r
    · simp [hr]
    · simp [hr, Ne.symm hr]
  refine ⟨h.once.sublist hfewer, hholders, h.order_snoc _ hfewer ?_, ?_⟩
  · intro r hr
    rw [roles, List.mem_map] at hr
    obtain ⟨⟨r, t⟩, hmem, rfl⟩ := hr
    rw [(hholders r t).mp hmem]
    exact Option.some_ne_none t
  · rw [htokens]
    exact h.generation

/-- Nothing changes for listeners when none comes or goes. -/
theorem same (h : Standing calls bus) {c : Call σ ε} {generation : Nat}
    (hleaves : ∀ role old, c.leaves role old = old)
    (hgeneration : generation = (tokens (calls ++ [c])).length) :
    Standing (calls ++ [c]) { bus with generation } := by
  have hholder (r : Role) : holder? r (calls ++ [c]) = holder? r calls := by
    rw [holder?_snoc, hleaves]
  refine ⟨h.once, ?_, h.order_snoc _ (List.Sublist.refl _) ?_, hgeneration⟩
  · intro r t
    rw [hholder]
    exact h.holders r t
  · intro r hr
    rw [hholder]
    exact h.mem_roles_iff.mp hr

/-- Every call keeps the invariant. -/
theorem call {calls : List (Call σ ε)} (h : Standing calls ((Bus.empty : Bus σ).after calls))
    (c : Call σ ε) : Standing (calls ++ [c]) ((Bus.empty : Bus σ).after (calls ++ [c])) := by
  have htokens := congrArg List.length (tokens_snoc calls c)
  rw [after_snoc]
  rw [List.length_append] at htokens
  generalize (Bus.empty : Bus σ).after calls = bus at h htokens ⊢
  cases c with
  | subscribe role s =>
    rcases free_or_held bus role with hfree | ⟨before, old, behind, hbus⟩
    · rw [call_subscribe_free hfree] at htokens ⊢
      exact h.subscribe_free hfree htokens
    · rw [call_subscribe_held h.once hbus] at htokens ⊢
      exact h.subscribe_held hbus htokens
  | unsubscribe role =>
    rw [call_unsubscribe] at htokens ⊢
    exact h.unsubscribe htokens
  | begin =>
    refine h.same (fun _ _ => rfl) ?_
    rw [htokens, ← h.generation]
    rfl
  | publish token e =>
    refine h.same (fun _ _ => rfl) ?_
    rw [htokens, ← h.generation]
    rfl

/-- The invariant holds after every history. -/
theorem after (calls : List (Call σ ε)) :
    Standing calls ((Bus.empty : Bus σ).after calls) := by
  induction calls using List.reverseRecOn with
  | nil => exact .empty
  | append_singleton calls c ih => exact ih.call c

end Standing

/-! ### Tokens -/

/-- The tokens that a history gives are numbered from 1 on. -/
theorem tokens_eq (calls : List (Call σ ε)) :
    (tokens calls).map Token.generation = List.range' 1 (tokens calls).length := by
  induction calls using List.reverseRecOn with
  | nil => rfl
  | append_singleton calls c ih =>
    have hgeneration := (Standing.after calls).generation
    rw [tokens_snoc]
    generalize (empty : Bus σ).after calls = bus at hgeneration ⊢
    cases c with
    | begin =>
      show (tokens calls ++ [Token.mk (bus.generation + 1)]).map Token.generation =
        List.range' 1 (tokens calls ++ [Token.mk (bus.generation + 1)]).length
      rw [List.map_append, ih, List.length_append, List.length_singleton, List.range'_concat,
        hgeneration]
      simp [Nat.add_comm]
    | _ => simpa [Bus.call, Answer.token?] using ih

/-- **Who hears what.**  After every history of calls nobody shares a role, in each role listens the
one that was put there last, and the roles are in the order in which they were taken.  A listener
who is put into a role that is held is told who was there and takes over that place; into a role
that is free, it goes last.  An announcement under the current token is heard by everyone who
listens, once and in this order; under any other token it is not, and nothing changes.  Each token
that is given is larger than all before it, and none is larger than the number of runs. -/
theorem delivered_to_holders_in_order (calls : List (Call σ ε)) :
    let bus := (empty : Bus σ).after calls
    Standing calls bus ∧
      (∀ role s,
        (∀ before old behind, bus.listeners = before ++ (role, old) :: behind →
          bus.call (.subscribe role s : Call σ ε) =
            { answer := .subscribed (some old)
              bus := { bus with listeners := before ++ (role, s) :: behind } }) ∧
        (role ∉ bus.roles →
          bus.call (.subscribe role s : Call σ ε) =
            { answer := .subscribed none
              bus := { bus with listeners := bus.listeners ++ [(role, s)] } })) ∧
      (∀ role, bus.call (.unsubscribe role : Call σ ε) =
        { answer := .unsubscribed (role ∈ bus.roles)
          bus := { bus with listeners := bus.listeners.filter (·.1 ≠ role) } }) ∧
      (∀ token (e : ε), bus.call (.publish token e) =
        if token = bus.current then
          { answer := .published true, heard := bus.listeners.map fun l => (l.2, e), bus }
        else { answer := .published false, bus }) ∧
      (∀ token (hear : σ → σ), bus.publish token hear =
        if token = bus.current then
          (true, { bus with listeners := bus.listeners.map fun l => (l.1, hear l.2) })
        else (false, bus)) ∧
      (tokens calls).Pairwise (·.generation < ·.generation) ∧
      ∀ token ∈ tokens calls, token.generation ≤ bus.current.generation := by
  intro bus
  have hstanding : Standing calls bus := .after calls
  have hnumbers := tokens_eq calls
  refine ⟨hstanding, ?_, call_unsubscribe bus, call_publish bus, publish_eq bus, ?_, ?_⟩
  · intro role s
    refine ⟨?_, call_subscribe_free⟩
    intro before old behind hbus
    exact call_subscribe_held hstanding.once hbus
  · rw [← List.pairwise_map (R := (· < ·)), hnumbers]
    exact List.pairwise_lt_range'
  · intro token htoken
    have hmem := List.mem_map_of_mem (f := Token.generation) htoken
    rw [hnumbers, List.mem_range'_1] at hmem
    show token.generation ≤ bus.generation
    rw [hstanding.generation]
    omega

end BrowserLab.Bus
