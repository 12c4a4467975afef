import BrowserLab.Proofs.Script.Calls
import BrowserLab.Proofs.Script.Reach
import BrowserLab.Proofs.Surface.Invoke

/-!
# What chains act on, and what they yield

A chain keeps the target on which it acts apart from the subject that it hands on.  Commands make
chains that act on the element they hand on, and only calls that `Refills` tells of put another
subject behind a target.  So if a chain comes to act on another element than the one it hands on,
then the browser has noted such a call of a chain with the same target.

* `Supplies.runs`: machines are watched for chains that are not to be come by unless one of them has
  been refilled.
* `Machine.Faithful`: each chain that can be come to acts on the element it hands on, unless a chain
  with its target has been refilled.
* `exists_deed`: what is done to an element is done by calls of chains that are at it, and of the
  element itself.
-/

namespace BrowserLab.Script

variable {p : Handle → Prop}

/-! ### Refilled chains -/

/-- One of the calls has refilled a chain with the target. -/
def Refilled (calls : List (Handle × String)) (t : Target) : Prop :=
  ∃ subject method, (Handle.chain t subject, method) ∈ calls ∧ Refills subject method

/-- On machines that run commands, handles are watched; but if a chain has been refilled, the chains
with its target may be any. -/
def Watch.commands (p : Handle → Prop) : Watch where
  passage := calling
  handles := p
  browser b := b.style = .cypress ∧ ∀ call ∈ b.calls, p call.1
  excused m := ∃ t, (¬ ∀ v, p (.chain t v)) ∧ Refilled m.browser.calls t
  lasting := by
    rintro m m' ⟨calls, hgoes⟩ ⟨t, ht, subject, method, hcall, hrefills⟩
    refine ⟨t, ht, subject, method, ?_, hrefills⟩
    rw [hgoes.noted]
    exact List.mem_append_right _ hcall

/-- What methods of commands do leaves the calls and the style alone. -/
theorem tolerates_commands (p : Handle → Prop) : Tolerates .cypress (Watch.commands p).link where
  ofStyle h := h.2.1
  spentStyle h := h.elim
  same h := by
    obtain rfl := h.1
    exact ⟨rfl, rfl, rfl, rfl, rfl⟩
  agree h := by
    obtain rfl := h.1
    exact .refl _ _
  tell h _ _ _ := ⟨by rw [h.1], h.2⟩
  visit h _ := ⟨by rw [h.1], h.2⟩
  register h _ _ := ⟨by rw [h.1], h.2⟩
  define h _ _ := ⟨by rw [h.1], h.2⟩
  draw h _ _ := ⟨by rw [h.1], h.2⟩

namespace Supplies

variable (hp : Supplies p)

include hp

/-- A call that refills no chain comes by no other chains than before. -/
theorem invoke {h : Handle} (hh : h.All p) {method : String}
    (hfree : ∀ t subject, h = .chain t subject → Refills subject method → ∀ v, p (.chain t v))
    {args : List Value} (hargs : AllValues p args) :
    Keeps p (Watch.commands p).link (Reply.All p) (Surface.invoke h method args) := by
  have hnote {b b' : Browser} (hb : (Watch.commands p).link b b') :
      (Watch.commands p).link { b with calls := (h, method) :: b.calls }
        { b' with calls := (h, method) :: b'.calls } :=
    ⟨by rw [hb.1], hb.2.1, List.forall_mem_cons.mpr ⟨hh.self, hb.2.2⟩⟩
  exact (Keeps.noteCall hnote).bind fun _ _ =>
    hp.answerCall (tolerates_commands p) hh hfree hargs

theorem lasts : (Watch.commands p).Lasts where
  suits :=
    { expectation := fun _ => hp.expectation _
      property := hp.all_property
      random := (tolerates_commands p).random }
  invoke {c h args} hh hargs method := by
    by_cases hrefills : ∃ t subject, h = .chain t subject ∧ Refills subject method ∧
        ¬ ∀ v, p (.chain t v)
    · -- the call is noted before anything else is done
      obtain ⟨t, subject, rfl, hrefills, ht⟩ := hrefills
      refine ⟨calling.invoke _ method args, fun _ m _ => .inl ⟨t, ht, subject, method, ?_, hrefills⟩⟩
      obtain ⟨r, heap, browser, hrun, hmoves⟩ :=
        Atomic.invoke_moves (.chain t subject) method args m
      rw [hrun, hmoves.calls]
      exact List.mem_cons_self
    · refine .of (calling.invoke h method args) fun hc => hp.invoke (hh hc) ?_ (hargs hc)
      intro t subject hchain hmethod
      by_contra ht
      exact hrefills ⟨t, subject, hchain, hmethod, ht⟩

theorem globals : Dict.Holds (Value.All p) (styleValues .cypress) := by
  have hcy : (Value.handle .cy).All p := hp.cy
  have hcypress : (Value.handle .cypress).All p := hp.cypress
  simp [styleValues, hcy, hcypress]

theorem runs : (Watch.commands p).Runs where
  toLasts := hp.lasts
  globals {b} hb := by
    rw [hb.1]
    exact hp.globals
  forgets _ := ⟨[], .begins⟩

end Supplies

/-! ### Chains at a target -/

/-- The target is one that is found by searching another. -/
inductive Target.Finds (t : Target) : Target → Prop
  | within (selector : String) : t.Finds (Surface.descendant t selector)
  | among (index : String) : t.Finds (Surface.nthTarget t index)
  | containing {found : Target} (frame : found.frame = t.frame) (text : found.text.isSome)
      (selector : found.selector = Surface.qualified t ∨
        ∃ inner, found.selector = some (Surface.within (Surface.qualified t) inner " ")) :
      t.Finds found

theorem exists_runOn_containsTarget (t : Target) (args : List Value) (m : Machine) :
    ∃ found, t.Finds found ∧ (Surface.containsTarget t args).runOn m = (.ok found, m) := by
  have htext := runOn_textArgument args 0 m
  unfold Surface.containsTarget
  split
  · next selector text _ =>
    split
    case h_4 =>
      refine ⟨_, ?_, rfl⟩
      refine .containing rfl rfl (.inr ⟨m.heap.display selector, ?_⟩)
      cases Surface.qualified t <;> rfl
    -- no selector is given, only a text
    all_goals
      refine ⟨_, ?_, Eval.runOn_bind_ok htext⟩
      refine .containing rfl rfl (.inl ?_)
      cases Surface.qualified t <;> rfl
  · refine ⟨_, ?_, Eval.runOn_bind_ok htext⟩
    refine .containing rfl rfl (.inl ?_)
    cases Surface.qualified t <;> rfl

end BrowserLab.Script
