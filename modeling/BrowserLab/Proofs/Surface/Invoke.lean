import BrowserLab.Proofs.Script.Global
import BrowserLab.Proofs.Surface.Command
import BrowserLab.Proofs.Surface.Page

/-!
# What handles can do

A handle of a style hands out only handles of that style, and calling its methods keeps up whatever
the style admits.

* `Supplies.answerCall`: what commands hand out, if they are supplied with handles of a kind.
* `Admits.upholds`: scripts of a style keep up whatever the style admits.
-/

namespace BrowserLab.Script

variable {style : Style} {p : Handle → Prop} {R : Link}

/-! ### Properties -/

/-- The only other handles that are properties are two of the page and the list of commands. -/
theorem property?_cases {h : Handle} {key : String} {v : Value}
    (hv : Surface.property? h key = some v) :
    (∀ p, v.All p) ∨ v = .handle h ∨ (h = .cypress ∧ v = .handle .commands) ∨
      ∃ frame, h = .page frame ∧ (v = .handle .accessibility ∨ v = .handle .request) := by
  unfold Surface.property? at hv
  split at hv
  · next frame =>
    refine .inr (.inr (.inr ⟨frame, rfl, ?_⟩))
    split at hv
    · cases hv
    split at hv
    · exact .inl (Option.some.inj hv).symm
    split at hv <;> cases hv
    exact .inr rfl
  · split at hv <;> cases hv
    exact .inr (.inl rfl)
  · split at hv
    · exact .inr (.inr (.inl ⟨rfl, (Option.some.inj hv).symm⟩))
    split at hv <;> cases hv
    exact .inl fun _ => trivial
  · split at hv
    · cases hv
      exact .inl fun _ => trivial
    split at hv <;> cases hv
    exact .inr (.inl rfl)
  · cases hv

theorem all_property {h : Handle} (hh : h.All (Handle.Of style)) {key : String} {v : Value}
    (hv : Surface.property? h key = some v) : v.All (Handle.Of style) := by
  rcases property?_cases hv with hv | rfl | ⟨rfl, rfl⟩ | ⟨frame, rfl, rfl | rfl⟩
  · exact hv _
  · exact hh
  all_goals exact hh.self

theorem Supplies.all_property (hp : Supplies p) {h : Handle} (hh : h.All p) {key : String}
    {v : Value} (hv : Surface.property? h key = some v) : v.All p := by
  rcases property?_cases hv with hv | rfl | ⟨rfl, rfl⟩ | ⟨frame, rfl, -⟩
  · exact hv _
  · exact hh
  · exact hp.commands
  · cases hp.ofStyle hh.self

/-! ### Methods -/

/-- An expectation announces an event only if a locator is expected. -/
theorem Tolerates.expectMethod (hR : Tolerates style R) {subject : Value}
    (hlocator : ∀ l, subject = .handle (.locator l) → style = .playwright)
    (hh : (Handle.expectation subject).All p) (method : String) (args : List Value) :
    Keeps p R (Reply.All p) (Surface.expectMethod subject method args) := by
  have hsame : Reply.All p (.value (.handle (.expectation subject))) := hh
  unfold Surface.expectMethod
  split
  · next l =>
    obtain rfl : style = .playwright := hlocator l rfl
    refine (Keeps.textArgument _ _).bind fun text _ => ?_
    split
    · next e he =>
      have hkind : e.kind.isAssertion = true := by
        unfold Surface.expectationEvent? at he
        split at he <;> cases he <;> rfl
      have hbare : e.Bare := by
        unfold Surface.expectationEvent? at he
        split at he <;> cases he <;> exact ⟨rfl, rfl⟩
      refine (hR.emit ?_ (fun _ _ => ?_) hbare).bind fun _ _ => .pure hsame
      · show e.kind ≠ .routeIntercept
        intro h
        rw [h] at hkind
        cases hkind
      · cases h : e.kind <;> first | rfl | (rw [h] at hkind; cases hkind)
    · exact .pure hsame
  · exact .pure hsame

/-- A method that is called on a handle with which commands can do. -/
theorem Supplies.answerCall (hp : Supplies p) (hR : Tolerates .cypress R) {h : Handle}
    (hh : h.All p) {method : String}
    (hfree : ∀ t subject, h = .chain t subject → Refills subject method → ∀ v, p (.chain t v))
    {args : List Value} (hargs : AllValues p args) :
    Keeps p R (Reply.All p) (Surface.answerCall h method args) := by
  have hself := hp.ofStyle hh.self
  cases h with
  | expectation subject =>
    refine hR.expectMethod (fun l hl => ?_) hh method args
    subst hl
    cases hp.ofStyle hh.2
  | cy => exact hp.commandMethod hR _ hargs
  | chain t subject => exact hp.chainMethod hR hh (hfree t subject rfl) hargs
  | element t => exact hp.elementMethod hR t _ hargs
  | «alias» =>
    unfold Surface.answerCall
    dsimp only
    split
    · exact .pure hp.cy
    · exact .fallback (h := .alias) hp.link _ hargs
  | cypress =>
    unfold Surface.answerCall
    dsimp only
    split
    · exact .pure trivial
    · exact .fallback (h := .cypress) hp.cypress _ hargs
  | commands => exact hp.commandsMethod hR _ hargs
  | _ => cases hself

namespace Admits

variable (hR : Admits style R)

include hR

/-- A method that is called on a handle of the style, unless a page is asked to wait. -/
theorem answerCall {h : Handle} (hh : h.All (Handle.Of style)) {method : String}
    (hmethod : ∀ frame, h = .page frame → method ≠ "waitForTimeout") {args : List Value}
    (hargs : AllValues (Handle.Of style) args) :
    Keeps (Handle.Of style) R (Reply.All (Handle.Of style)) (Surface.answerCall h method args) := by
  cases style with
  | cypress => exact supplies_of.answerCall hR.toTolerates hh (fun _ _ _ _ _ => rfl) hargs
  | playwright =>
    have hself := hh.self
    cases h with
    | page frame => exact hR.pageMethod _ (hmethod frame rfl) hargs
    | locator l => exact hR.locatorMethod _ _ hargs
    | route glob => exact hR.routeMethod _ _ hargs
    | request => exact hR.requestMethod _ hargs
    | response r => exact responseMethod _ _
    | accessibility => exact hR.accessibilityMethod _
    | expectation subject => exact hR.expectMethod (fun _ _ => rfl) hh _ _
    | _ => cases hself

/-- **Calling a method of a handle keeps up whatever the style admits.** -/
theorem invoke {h : Handle} (hh : h.All (Handle.Of style)) (method : String) {args : List Value}
    (hargs : AllValues (Handle.Of style) args) :
    Keeps (Handle.Of style) R (Reply.All (Handle.Of style)) (Surface.invoke h method args) := by
  by_cases hwait : ∃ frame, h = .page frame ∧ method = "waitForTimeout"
  · obtain ⟨frame, rfl, rfl⟩ := hwait
    obtain rfl : style = .playwright := hh.self
    exact hR.waitForTimeout _ _
  · refine (Keeps.noteCall fun h => hR.call h _).bind fun _ _ => hR.answerCall hh ?_ hargs
    exact fun frame hframe hmethod => hwait ⟨frame, hframe, hmethod⟩

omit hR in
theorem holds_styleValues : Dict.Holds (Value.All (Handle.Of style)) (styleValues style) := by
  cases style <;> simp [styleValues, Value.All, Handle.All, Handle.Of]

/-- **Scripts of a style come by handles of the style only, and keep up whatever the style
admits.** -/
theorem upholds : Upholds style (Handle.Of style) R where
  ofStyle := hR.ofStyle
  sameStyle h := (hR.same h).style
  spentStyle := hR.spentStyle
  globals := holds_styleValues
  expectation _ := trivial
  property := all_property
  invoke hh method _ hargs := hR.invoke hh method hargs
  random := hR.random

end Admits

end BrowserLab.Script
