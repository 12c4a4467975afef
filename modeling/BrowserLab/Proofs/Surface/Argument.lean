import BrowserLab.Event.Document
import BrowserLab.Proofs.Script.Method

/-!
# How arguments are read

What the methods of handles do with their arguments before they drive the browser works on the
memory only.
-/

namespace BrowserLab.Script

variable {p : Handle → Prop} {R : Link}

theorem clampInt_le {low high : Int} (hzero : 0 ≤ high) (hlow : low ≤ high) (x : Float) :
    Number.clampInt low high x ≤ high := by
  unfold Number.clampInt
  split
  · exact hzero
  · split
    · exact hlow
    · exact Int.le_refl high
  · omega

/-- Numbers are cut down to 16 bits. -/
theorem toNat16_lt (x : Float) : Number.toNat16 x < statusBound := by
  have hle : Number.clampInt 0 65535 x ≤ 65535 := clampInt_le (by decide) (by decide) x
  show (Number.clampInt 0 65535 x).toNat < 65536
  omega

namespace Keeps

theorem textArgument (args : List Value) (i : Nat) :
    Keeps p R Anything (Surface.textArgument args i) := by
  unfold Surface.textArgument
  split
  · exact pure trivial
  · exact display _

theorem textOption? (v : Value) (key : String) :
    Keeps p R Anything (Surface.textOption? v key) := by
  unfold Surface.textOption?
  refine (option? v key).bind fun w _ => ?_
  cases w with
  | none => exact pure trivial
  | some w => exact (display w).bind fun _ _ => pure trivial

/-- A status code has 16 bits. -/
theorem statusOption (v : Value) (key : String) :
    Keeps p R (· < statusBound) (Surface.statusOption v key) := by
  unfold Surface.statusOption
  refine (option? v key).bind fun w _ => ?_
  cases w with
  | none => exact pure (by decide)
  | some w => exact (number w).bind fun x _ => pure (toNat16_lt x)

theorem payloadOf (v : Option Value) : Keeps p R Anything (Surface.payloadOf v) := by
  unfold Surface.payloadOf
  cases v with
  | none => exact pure trivial
  | some v =>
    dsimp only
    split
    · exact pure trivial
    · exact (json v).bind fun _ _ => pure trivial

theorem headersOf (v : Option Value) : Keeps p R Anything (Surface.headersOf v) := by
  unfold Surface.headersOf
  cases v with
  | none => exact pure trivial
  | some v =>
    refine (json v).bind fun j _ => ?_
    split <;> exact pure trivial

theorem bodyOf (v : Option Value) : Keeps p R Anything (Surface.bodyOf v) := by
  unfold Surface.bodyOf
  cases v with
  | none => exact pure trivial
  | some v => exact (json v).bind fun _ _ => pure trivial

theorem roleName (args : List Value) : Keeps p R Anything (Surface.roleName args) := by
  unfold Surface.roleName
  refine (textOption? _ _).bind fun name _ => ?_
  cases name with
  | none => exact textArgument _ _
  | some name => exact pure trivial

theorem answerHeaders : Keeps p R (Value.All p) Surface.answerHeaders :=
  newObject (Dict.holds_cons trivial Dict.holds_nil)

/-- What is left for all handles hands out nothing but the handle itself. -/
theorem fallback {h : Handle} (hh : h.All p) (method : String) {args : List Value}
    (hargs : AllValues p args) : Keeps p R (Reply.All p) (Surface.fallback h method args) := by
  unfold Surface.fallback
  dsimp only
  cases args with
  | nil => exact typeError _
  | cons callee rest =>
    dsimp only
    split
    · exact pure ⟨hargs.head, allValues_nil.cons hh, fun _ h => h⟩
    · exact typeError _

theorem commandRequest (args : List Value) :
    Keeps p R Anything (Surface.commandRequest args) := by
  unfold Surface.commandRequest
  split
  · refine (textOption? _ _).bind fun _ _ => (option? _ _).bind fun _ _ => ?_
    refine (option? _ _).bind fun _ _ => (textOption? _ _).bind fun _ _ => ?_
    refine (payloadOf _).bind fun _ _ => (option? _ _).bind fun _ _ => ?_
    exact (headersOf _).bind fun _ _ => pure trivial
  · exact (payloadOf _).bind fun _ _ => pure trivial
  · exact (display _).bind fun _ _ => pure trivial
  · exact (display _).bind fun _ _ => (payloadOf _).bind fun _ _ => pure trivial

end Keeps

end BrowserLab.Script
