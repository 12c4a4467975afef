import Mathlib.Data.List.TakeDrop
import BrowserLab.Progress.Basic

/-!
# The keys of progress

What is kept has a slot, and every slot has its key.  An exercise may have any name, one with
dashes, one like a style or the empty one: the key of its code is still not the key of another
slot (`Slot.key_injective`), since the name of the style is what follows the last dash.
-/

namespace BrowserLab

/-! ### Cutting texts -/

namespace Text

theorem isPrefixOf_append (start rest : List Char) : start.isPrefixOf (start ++ rest) = true :=
  List.isPrefixOf_iff_prefix.mpr (List.prefix_append _ _)

theorem dropStart?_append (start rest : String) : dropStart? (start ++ rest) start = some rest := by
  rw [dropStart?, String.toList_append, if_pos (isPrefixOf_append _ _), List.drop_left,
    String.ofList_toList]

theorem startsWith_append (start rest : String) : startsWith (start ++ rest) start = true := by
  rw [startsWith, String.toList_append]
  exact isPrefixOf_append _ _

/-- A text is cut at a character behind which it is not found. -/
theorem cutLast?_append {c : Char} {before mark after : String} (hmark : mark.toList = [c])
    (h : c ∉ after.toList) : cutLast? c (before ++ mark ++ after) = some (before, after) := by
  have hback : (before ++ mark ++ after).toList.reverse =
      after.toList.reverse ++ c :: before.toList.reverse := by
    simp [hmark]
  have hafter : ∀ d ∈ after.toList.reverse, decide (d ≠ c) = true := by
    intro d hd
    refine decide_eq_true fun heq => h ?_
    rw [← heq]
    exact List.mem_reverse.mp hd
  have hhere : decide (c ≠ c) = false := by simp
  simp only [cutLast?, hback, List.dropWhile_append_of_pos hafter,
    List.takeWhile_append_of_pos hafter, List.dropWhile_cons, List.takeWhile_cons, hhere]
  simp

theorem asciiLower_eq {s : String} (h : s.toList.map Char.toLower = s.toList) :
    asciiLower s = s := by
  rw [← String.toList_inj, asciiLower, String.toList_map, h]

end Text

theorem Style.parse_name (s : Style) : Style.parse s.name = .ok s := by
  have hplaywright : Text.asciiLower "playwright" = "playwright" := Text.asciiLower_eq (by decide)
  have hcypress : Text.asciiLower "cypress" = "cypress" := Text.asciiLower_eq (by decide)
  cases s
  · simp [parse, name, hplaywright]
  · simp [parse, name, hcypress]

namespace Progress

/-! ### Names of exercises in styles -/

theorem pairOfName?_pairName (id : String) (style : Style) :
    pairOfName? (pairName id style) = some (id, style) := by
  have hname : '-' ∉ style.name.toList := by cases style <;> decide
  have hcut : Text.cutLast? '-' (pairName id style) = some (id, style.name) :=
    Text.cutLast?_append (by decide) hname
  simp [pairOfName?, hcut, Style.parse_name, Except.toOption]

theorem pairName_injective {id id' : String} {style style' : Style}
    (h : pairName id style = pairName id' style') : (id, style) = (id', style') :=
  Option.some.inj (by rw [← pairOfName?_pairName, h, pairOfName?_pairName])

/-- The exercise and the style whose code has the key. -/
def pairOfKey? (key : String) : Option (String × Style) :=
  (Text.dropStart? key codeStart).bind pairOfName?

theorem pairOfKey?_codeKey (id : String) (style : Style) :
    pairOfKey? (codeKey id style) = some (id, style) := by
  rw [pairOfKey?, codeKey, Text.dropStart?_append, Option.bind_some, pairOfName?_pairName]

/-! ### Slots -/

/-- Something that is kept. -/
inductive Slot where
  | scenario
  | style
  | completed
  | sidebar
  | code (id : String) (style : Style)
  deriving DecidableEq

def Slot.key : Slot → String
  | .scenario => scenarioKey
  | .style => styleKey
  | .completed => completedKey
  | .sidebar => sidebarKey
  | .code id s => codeKey id s

/-- The slot of a key. -/
def Slot.ofKey? (key : String) : Option Slot :=
  match pairOfKey? key with
  | some (id, s) => some (.code id s)
  | none => [.scenario, .style, .completed, .sidebar].find? fun s => s.key = key

theorem Slot.ofKey?_key (s : Slot) : ofKey? s.key = some s := by
  cases s with
  | scenario => decide
  | style => decide
  | completed => decide
  | sidebar => decide
  | code id s => rw [ofKey?, key, pairOfKey?_codeKey]

theorem Slot.key_injective {s t : Slot} (h : s.key = t.key) : s = t :=
  Option.some.inj (by rw [← ofKey?_key s, h, ofKey?_key])

/-- Every key is one of the lab. -/
theorem Slot.startsWith_key (s : Slot) : Text.startsWith s.key keyStart = true := by
  cases s with
  | scenario => exact Text.startsWith_append keyStart _
  | style => exact Text.startsWith_append keyStart _
  | completed => exact Text.startsWith_append keyStart _
  | sidebar => exact Text.startsWith_append keyStart _
  | code id s =>
    have hstart : codeStart = keyStart ++ "code-" := rfl
    rw [key, codeKey, hstart, String.append_assoc]
    exact Text.startsWith_append keyStart _

/-- The only keys of code are those of the slots for code. -/
theorem Slot.pairOfKey?_key {s : Slot} {pair : String × Style} :
    pairOfKey? s.key = some pair ↔ s = .code pair.1 pair.2 := by
  constructor
  · intro h
    have hcode : ofKey? s.key = some (.code pair.1 pair.2) := by rw [ofKey?, h]
    exact Option.some.inj (by rw [← ofKey?_key, hcode])
  · rintro rfl
    exact pairOfKey?_codeKey _ _

end Progress

end BrowserLab
