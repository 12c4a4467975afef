import Mathlib.Tactic.SplitIfs
import BrowserLab.Json.Printer

/-!
# The characters of JSON text

Items and members are written one behind the other with commas between them: in compact text
(`toList_compact_arr`, `toList_compact_obj`), and in indented text (`toList_indented_obj`), where
each member has a line.
-/

namespace BrowserLab.Json

/-! ### Strings -/

theorem length_escapeChar_pos (c : Char) : 0 < (escapeChar c).length := by
  unfold escapeChar
  split_ifs <;> exact Nat.succ_pos _

/-- No character is lost inside quotes. -/
theorem length_le_flatMap_escapeChar (cs : List Char) :
    cs.length ≤ (cs.flatMap escapeChar).length := by
  induction cs with
  | nil => exact Nat.zero_le _
  | cons c cs ih =>
    have hpos := length_escapeChar_pos c
    rw [List.flatMap_cons, List.length_append, List.length_cons]
    omega

/-! ### Compact text -/

theorem toList_compactItems (items : List Json) : (compactItems items).toList =
    List.intercalate [','] (items.map fun j => (compact j).toList) := by
  induction items with
  | nil => rfl
  | cons j items ih =>
    cases items with
    | nil => rw [compactItems, List.map_singleton, List.intercalate_singleton]
    | cons j' items =>
      simp only [compactItems, String.toList_append, ih, List.map_cons,
        List.intercalate_cons_cons]
      rfl

theorem toList_compact_arr (items : List Json) : (compact (.arr items)).toList =
    '[' :: (List.intercalate [','] (items.map fun j => (compact j).toList) ++ [']']) := by
  simp [compact, toList_compactItems]

/-- The text of a member. -/
def memberText (entry : String × Json) : List Char :=
  quoteChars entry.1.toList ++ ':' :: (compact entry.2).toList

theorem toList_compactMembers (members : List (String × Json)) :
    (compactMembers members).toList = List.intercalate [','] (members.map memberText) := by
  induction members with
  | nil => rfl
  | cons entry members ih =>
    obtain ⟨k, j⟩ := entry
    cases members with
    | nil => simp [compactMembers, memberText, quote]
    | cons entry' members =>
      simp only [compactMembers, String.toList_append, ih, List.map_cons,
        List.intercalate_cons_cons]
      simp [memberText, quote]

theorem toList_compact_obj (members : List (String × Json)) : (compact (.obj members)).toList =
    '\x7b' :: (List.intercalate [','] (members.map memberText) ++ ['\x7d']) := by
  simp [compact, toList_compactMembers]

/-! ### Indented text -/

/-- A member on its line, in an object that is `level` levels deep. -/
def memberLine (level : Nat) (entry : String × Json) : List Char :=
  (newline level).toList ++ quoteChars entry.1.toList ++
    ':' :: ' ' :: (indented level entry.2).toList

theorem toList_indentedMembers (level : Nat) (members : List (String × Json)) :
    (indentedMembers level members).toList =
      List.intercalate [','] (members.map (memberLine level)) := by
  induction members with
  | nil => rfl
  | cons entry members ih =>
    obtain ⟨k, j⟩ := entry
    cases members with
    | nil => simp [indentedMembers, memberLine, quote]
    | cons entry' members =>
      simp only [indentedMembers, String.toList_append, ih, List.map_cons,
        List.intercalate_cons_cons]
      simp [memberLine, quote]

theorem toList_indented_obj (level : Nat) (entry : String × Json) (members : List (String × Json)) :
    (indented level (.obj (entry :: members))).toList = '\x7b' ::
      (List.intercalate [','] ((entry :: members).map (memberLine (level + 1))) ++
        (newline level).toList ++ ['\x7d']) := by
  simp [indented, toList_indentedMembers]

/-! ### Commas -/

theorem intercalate_comma (text : List Char) (texts : List (List Char)) :
    List.intercalate [','] (text :: texts) = text ++ texts.flatMap (',' :: ·) := by
  induction texts generalizing text with
  | nil => simp
  | cons text' texts ih =>
    rw [List.intercalate_cons_cons, ih, List.flatMap_cons]
    simp

section Length

variable {α : Type} {l : List α} {f g : α → List Char}

theorem length_le_flatMap {a : α} (h : a ∈ l) : (f a).length ≤ (l.flatMap f).length := by
  obtain ⟨before, after, rfl⟩ := List.append_of_mem h
  simp only [List.flatMap_append, List.flatMap_cons, List.length_append]
  omega

theorem length_flatMap_le_intercalate (h : ∀ a ∈ l, (f a).length ≤ (g a).length) :
    (l.flatMap f).length ≤ (List.intercalate [','] (l.map g)).length := by
  induction l with
  | nil => exact Nat.zero_le _
  | cons a l ih =>
    have hfirst := h a List.mem_cons_self
    have hrest := ih fun b hb => h b (List.mem_cons_of_mem _ hb)
    cases l with
    | nil => simpa using hfirst
    | cons b l =>
      rw [List.flatMap_cons, List.length_append, List.map_cons, List.map_cons,
        List.intercalate_cons_cons, List.length_append, List.length_append]
      rw [List.map_cons] at hrest
      omega

end Length

end BrowserLab.Json
