import BrowserLab.Proofs.Json.Sorted
import BrowserLab.Proofs.Json.Text
import BrowserLab.Proofs.Script.Grammar.Spell
import BrowserLab.Proofs.Script.Token.Cut
import BrowserLab.Proofs.Text.Words

/-!
# JSON text as a literal

`Json.literal` is the expression that stands for a value, and the compact text of the value is cut
into the tokens of that expression (`cuts_compact`).  Keys are string tokens, and a negative integer
is a minus and a number.
-/

namespace BrowserLab

open Script

namespace Json

/-- The literal of an integer: a negative one is a negated number. -/
def intLiteral (i : Int) : Expr :=
  if i < 0 then .unary .neg (.number (Number.nearest i.natAbs 0))
  else .number (Number.nearest i.natAbs 0)

mutual

/-- The expression that stands for a value. -/
def literal (j : Json) : Expr :=
  match j with
  | .null => .null
  | .bool b => .bool b
  | .int i => intLiteral i
  | .real x => .number x
  | .str s => .string s
  | .arr items => .array (literalItems items)
  | .obj members => .object (literalMembers members)

def literalItems (items : List Json) : List Element :=
  match items with
  | [] => []
  | j :: rest => .item (literal j) :: literalItems rest

def literalMembers (members : List (String × Json)) : List Property :=
  match members with
  | [] => []
  | (k, j) :: rest => .named k (literal j) :: literalMembers rest

end

theorem literalItems_eq (items : List Json) :
    literalItems items = items.map fun j => .item (literal j) := by
  induction items with
  | nil => rfl
  | cons j rest ih => rw [literalItems, ih, List.map_cons]

theorem literalMembers_eq (members : List (String × Json)) :
    literalMembers members = members.map fun (k, j) => .named k (literal j) := by
  induction members with
  | nil => rfl
  | cons entry rest ih => rw [literalMembers, ih, List.map_cons]

theorem spellable_intLiteral (i : Int) : (intLiteral i).Spellable := by
  unfold intLiteral
  split_ifs
  · exact .unary .neg (.number _)
  · exact .number _

theorem spellable_literal (j : Json) : (literal j).Spellable := by
  induction j using induction with
  | null => exact .null
  | bool b => exact .bool b
  | int i => exact spellable_intLiteral i
  | real x => exact .number x
  | str s => exact .string s
  | arr items ih =>
    refine .array fun item hitem => ?_
    rw [literalItems_eq] at hitem
    obtain ⟨j, hj, rfl⟩ := List.mem_map.mp hitem
    exact ih j hj
  | obj members ih =>
    refine .object fun property hproperty e he => ?_
    rw [literalMembers_eq] at hproperty
    obtain ⟨entry, hentry, rfl⟩ := List.mem_map.mp hproperty
    rw [List.mem_singleton.mp he]
    exact ih entry hentry

end Json

/-! ### The tokens of the text -/

namespace Script

open Scan Json

theorem endsNumber_separator {d : Char} {rest : List Char} (hd : d ∈ [',', ']', '\x7d', ')']) :
    EndsNumber (d :: rest) := by
  simp only [List.mem_cons, List.not_mem_nil, or_false] at hd
  rcases hd with rfl | rfl | rfl | rfl
  all_goals exact endsNumber_cons (by decide) (by decide)

/-- Texts with commas between them. -/
theorem Cuts.separated {pairs : List (List Char × List Token.Kind)} {rest : List Char}
    (h : ∀ pair ∈ pairs, ∀ rest, EndsNumber rest → Cuts pair.1 pair.2 rest)
    (hrest : EndsNumber rest) :
    Cuts (List.intercalate [','] (pairs.map (·.1))) (separated (pairs.map (·.2))) rest := by
  induction pairs with
  | nil => exact .nil rest
  | cons pair pairs ih =>
    have hpair := h pair List.mem_cons_self
    cases pairs with
    | nil =>
      rw [List.map_singleton, List.map_singleton, List.intercalate_singleton]
      exact hpair rest hrest
    | cons pair' pairs =>
      have hpairs := ih fun p hp => h p (List.mem_cons_of_mem _ hp)
      rw [List.map_cons, List.map_cons, List.intercalate_cons_cons, List.append_assoc]
      refine (hpair _ ?_).append ?_
      · rw [List.append_assoc]
        exact endsNumber_separator List.mem_cons_self
      · exact Cuts.append (Cuts.mark (by decide)) hpairs

/-- The tokens of the literal of a value: keys are strings. -/
def literalTokens (j : Json) : List Token.Kind := (literal j).spell (fun _ => false) false

theorem literalTokens_arr (items : List Json) : literalTokens (.arr items) =
    .punct "[" :: (separated (items.map literalTokens) ++ [.punct "]"]) := by
  simp only [literalTokens, literal, literalItems_eq, Expr.spell, Element.spellAll_eq,
    List.map_map]
  rfl

/-- The tokens of a member. -/
def memberTokens (entry : String × Json) : List Token.Kind :=
  .string entry.1 :: .punct ":" :: literalTokens entry.2

theorem literalTokens_obj (members : List (String × Json)) : literalTokens (.obj members) =
    .punct "\x7b" :: (separated (members.map memberTokens) ++ [.punct "\x7d"]) := by
  simp only [literalTokens, literal, literalMembers_eq, Expr.spell, Property.spellAll_eq,
    List.map_map]
  rfl

theorem cuts_intText (i : Int) {rest : List Char} (hrest : EndsNumber rest) :
    Cuts (Number.intText i).toList (literalTokens (.int i)) rest := by
  have hnumber := Cuts.number i.natAbs hrest
  unfold Number.intText literalTokens literal intLiteral
  split_ifs with hi
  · rw [String.toList_append, String.toList_ofList (l := Number.digitChars i.natAbs)]
    suffices hminus : Cuts ['-'] [.punct "-"] (Number.digitChars i.natAbs ++ rest) from
      hminus.append hnumber
    have hne : Number.digitChars i.natAbs ≠ [] := Nat.toDigits_ne_nil
    have hdigits : ∀ c ∈ Number.digitChars i.natAbs, c.isDigit = true :=
      fun c => isDigit_of_mem_digitChars
    generalize Number.digitChars i.natAbs = digits at hne hdigits ⊢
    cases digits with
    | nil => exact absurd rfl hne
    | cons d ds => exact Cuts.minus (hdigits d List.mem_cons_self)
  · rw [String.toList_ofList]
    exact hnumber

theorem Cuts.memberText {entry : String × Json} {rest : List Char}
    (h : Cuts (compact entry.2).toList (literalTokens entry.2) rest) :
    Cuts (memberText entry) (memberTokens entry) rest := by
  have hkey := Cuts.string entry.1.toList (':' :: (compact entry.2).toList ++ rest)
  rw [String.ofList_toList] at hkey
  exact hkey.append ((Cuts.mark (by decide)).append h)

/-- The text of a value is cut into the tokens of its literal. -/
theorem cuts_compact {j : Json} (hj : Whole j) :
    ∀ rest, EndsNumber rest → Cuts (compact j).toList (literalTokens j) rest := by
  induction hj with
  | null =>
    intro rest hrest
    exact Cuts.word (by decide) fun c hc => (hrest c hc).1
  | bool b =>
    intro rest hrest
    cases b <;> exact Cuts.word (by decide) fun c hc => (hrest c hc).1
  | int h =>
    intro rest hrest
    exact cuts_intText _ hrest
  | str s =>
    intro rest _
    have hs := Cuts.string s.toList rest
    rw [String.ofList_toList, ← String.toList_ofList (l := quoteChars s.toList)] at hs
    exact hs
  | @arr items _ ih =>
    intro rest _
    have hends : EndsNumber (']' :: rest) := endsNumber_separator (by decide)
    have hitem : ∀ pair ∈ items.map fun j => ((compact j).toList, literalTokens j),
        ∀ rest, EndsNumber rest → Cuts pair.1 pair.2 rest := List.forall_mem_map.mpr ih
    have hitems := Cuts.separated hitem hends
    rw [List.map_map, List.map_map] at hitems
    rw [literalTokens_arr, toList_compact_arr]
    exact Cuts.between (by decide) (by decide) hitems
  | @obj members _ ih =>
    intro rest _
    have hends : EndsNumber ('\x7d' :: rest) := endsNumber_separator (by decide)
    have hmember : ∀ pair ∈ members.map fun entry => (memberText entry, memberTokens entry),
        ∀ rest, EndsNumber rest → Cuts pair.1 pair.2 rest :=
      List.forall_mem_map.mpr fun entry hentry rest hrest => (ih entry hentry rest hrest).memberText
    have hmembers := Cuts.separated hmember hends
    rw [List.map_map, List.map_map] at hmembers
    rw [literalTokens_obj, toList_compact_obj]
    exact Cuts.between (by decide) (by decide) hmembers

/-! ### Lines -/

theorem not_mem_intercalate {c : Char} {texts : List (List Char)} (hc : c ≠ ',')
    (h : ∀ text ∈ texts, c ∉ text) : c ∉ List.intercalate [','] texts := by
  intro hmem
  rcases Text.mem_of_mem_listIntercalate hmem with hcomma | ⟨text, htext, hmem⟩
  · exact hc (List.mem_singleton.mp hcomma)
  · exact h text htext hmem

theorem newline_not_mem_escapeChar (c : Char) : '\n' ∉ escapeChar c := by
  have hdigit : ∀ n < 32, '\n' ≠ hexDigit (n / 16) ∧ '\n' ≠ hexDigit (n % 16) := by decide
  unfold escapeChar
  split_ifs with _ _ hline _ _ _ _ hcontrol
  · decide
  · decide
  · decide
  · decide
  · decide
  · decide
  · decide
  · obtain ⟨hfirst, hsecond⟩ := hdigit c.toNat hcontrol
    simp [hfirst, hsecond]
  · simpa using Ne.symm hline

theorem newline_not_mem_quoteChars (cs : List Char) : '\n' ∉ quoteChars cs := by
  simp [quoteChars, newline_not_mem_escapeChar]

theorem newline_not_mem_intText (i : Int) : '\n' ∉ (Number.intText i).toList := by
  have hdigits : '\n' ∉ Number.digitChars i.natAbs := by
    intro h
    cases isDigit_of_mem_digitChars h
  unfold Number.intText
  split_ifs with hi
  · simpa using hdigits
  · simpa using hdigits

/-- The text of a value is one line. -/
theorem newline_not_mem_compact {j : Json} (hj : Whole j) : '\n' ∉ (compact j).toList := by
  induction hj with
  | null => decide
  | bool b => cases b <;> decide
  | int h => exact newline_not_mem_intText _
  | str s =>
    have hs := newline_not_mem_quoteChars s.toList
    simpa [compact, scalar, quote] using hs
  | @arr items _ ih =>
    rw [toList_compact_arr]
    have hitems := not_mem_intercalate (c := '\n') (by decide) (List.forall_mem_map.mpr ih)
    simpa using hitems
  | @obj members _ ih =>
    rw [toList_compact_obj]
    have hmember : ∀ text ∈ members.map memberText, '\n' ∉ text := by
      refine List.forall_mem_map.mpr fun entry hentry => ?_
      have hkey := newline_not_mem_quoteChars entry.1.toList
      simpa [memberText, hkey] using ih entry hentry
    simpa using not_mem_intercalate (by decide) hmember

end Script

end BrowserLab
