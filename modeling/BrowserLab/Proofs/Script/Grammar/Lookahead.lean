import BrowserLab.Proofs.Script.Grammar.Rules

/-!
# Looking ahead at spelt expressions

What can be seen of an expression from its tokens alone.

* `Expr.head_spell`: the token with which an expression begins.
* `Expr.balanced_spell`: its parentheses are balanced.
* `Expr.noArrow_spell`: so no arrow function begins where another expression does, however far the
  parser looks ahead.
-/

namespace BrowserLab.Script

open Parse

variable (bare : String → Bool)

/-! ### The first token -/

/-- The token is one with which an expression can begin. -/
def opens (k : Token.Kind) : Bool :=
  match k with
  | .number _ => true
  | .string _ => true
  | .word _ => true
  | .punct p => ["(", "[", "\x7b", "!", "-", "+", "++", "--"].contains p
  | _ => false

/-- The tokens begin as those of an expression of some rank do. -/
def Headed (rank : Nat) (ks : List Token.Kind) : Prop :=
  ∃ k, ks.head? = some k ∧ opens k = true ∧ (linkRank ≤ rank → BeginsOperand k)

namespace Headed

variable {rank : Nat} {ks : List Token.Kind}

/-- Of an expression that may begin with an operator, less is to be seen. -/
theorem low (h : ∃ k, ks.head? = some k ∧ opens k = true) (hrank : rank < linkRank) :
    Headed rank ks := by
  obtain ⟨k, hk, hopens⟩ := h
  exact ⟨k, hk, hopens, fun hlink => absurd hlink (Nat.not_le.mpr hrank)⟩

theorem append (h : Headed rank ks) (ks' : List Token.Kind) : Headed rank (ks ++ ks') := by
  obtain ⟨k, hk, hopens, hoperand⟩ := h
  exact ⟨k, by rw [List.head?_append, hk]; rfl, hopens, hoperand⟩

theorem fenced (rank : Nat) (ks : List Token.Kind) : Headed rank (fenced ks) :=
  ⟨_, rfl, rfl, fun _ => ⟨rfl, rfl, rfl⟩⟩

/-- The tokens at a place that demands a rank begin as those of an expression of that rank do. -/
theorem within {e : Expr} (h : ∀ callee, Headed e.rank (e.spell bare callee)) (level : Nat) :
    Headed level (e.within bare level) := by
  by_cases hlt : e.rank < level
  · rw [Expr.within_of_lt bare hlt]
    exact .fenced _ _
  · have hle := Nat.le_of_not_lt hlt
    rw [Expr.within_of_le bare hle]
    obtain ⟨k, hk, hopens, hoperand⟩ := h (decide (calleeRank ≤ level))
    exact ⟨k, hk, hopens, fun hlink => hoperand (Nat.le_trans hlink hle)⟩

/-- More is to be seen of an expression that holds together more tightly. -/
theorem of_rank {rank' : Nat} (h : Headed rank ks) (hr : linkRank ≤ rank' → linkRank ≤ rank) :
    Headed rank' ks := by
  obtain ⟨k, hk, hopens, hoperand⟩ := h
  exact ⟨k, hk, hopens, fun hlink => hoperand (hr hlink)⟩

end Headed

theorem beginsOperand_word {w : String} (h : unaryOp? (.word w) = none) (hw : w ≠ "await") :
    BeginsOperand (.word w) :=
  ⟨h, Token.Kind.isWord_eq_false (by simpa using hw), rfl⟩

theorem unaryOp?_of_name {name : String} (h : IsName name) : unaryOp? (.word name) = none := by
  unfold unaryOp?
  split <;> first
    | rfl
    | (next hw => cases hw; exact absurd h.free (by decide))
    | contradiction

/-- The only token of a single parameter. -/
theorem spellParams_single {param : Param} (h : param.IsName) :
    ∃ k, spellParams [param] = [k] ∧ opens k = true := by
  obtain ⟨⟨name⟩ | _ | _, _ | _, _ | _⟩ := param <;> first | exact absurd h id | exact ⟨_, rfl, rfl⟩

/-- An expression begins with a token with which one can begin; and with none that is an operator in
front of an operand, if it holds together more tightly than those do. -/
theorem Expr.head_spell {e : Expr} (h : e.Spellable) :
    ∀ callee, Headed e.rank (e.spell bare callee) := by
  induction h with
  | number x => exact fun _ => ⟨_, rfl, rfl, fun _ => ⟨rfl, rfl, rfl⟩⟩
  | string s => exact fun _ => ⟨_, rfl, rfl, fun _ => ⟨rfl, rfl, rfl⟩⟩
  | bool b => cases b <;> exact fun _ => ⟨_, rfl, rfl, fun _ => ⟨rfl, rfl, rfl⟩⟩
  | null => exact fun _ => ⟨_, rfl, rfl, fun _ => ⟨rfl, rfl, rfl⟩⟩
  | undefined => exact fun _ => ⟨_, rfl, rfl, fun _ => ⟨rfl, rfl, rfl⟩⟩
  | ident h =>
    refine fun _ => ⟨_, rfl, rfl, fun _ => beginsOperand_word (unaryOp?_of_name h) ?_⟩
    intro hw
    exact h.plain (by simp [hw])
  | array _ _ => exact fun _ => ⟨_, rfl, rfl, fun _ => ⟨rfl, rfl, rfl⟩⟩
  | object _ _ => exact fun _ => ⟨_, rfl, rfl, fun _ => ⟨rfl, rfl, rfl⟩⟩
  | @arrow params body async hp _ _ =>
    intro _
    refine Headed.low ?_ (by simp [rank])
    cases async with
    | true => exact ⟨_, rfl, rfl⟩
    | false =>
      obtain _ | ⟨param, _ | ⟨_, _⟩⟩ := params
      · exact ⟨_, rfl, rfl⟩
      · obtain ⟨k, hk, hopens⟩ := spellParams_single (hp param List.mem_cons_self)
        refine ⟨k, ?_, hopens⟩
        show (([] ++ spellParams [param]) ++ _ :: _).head? = _
        rw [hk]
        rfl
      · exact ⟨_, rfl, rfl⟩
  | member name optional _ ih =>
    intro callee
    rw [spell_member]
    exact ((Headed.within bare ih _).of_rank fun _ => by cases callee <;> decide).append _
  | @index object _ optional _ _ ih _ =>
    intro callee
    rw [spell_index]
    have hobject : Headed linkRank (object.within bare (if callee then calleeRank else linkRank)) :=
      (Headed.within bare ih _).of_rank fun _ => by cases callee <;> decide
    exact ((hobject.of_rank fun _ => Nat.le_refl _).append _).append _
  | call optional _ _ ih _ =>
    intro callee
    rw [spell_call]
    exact (((Headed.within bare ih linkRank).of_rank fun _ => Nat.le_refl _).append _).append _
  | construct _ _ _ _ => exact fun _ => ⟨_, rfl, rfl, fun _ => ⟨rfl, rfl, rfl⟩⟩
  | unary op _ _ => cases op <;> exact fun _ => .low ⟨_, rfl, rfl⟩ (by simp [rank])
  | await _ _ => exact fun _ => .low ⟨_, rfl, rfl⟩ (by simp [rank])
  | update increment before _ ih =>
    intro callee
    cases before with
    | true => cases increment <;> exact .low ⟨_, rfl, rfl⟩ (by simp [rank])
    | false =>
      rw [spell_update_behind]
      exact ((Headed.within bare ih linkRank).of_rank fun _ => Nat.le_refl _).append _
  | binary op _ _ ih _ =>
    intro callee
    rw [spell_binary]
    refine ((Headed.within bare ih op.leftRank).of_rank fun hlink => ?_).append _
    exact absurd (Nat.lt_of_le_of_lt hlink op.tightness_lt) (by decide)
  | logical op _ _ ih _ =>
    intro callee
    rw [spell_logical]
    exact ((Headed.within bare ih op.tightness).of_rank fun hlink => hlink).append _
  | conditional _ _ _ ih _ _ =>
    intro callee
    rw [spell_conditional]
    exact ((Headed.within bare ih 1).of_rank fun hlink => absurd hlink (by simp [rank])).append _
  | assign op _ _ _ ih _ =>
    intro callee
    rw [spell_assign]
    exact ((Headed.within bare ih linkRank).of_rank fun _ => Nat.le_refl _).append _

/-! ### Parentheses -/

/-- The parentheses among the tokens are balanced. -/
def Balanced (ks : List Token.Kind) : Prop :=
  ∀ (depth : Nat) (ts rest : List Token), Spelt ks ts rest →
    behindParentheses? (depth + 1) ts = behindParentheses? (depth + 1) rest

namespace Balanced

variable {ks ks' : List Token.Kind} {k : Token.Kind}

theorem nil : Balanced [] := by
  rintro depth ts rest rfl
  rfl

theorem cons (h : Balanced ks) (hopen : k.isPunct "(" = false) (hclose : k.isPunct ")" = false)
    (heof : k.isEof = false) : Balanced (k :: ks) := by
  rintro depth ts rest ⟨place, mid, rfl, -, hks⟩
  rw [behindParentheses?]
  simp only [hopen, hclose, heof, Bool.false_eq_true, if_false]
  exact h depth mid rest hks

/-- A mark that is no parenthesis. -/
theorem mark {p : String} (h : Balanced ks) (hopen : p ≠ "(") (hclose : p ≠ ")") :
    Balanced (.punct p :: ks) :=
  h.cons (Token.Kind.isPunct_eq_false (by simpa using hopen))
    (Token.Kind.isPunct_eq_false (by simpa using hclose)) rfl

theorem word {w : String} (h : Balanced ks) : Balanced (.word w :: ks) := h.cons rfl rfl rfl

theorem append (h : Balanced ks) (h' : Balanced ks') : Balanced (ks ++ ks') := by
  intro depth ts rest hts
  obtain ⟨mid, hks, hks'⟩ := spelt_append.mp hts
  rw [h depth ts mid hks, h' depth mid rest hks']

theorem fenced (h : Balanced ks) : Balanced (fenced ks) := by
  rintro depth ts rest ⟨place, mid, rfl, -, hks⟩
  obtain ⟨mid', hinner, place', rest', rfl, -, rfl⟩ := spelt_append.mp hks
  rw [behindParentheses?]
  simp only [Token.Kind.isPunct, beq_self_eq_true, if_true]
  rw [h (depth + 1) mid _ hinner, behindParentheses?]
  simp [Token.Kind.isPunct]

theorem separated {kss : List (List Token.Kind)} (h : ∀ ks ∈ kss, Balanced ks) :
    Balanced (separated kss) := by
  induction kss with
  | nil => exact nil
  | cons ks rest ih =>
    have hks := h ks List.mem_cons_self
    have hrest := ih fun ks hks => h ks (List.mem_cons_of_mem _ hks)
    cases rest with
    | nil => exact hks
    | cons ks' rest => exact hks.append (hrest.mark (by decide) (by decide))

theorem within {e : Expr} (h : ∀ callee, Balanced (e.spell bare callee)) (level : Nat) :
    Balanced (e.within bare level) := by
  unfold Expr.within
  split
  · exact (h false).fenced
  · exact h _

theorem element {item : Element} (h : ∀ callee, Balanced (item.expr.spell bare callee)) :
    Balanced (item.spell bare) := by
  cases item with
  | item e => exact h false
  | spread e => exact (h false).mark (by decide) (by decide)

theorem elements {items : List Element}
    (h : ∀ item ∈ items, ∀ callee, Balanced (item.expr.spell bare callee)) :
    Balanced (Script.separated (Element.spellAll bare items)) := by
  refine separated fun ks hks => ?_
  rw [Element.spellAll_eq, List.mem_map] at hks
  obtain ⟨item, hitem, rfl⟩ := hks
  exact element bare (h item hitem)

theorem properties {properties : List Property}
    (h : ∀ property ∈ properties, ∀ e ∈ property.exprs, ∀ callee, Balanced (e.spell bare callee)) :
    Balanced (Script.separated (Property.spellAll bare properties)) := by
  refine separated fun ks hks => ?_
  rw [Property.spellAll_eq, List.mem_map] at hks
  obtain ⟨property, hproperty, rfl⟩ := hks
  have he := h property hproperty
  cases property with
  | named key e =>
    have hvalue : Balanced (.punct ":" :: e.spell bare false) :=
      (he e (by simp [Property.exprs]) false).mark (by decide) (by decide)
    show Balanced (keyToken bare key :: _)
    unfold keyToken
    cases bare key with
    | true => exact hvalue.word
    | false => exact hvalue.cons rfl rfl rfl
  | computed key e =>
    have hvalue : Balanced (.punct "]" :: .punct ":" :: e.spell bare false) :=
      ((he e (by simp [Property.exprs]) false).mark (by decide) (by decide)).mark (by decide)
        (by decide)
    exact ((he key (by simp [Property.exprs]) false).append hvalue).mark (by decide) (by decide)
  | spread e => exact (he e (by simp [Property.exprs]) false).mark (by decide) (by decide)

theorem param {param : Param} (h : param.IsName) : Balanced [param.token] := by
  obtain ⟨k, hk, -⟩ := spellParams_single h
  obtain ⟨⟨name⟩ | _ | _, _ | _, _ | _⟩ := param <;> first | exact absurd h id | exact nil.word

theorem params {params : List Param} (h : ∀ param ∈ params, param.IsName) :
    Balanced (spellParams params) := by
  have hall : Balanced (Script.separated (params.map fun param => [param.token])) := by
    refine separated fun ks hks => ?_
    obtain ⟨param, hparam, rfl⟩ := List.mem_map.mp hks
    exact Balanced.param (h param hparam)
  unfold spellParams
  split
  · exact Balanced.param (h _ List.mem_cons_self)
  · exact hall.fenced

end Balanced

/-- The parentheses in an expression are balanced. -/
theorem Expr.balanced_spell {e : Expr} (h : e.Spellable) :
    ∀ callee, Balanced (e.spell bare callee) := by
  induction h with
  | number x => exact fun _ => Balanced.nil.cons rfl rfl rfl
  | string s => exact fun _ => Balanced.nil.cons rfl rfl rfl
  | bool b => exact fun _ => Balanced.nil.word
  | null => exact fun _ => Balanced.nil.word
  | undefined => exact fun _ => Balanced.nil.word
  | ident _ => exact fun _ => Balanced.nil.word
  | array _ ih =>
    intro _
    have hclose : Balanced [.punct "]"] := Balanced.nil.mark (by decide) (by decide)
    exact ((Balanced.elements bare ih).append hclose).mark (by decide) (by decide)
  | object _ ih =>
    intro _
    have hclose : Balanced [.punct "\x7d"] := Balanced.nil.mark (by decide) (by decide)
    exact ((Balanced.properties bare ih).append hclose).mark (by decide) (by decide)
  | @arrow params body async hp _ ih =>
    intro _
    have hbody : Balanced (Body.spell bare (.expr body)) := by
      rw [Body.spell]
      split
      · exact (ih false).fenced
      · exact ih false
    have hasync : Balanced (if async then [.word "async"] else []) := by
      cases async with
      | true => exact Balanced.nil.word
      | false => exact Balanced.nil
    exact (hasync.append (.params hp)).append (hbody.mark (by decide) (by decide))
  | member name optional _ ih =>
    intro callee
    rw [spell_member]
    refine (Balanced.within bare ih _).append ?_
    cases optional <;> exact Balanced.nil.word.mark (by decide) (by decide)
  | index optional _ _ ih ihkey =>
    intro callee
    have hclose : Balanced [.punct "]"] := Balanced.nil.mark (by decide) (by decide)
    have hoptional : Balanced (if optional then [.punct "?."] else []) := by
      cases optional with
      | true => exact Balanced.nil.mark (by decide) (by decide)
      | false => exact Balanced.nil
    rw [spell_index]
    exact ((Balanced.within bare ih _).append hoptional).append
      (((ihkey false).append hclose).mark (by decide) (by decide))
  | call optional _ _ ih ihargs =>
    intro callee
    have hoptional : Balanced (if optional then [.punct "?."] else []) := by
      cases optional with
      | true => exact Balanced.nil.mark (by decide) (by decide)
      | false => exact Balanced.nil
    rw [spell_call]
    exact ((Balanced.within bare ih _).append hoptional).append
      (Balanced.elements bare ihargs).fenced
  | construct _ _ ih ihargs =>
    intro callee
    rw [spell_construct]
    exact ((Balanced.within bare ih _).append (Balanced.elements bare ihargs).fenced).word
  | unary op _ ih =>
    intro callee
    rw [spell_unary]
    cases op <;> exact (Balanced.within bare ih _).cons rfl rfl rfl
  | await _ ih =>
    intro callee
    rw [spell_await]
    exact (Balanced.within bare ih _).word
  | update increment before _ ih =>
    intro callee
    cases before with
    | true =>
      rw [spell_update_before]
      cases increment <;> exact (Balanced.within bare ih _).cons rfl rfl rfl
    | false =>
      rw [spell_update_behind]
      cases increment <;> exact (Balanced.within bare ih _).append (Balanced.nil.cons rfl rfl rfl)
  | binary op _ _ ihl ihr =>
    intro callee
    rw [spell_binary]
    refine (Balanced.within bare ihl _).append ?_
    cases op <;> exact (Balanced.within bare ihr _).cons rfl rfl rfl
  | logical op _ _ ihl ihr =>
    intro callee
    rw [spell_logical]
    refine (Balanced.within bare ihl _).append ?_
    cases op <;> exact (Balanced.within bare ihr _).cons rfl rfl rfl
  | conditional _ _ _ iht ihy ihn =>
    intro callee
    rw [spell_conditional]
    have hno := (ihn false).mark (p := ":") (by decide) (by decide)
    exact (Balanced.within bare iht _).append
      (((ihy false).append hno).mark (by decide) (by decide))
  | assign op _ _ _ iht ihv =>
    intro callee
    rw [spell_assign]
    refine (Balanced.within bare iht _).append ?_
    cases op <;> exact (ihv false).cons rfl rfl rfl

/-! ### Arrow functions -/

/-- No arrow begins here, and no arrow function. -/
structure Calm (ts : List Token) : Prop where
  head : (kindAt ts 0).isPunct "=>" = false
  noArrow : arrowBegins ts = false

variable {ts rest : List Token} {place : Place}

theorem calm_mark {p : String} (h : p ≠ "=>") (hp : p ≠ "(") :
    Calm (⟨.punct p, place, false⟩ :: ts) := by
  refine ⟨Token.Kind.isPunct_eq_false (by simpa using h), ?_⟩
  have : (p == "(") = false := by simpa using hp
  simp [arrowBegins, this]

theorem calm_reserved {w : String} (h : isReserved w = true) :
    Calm (⟨.word w, place, false⟩ :: ts) := by
  refine ⟨rfl, ?_⟩
  simp [arrowBegins, h]

theorem calm_of_closes (h : closes (kindAt ts 0) = true) : Calm ts := by
  cases ts with
  | nil => exact ⟨rfl, rfl⟩
  | cons t ts =>
    obtain ⟨k, place, newline⟩ := t
    rw [kindAt_cons_zero] at h
    cases k with
    | punct p =>
      simp only [closes, List.contains_eq_mem, decide_eq_true_eq] at h
      have hopen : (p == "(") = false := by
        rw [beq_eq_false_iff_ne]
        rintro rfl
        exact absurd h (by decide)
      refine ⟨Token.Kind.isPunct_eq_false ?_, ?_⟩
      · rintro ⟨⟩
        exact absurd h (by decide)
      · simp [arrowBegins, hopen]
    | eof => exact ⟨rfl, rfl⟩
    | _ => cases h

/-- What is behind tokens in parentheses is found. -/
theorem behindParentheses?_fenced {ks : List Token.Kind} (hks : Balanced ks)
    (h : Spelt (fenced ks) ts rest) : behindParentheses? 0 ts = rest.head? := by
  obtain ⟨place, mid, rfl, -, h⟩ := h
  obtain ⟨mid', hinner, place', rest', rfl, -, rfl⟩ := spelt_append.mp h
  rw [behindParentheses?]
  simp only [Token.Kind.isPunct, beq_self_eq_true, if_true]
  rw [hks 0 mid _ hinner, behindParentheses?]
  simp [Token.Kind.isPunct]

/-- Tokens in parentheses are not the parameters of an arrow function, if no arrow is behind
them. -/
theorem calm_fenced {ks : List Token.Kind} (hks : Balanced ks) (h : Spelt (fenced ks) ts rest)
    (hrest : (kindAt rest 0).isPunct "=>" = false) : Calm ts := by
  have hbehind := behindParentheses?_fenced hks h
  obtain ⟨place, mid, rfl, -, -⟩ := h
  refine ⟨rfl, ?_⟩
  rw [arrowBegins]
  simp only [kindAt_cons_zero, hbehind]
  cases rest with
  | nil => rfl
  | cons t rest =>
    have hhead : t.kind.isPunct "=>" = false := hrest
    simp [hhead]

theorem noArrow_of_calm (h : Calm ts) (hasync : (kindAt ts 0).isWord "async" = false) :
    NoArrow ts :=
  ⟨by simp [asyncArrowBegins, hasync], h.noArrow⟩

theorem noArrow_mark {p : String} (hp : p ≠ "=>") (hopen : p ≠ "(") :
    NoArrow (⟨.punct p, place, false⟩ :: ts) :=
  noArrow_of_calm (calm_mark hp hopen) rfl

theorem noArrow_word (w : String) (h : Calm ts) : NoArrow (⟨.word w, place, false⟩ :: ts) :=
  ⟨by simp [asyncArrowBegins, h.noArrow], by simp [arrowBegins, h.head]⟩

/-- Where the tokens are, no arrow function begins. -/
def Arrowless (ks : List Token.Kind) : Prop :=
  ∀ ts rest, Spelt ks ts rest → Calm rest → NoArrow ts

namespace Arrowless

variable {ks ks' : List Token.Kind}

theorem mark {p : String} (hp : p ≠ "=>") (hopen : p ≠ "(") : Arrowless (.punct p :: ks) := by
  rintro ts rest ⟨place, mid, rfl, -, -⟩ -
  exact noArrow_mark hp hopen

theorem append (h : Arrowless ks)
    (h' : ∀ ts rest, Spelt ks' ts rest → Calm rest → Calm ts) : Arrowless (ks ++ ks') := by
  intro ts rest hts hrest
  obtain ⟨mid, hks, hks'⟩ := spelt_append.mp hts
  exact h ts mid hks (h' mid rest hks' hrest)

theorem fenced (h : Balanced ks) : Arrowless (fenced ks) := by
  intro ts rest hts hrest
  refine noArrow_of_calm (calm_fenced h hts hrest.head) ?_
  rw [hts.kindAt_zero]
  rfl

/-- A word in front of an operand. -/
theorem word (w : String) {level : Nat} (hhead : Headed level ks) (h : Arrowless ks) :
    Arrowless (.word w :: ks) := by
  rintro ts rest ⟨place, mid, rfl, -, hks⟩ hrest
  refine noArrow_word w ⟨?_, (h mid rest hks hrest).2⟩
  obtain ⟨k, hk, hopens, -⟩ := hhead
  obtain ⟨k', ks', rfl⟩ : ∃ k' ks', ks = k' :: ks' := by
    cases ks with
    | nil => cases hk
    | cons k' ks' => exact ⟨k', ks', rfl⟩
  cases hk
  rw [hks.kindAt_zero]
  exact Token.Kind.isPunct_of_test hopens rfl

/-- An arrow function needs parentheses wherever some rank is demanded. -/
theorem within {e : Expr} (hs : e.Spellable) {level : Nat} (hlevel : 1 ≤ level)
    (h : (∀ f, e ≠ .function f) → ∀ callee, Arrowless (e.spell bare callee)) :
    Arrowless (e.within bare level) := by
  by_cases hlt : e.rank < level
  · rw [Expr.within_of_lt bare hlt]
    exact .fenced (Expr.balanced_spell bare hs false)
  · rw [Expr.within_of_le bare (Nat.le_of_not_lt hlt)]
    refine h (fun f hf => ?_) _
    rw [hf] at hlt
    exact hlt hlevel

end Arrowless

/-- The operator behind an operand ends what may look like an arrow function. -/
theorem calm_binary (op : BinaryOp) : Calm (⟨op.token, place, false⟩ :: ts) := by
  cases op <;> first
    | exact calm_mark (by decide) (by decide)
    | exact calm_reserved (by decide)

/-- No arrow function begins where another expression does. -/
theorem Expr.noArrow_spell {e : Expr} (h : e.Spellable) (he : ∀ f, e ≠ .function f) :
    ∀ callee, Arrowless (e.spell bare callee) := by
  have hword {e : Expr} (hs : e.Spellable) {level : Nat} (hlevel : 1 ≤ level) (w : String)
      (ih : (∀ f, e ≠ .function f) → ∀ callee, Arrowless (e.spell bare callee)) :
      Arrowless (.word w :: e.within bare level) :=
    .word w (Headed.within bare (head_spell bare hs) level) (.within bare hs hlevel ih)
  have hname (w : String) : Arrowless [.word w] := by
    rintro ts rest ⟨place, mid, rfl, -, rfl⟩ hrest
    exact noArrow_word w hrest
  induction h with
  | number x =>
    rintro callee ts rest ⟨place, mid, rfl, -, -⟩ -
    exact ⟨rfl, rfl⟩
  | string s =>
    rintro callee ts rest ⟨place, mid, rfl, -, -⟩ -
    exact ⟨rfl, rfl⟩
  | bool b => exact fun _ => hname _
  | null => exact fun _ => hname _
  | undefined => exact fun _ => hname _
  | ident _ => exact fun _ => hname _
  | array _ _ => exact fun _ => .mark (by decide) (by decide)
  | object _ _ => exact fun _ => .mark (by decide) (by decide)
  | arrow _ _ _ => exact absurd rfl (he _)
  | member name optional ho ih =>
    intro callee
    rw [spell_member]
    refine (Arrowless.within bare ho (by cases callee <;> decide) ih).append ?_
    rintro ts rest ⟨place, mid, rfl, -, -⟩ -
    cases optional <;> exact calm_mark (by decide) (by decide)
  | index optional ho _ ih _ =>
    intro callee
    rw [spell_index, List.append_assoc]
    refine (Arrowless.within bare ho (by cases callee <;> decide) ih).append ?_
    intro ts rest hts _
    cases optional with
    | true =>
      obtain ⟨place, mid, rfl, -, -⟩ := hts
      exact calm_mark (by decide) (by decide)
    | false =>
      obtain ⟨place, mid, rfl, -, -⟩ := hts
      exact calm_mark (by decide) (by decide)
  | @call f args optional hf ha ih _ =>
    intro callee
    have hargs : Balanced (separated (Element.spellAll bare args)) :=
      Balanced.elements bare fun arg harg => balanced_spell bare (ha arg harg)
    rw [spell_call, List.append_assoc]
    refine (Arrowless.within bare hf (by decide) ih).append ?_
    intro ts rest hts hrest
    cases optional with
    | true =>
      obtain ⟨place, mid, rfl, -, -⟩ := hts
      exact calm_mark (by decide) (by decide)
    | false => exact calm_fenced hargs hts hrest.head
  | @construct f args hf ha ih _ =>
    intro callee
    have hargs : Balanced (separated (Element.spellAll bare args)) :=
      Balanced.elements bare fun arg harg => balanced_spell bare (ha arg harg)
    rw [spell_construct, ← List.cons_append]
    exact (hword hf (by decide) "new" ih).append fun ts rest hts hrest =>
      calm_fenced hargs hts hrest.head
  | unary op h ih =>
    intro callee
    rw [spell_unary]
    cases op <;> first
      | exact .mark (by decide) (by decide)
      | exact hword h (by decide) _ ih
  | await h ih => exact fun _ => hword h (by decide) _ ih
  | update increment before h ih =>
    intro callee
    cases before with
    | true => cases increment <;> exact .mark (by decide) (by decide)
    | false =>
      rw [spell_update_behind]
      refine (Arrowless.within bare h (by decide) ih).append ?_
      rintro ts rest ⟨place, mid, rfl, -, -⟩ -
      cases increment <;> exact calm_mark (by decide) (by decide)
  | binary op hl _ ih _ =>
    intro callee
    rw [spell_binary]
    refine (Arrowless.within bare hl (by cases op <;> decide) ih).append ?_
    rintro ts rest ⟨place, mid, rfl, -, -⟩ -
    exact calm_binary op
  | logical op hl _ ih _ =>
    intro callee
    rw [spell_logical]
    refine (Arrowless.within bare hl (by cases op <;> decide) ih).append ?_
    rintro ts rest ⟨place, mid, rfl, -, -⟩ -
    cases op <;> exact calm_mark (by decide) (by decide)
  | conditional ht _ _ ih _ _ =>
    intro callee
    rw [spell_conditional]
    refine (Arrowless.within bare ht (by decide) ih).append ?_
    rintro ts rest ⟨place, mid, rfl, -, -⟩ -
    exact calm_mark (by decide) (by decide)
  | assign op _ ht _ ih _ =>
    intro callee
    rw [spell_assign]
    refine (Arrowless.within bare ht (by decide) ih).append ?_
    rintro ts rest ⟨place, mid, rfl, -, -⟩ -
    cases op <;> exact calm_mark (by decide) (by decide)

end BrowserLab.Script
