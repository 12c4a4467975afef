import BrowserLab.Proofs.Script.Token.Cover
import BrowserLab.Proofs.Script.Token.Stops
import BrowserLab.Script.Parser

/-!
# Where the rules of the grammar fail

A rule takes tokens off the beginning of its stream, so what it leaves is an end of the stream.
When it fails, it does so at one of these tokens, or in the source of a hole that one of them has;
and the source of a hole is a piece of the text, cut into tokens that stand in it.

* `Lands`: on tokens that stand in a text, a rule leaves an end of them or fails in the text.
* `Rule`: the rules that call each other, as data.
* `lands`: all of them do so, by induction on the fuel, with one lemma for each rule.
* `stands_of_parse`: the error of a text that is not a script stands in it.
-/

namespace BrowserLab.Script

/-! ### Texts -/

/-- The place is one in the text, or the one at its end. -/
def Stands (text : List Char) (place : Place) : Prop := (Cursor.start text).Meets place

/-- The source is the piece of the text that begins at the place. -/
def PieceAt (text : List Char) (place : Place) (source : String) : Prop :=
  ∃ before after, text = before ++ source.toList ++ after ∧ place = Place.start.behind before

/-- The token stands in the text, and so do its holes. -/
structure Anchored (text : List Char) (t : Token) : Prop where
  place : Stands text t.place
  holes : ∀ source hole, .hole source hole ∈ t.kind.chunks → PieceAt text hole source

variable {text : List Char} {place : Place} {source : String}

theorem stands_start (text : List Char) : Stands text .start := Cursor.meets_here _

/-- What stands in a piece of a text stands in the text. -/
theorem PieceAt.stands (h : PieceAt text place source) {p : Place}
    (hp : (Cursor.mk source.toList place).Meets p) : Stands text p := by
  obtain ⟨before, after, rfl, rfl⟩ := h
  obtain ⟨piece, rest, hsource, rfl⟩ := hp
  refine ⟨before ++ piece, rest ++ after, ?_, ?_⟩
  · show before ++ source.toList ++ after = _
    have hsource : source.toList = piece ++ rest := hsource
    rw [hsource]
    simp
  · exact (Place.behind_append _ before piece).symm

/-- The tokens of a piece of a text stand in the text. -/
theorem Covers.anchored {before piece after : List Char} {ts : List Token}
    (h : Covers .start before piece ts) (htext : text = before ++ piece ++ after) :
    ∀ t ∈ ts, Anchored text t := by
  intro t ht
  refine ⟨?_, fun source hole hmem => ?_⟩
  · induction h with
    | @eof before trivia u _ place _ _ =>
      obtain rfl := List.mem_singleton.mp ht
      exact ⟨before ++ trivia, after, htext, place⟩
    | @token before trivia spelt rest u ts _ place _ _ _ _ _ ih =>
      rcases List.mem_cons.mp ht with rfl | ht
      · refine ⟨before ++ trivia, spelt ++ rest ++ after, ?_, place⟩
        show text = _
        rw [htext]
        simp
      · refine ih ?_ ht
        rw [htext]
        simp
  · obtain ⟨s, s', hpiece, rfl⟩ := h.hole ht hmem
    refine ⟨before ++ s, s' ++ after, ?_, rfl⟩
    rw [htext, hpiece]
    simp

theorem PieceAt.anchored (h : PieceAt text place source) {ts : List Token}
    (hts : tokenizeAt place source = .ok ts) : ∀ t ∈ ts, Anchored text t := by
  obtain ⟨before, after, htext, hplace⟩ := h
  exact (covers_tokenizeAt hts hplace).anchored htext

theorem PieceAt.stands_error (h : PieceAt text place source) {e : SyntaxError}
    (he : tokenizeAt place source = .error e) : Stands text e.place :=
  h.stands (Scan.meets_tokens he)

namespace Parse

/-! ### Rules that land -/

/-- On tokens that stand in a text, the rule leaves an end of them, or fails in the text. -/
def Lands {α : Type} (text : List Char) (x : Parse α) : Prop :=
  ∀ ts, (∀ t ∈ ts, Anchored text t) →
    match x ts with
    | .ok (_, rest) => rest <:+ ts
    | .error e => Stands text e.place

namespace Lands

variable {α β : Type} {x : Parse α} {f : α → Parse β}

theorem pure (a : α) : Lands text (Pure.pure a : Parse α) := fun ts _ => List.suffix_refl ts

theorem bind (hx : Lands text x) (hf : ∀ a, Lands text (f a)) : Lands text (x >>= f) := by
  intro ts hts
  have hx := hx ts hts
  show match Except.bind (x ts) (fun r => f r.1 r.2) with
    | .ok (_, rest) => rest <:+ ts
    | .error e => Stands text e.place
  cases h : x ts with
  | error e =>
    rw [h] at hx
    exact hx
  | ok r =>
    obtain ⟨a, rest⟩ := r
    rw [h] at hx
    have hf := hf a rest fun t ht => hts t (hx.subset ht)
    show match f a rest with
      | .ok (_, rest) => rest <:+ ts
      | .error e => Stands text e.place
    cases h' : f a rest with
    | error e =>
      rw [h'] at hf
      exact hf
    | ok r' =>
      rw [h'] at hf
      exact hf.trans hx

theorem map (hx : Lands text x) (g : α → β) : Lands text (g <$> x) := by
  have hmap : g <$> x = x >>= fun a => Pure.pure (g a) := rfl
  rw [hmap]
  exact hx.bind fun _ => .pure _

theorem ite {c : Prop} [Decidable c] {y : Parse α} (hx : Lands text x) (hy : Lands text y) :
    Lands text (if c then x else y) := by
  split
  · exact hx
  · exact hy

/-- Two ways to a value with which the rule goes on. -/
theorem choice {c : Prop} [Decidable c] {y : Parse α} (hx : Lands text x) (hy : Lands text y)
    (hf : ∀ a, Lands text (f a)) : Lands text (if c then x >>= f else y >>= f) :=
  .ite (hx.bind hf) (hy.bind hf)

/-- A rule that perhaps goes on behind another one. -/
theorem first {c : Prop} [Decidable c] {y : Parse β} (hx : Lands text x) (hy : Lands text y) :
    Lands text (if c then x >>= fun _ => y else y) :=
  .ite (hx.bind fun _ => hy) hy

/-- A rule that looks at its stream first. -/
theorem get {f : List Token → Parse β}
    (hf : ∀ ts, (∀ t ∈ ts, Anchored text t) → Lands text (f ts)) :
    Lands text (MonadState.get >>= f) := fun ts hts => hf ts hts ts hts

end Lands

/-! ### One token -/

theorem lands_peek : Lands text peek := fun ts _ => List.suffix_refl ts

theorem lands_kind : Lands text kind := fun ts _ => List.suffix_refl ts

theorem lands_advance : Lands text advance := by
  intro ts _
  match ts with
  | [] => exact List.suffix_refl _
  | [t] => exact List.suffix_refl _
  | _ :: t :: rest => exact List.suffix_cons _ _

/-- The next token stands in the text. -/
theorem stands_headD {ts : List Token} (hts : ∀ t ∈ ts, Anchored text t) :
    Stands text (ts.headD ⟨.eof, .start, false⟩).place := by
  cases ts with
  | nil => exact stands_start text
  | cons t ts => exact (hts t List.mem_cons_self).place

theorem lands_fail {α : Type} (cause : SyntaxCause) : Lands text (fail cause : Parse α) :=
  fun _ hts => stands_headD hts

theorem lands_unexpected {α : Type} : Lands text (unexpected : Parse α) :=
  fun _ hts => stands_headD hts

theorem lands_isPunct (p : String) : Lands text (isPunct p) := lands_kind.bind fun _ => .pure _

theorem lands_eatPunct (p : String) : Lands text (eatPunct p) := by
  refine (lands_isPunct p).bind fun found => .ite ?_ (.pure _)
  exact lands_advance.bind fun _ => .pure _

theorem lands_eatWord (w : String) : Lands text (eatWord w) := by
  refine lands_kind.bind fun k => .ite ?_ (.pure _)
  exact lands_advance.bind fun _ => .pure _

theorem lands_expectPunct (p : String) : Lands text (expectPunct p) := by
  refine (lands_eatPunct p).bind fun found => .ite (.pure _) ?_
  exact lands_kind.bind fun _ => lands_fail _

theorem lands_identifier : Lands text identifier := by
  refine lands_kind.bind fun k => ?_
  split
  · exact .ite lands_unexpected (lands_advance.bind fun _ => .pure _)
  · exact lands_unexpected

theorem lands_propertyName : Lands text propertyName := by
  refine lands_kind.bind fun k => ?_
  split
  · exact lands_advance.bind fun _ => .pure _
  · exact lands_unexpected

theorem lands_semicolon : Lands text semicolon :=
  lands_peek.bind fun _ => .ite lands_advance (.ite (.pure _) lands_unexpected)

theorem lands_declarationKind? : Lands text declarationKind? := by
  refine lands_kind.bind fun k => ?_
  split
  case h_4 => exact .pure _
  all_goals exact lands_advance.bind fun _ => .pure _

/-! ### Repetition -/

theorem lands_items {α : Type} {item : Parse α} (close : String) (h : Lands text item)
    (fuel : Nat) (done : List α) : Lands text (items close item fuel done) := by
  induction fuel generalizing done with
  | zero => exact lands_fail _
  | succ fuel ih =>
    refine (lands_eatPunct close).bind fun _ => .ite (.pure _) ?_
    refine h.bind fun a => (lands_eatPunct ",").bind fun _ => .ite (ih _) ?_
    exact (lands_expectPunct close).bind fun _ => .pure _

theorem lands_itemsWithHoles {α : Type} {item : Parse α} (close : String) (hole : α)
    (h : Lands text item) (fuel : Nat) (done : List α) :
    Lands text (itemsWithHoles close hole item fuel done) := by
  induction fuel generalizing done with
  | zero => exact lands_fail _
  | succ fuel ih =>
    refine (lands_eatPunct close).bind fun _ => .ite (.pure _) ?_
    refine (lands_eatPunct ",").bind fun _ => .ite (ih _) ?_
    refine h.bind fun a => (lands_eatPunct ",").bind fun _ => .ite (ih _) ?_
    exact (lands_expectPunct close).bind fun _ => .pure _

theorem lands_sequence {α : Type} {item : Parse α} (h : Lands text item) (fuel : Nat)
    (done : List α) : Lands text (sequence item fuel done) := by
  induction fuel generalizing done with
  | zero => exact lands_fail _
  | succ fuel ih =>
    exact h.bind fun a => (lands_eatPunct ",").bind fun _ => .ite (ih _) (.pure _)

theorem lands_skipImport (fuel : Nat) : Lands text (skipImport fuel) := by
  induction fuel with
  | zero => exact .pure _
  | succ fuel ih =>
    refine lands_peek.bind fun t => .ite (.pure _) (.ite lands_advance ?_)
    exact lands_advance.bind fun _ => ih

/-! ### Holes -/

/-- The expression in a hole is read on tokens of its own, which stand in the text too. -/
theorem lands_hole {expression : Parse Expr} (h : Lands text expression)
    (hpiece : PieceAt text place source) : Lands text (hole expression source place) := by
  intro outer _
  unfold hole
  cases htokens : tokenizeAt place source with
  | error e => exact hpiece.stands_error htokens
  | ok ts =>
    have hts := hpiece.anchored htokens
    have hlands := h ts hts
    dsimp only
    cases hread : expression ts with
    | error e =>
      rw [hread] at hlands
      exact hlands
    | ok r =>
      obtain ⟨e, rest⟩ := r
      rw [hread] at hlands
      dsimp only
      by_cases hend : (kindAt rest 0).isEof = true
      · rw [if_pos hend]
      · rw [if_neg hend]
        exact stands_headD fun t ht => hts t (hlands.subset ht)

/-! ### Rules that call each other -/

/-- The rules of the grammar, and what they yield.  The chunks of a template are those of a token of
the text. -/
inductive Rule (text : List Char) : Type → Type 1
  | statement : Rule text Stmt
  | wordStatement (w : String) : Rule text Stmt
  | expressionStatement : Rule text Stmt
  | declaration : Rule text Stmt
  | declarator : Rule text Declarator
  | initializer : Rule text (Option Expr)
  | block : Rule text (List Stmt)
  | blockRest (done : List Stmt) : Rule text (List Stmt)
  | forStatement : Rule text Stmt
  | forParts (init : Option Stmt) : Rule text Stmt
  | tryStatement : Rule text Stmt
  | bindingPattern : Rule text Pattern
  | objectPattern (rounds : Nat) (done : List Binding) (rest : Option String) : Rule text Pattern
  | binding : Rule text Binding
  | param : Rule text Param
  | params : Rule text (List Param)
  | functionRest (async named : Bool) : Rule text Function
  | arrow (async : Bool) : Rule text Expr
  | assignment : Rule text Expr
  | conditional : Rule text Expr
  | binary (level : Nat) : Rule text Expr
  | binaryRest (level : Nat) (left : Expr) : Rule text Expr
  | unary : Rule text Expr
  | element : Rule text Element
  | arguments : Rule text (List Element)
  | callMember : Rule text Expr
  | chain (e : Expr) : Rule text Expr
  | keyInBrackets : Rule text Expr
  | construct : Rule text Expr
  | constructor (e : Expr) : Rule text Expr
  | primary : Rule text Expr
  | templateParts (chunks : List Chunk) (done : List TemplatePart)
      (pieces : ∀ source hole, .hole source hole ∈ chunks → PieceAt text hole source) :
      Rule text (List TemplatePart)
  | property : Rule text Property
  | namedProperty (async : Bool) (key : String) (alone : Bool) : Rule text Property
  | method (name : Option String) (async : Bool) : Rule text Function

/-- A rule with its fuel. -/
def Rule.parse {α : Type} : Rule text α → Nat → Parse α
  | .statement, fuel => Parse.statement fuel
  | .wordStatement w, fuel => Parse.wordStatement fuel w
  | .expressionStatement, fuel => Parse.expressionStatement fuel
  | .declaration, fuel => Parse.declaration fuel
  | .declarator, fuel => Parse.declarator fuel
  | .initializer, fuel => Parse.initializer fuel
  | .block, fuel => Parse.block fuel
  | .blockRest done, fuel => Parse.blockRest fuel done
  | .forStatement, fuel => Parse.forStatement fuel
  | .forParts init, fuel => Parse.forParts fuel init
  | .tryStatement, fuel => Parse.tryStatement fuel
  | .bindingPattern, fuel => Parse.bindingPattern fuel
  | .objectPattern rounds done rest, fuel => Parse.objectPattern fuel rounds done rest
  | .binding, fuel => Parse.binding fuel
  | .param, fuel => Parse.param fuel
  | .params, fuel => Parse.params fuel
  | .functionRest async named, fuel => Parse.functionRest fuel async named
  | .arrow async, fuel => Parse.arrow fuel async
  | .assignment, fuel => Parse.assignment fuel
  | .conditional, fuel => Parse.conditional fuel
  | .binary level, fuel => Parse.binary fuel level
  | .binaryRest level left, fuel => Parse.binaryRest fuel level left
  | .unary, fuel => Parse.unary fuel
  | .element, fuel => Parse.element fuel
  | .arguments, fuel => Parse.arguments fuel
  | .callMember, fuel => Parse.callMember fuel
  | .chain e, fuel => Parse.chain fuel e
  | .keyInBrackets, fuel => Parse.keyInBrackets fuel
  | .construct, fuel => Parse.construct fuel
  | .constructor e, fuel => Parse.constructor fuel e
  | .primary, fuel => Parse.primary fuel
  | .templateParts chunks done _, fuel => Parse.templateParts fuel chunks done
  | .property, fuel => Parse.property fuel
  | .namedProperty async key alone, fuel => Parse.namedProperty fuel async key alone
  | .method name async, fuel => Parse.method fuel name async

/-- Without fuel every rule fails where it stands. -/
theorem lands_zero {α : Type} (r : Rule text α) : Lands text (r.parse 0) := by
  cases r <;> exact lands_fail _

/-- The chunks of the first token, if it is a template, have holes that stand in the text. -/
theorem pieces_kindAt {ts : List Token} {chunks : List Chunk}
    (hts : ∀ t ∈ ts, Anchored text t) (hkind : kindAt ts 0 = .template chunks) :
    ∀ source hole, .hole source hole ∈ chunks → PieceAt text hole source := by
  cases ts with
  | nil => cases hkind
  | cons t ts =>
    intro source hole hmem
    have hkind : t.kind = .template chunks := hkind
    refine (hts t List.mem_cons_self).holes source hole ?_
    rw [hkind]
    exact hmem

section Rules

variable {fuel : Nat} (ih : ∀ {α : Type} (r : Rule text α), Lands text (r.parse fuel))
include ih

theorem lands_statement : Lands text (statement (fuel + 1)) := by
  rw [statement]
  refine .get fun ts _ => ?_
  split
  case h_1 => exact (ih .block).bind fun _ => .pure _
  case h_2 => exact lands_advance.bind fun _ => .pure _
  case h_3 w _ =>
    refine .ite ?_ (ih (.wordStatement w))
    refine lands_advance.bind fun _ => lands_advance.bind fun _ => ?_
    exact (ih (.functionRest true true)).bind fun _ => .pure _
  case h_4 => exact ih .expressionStatement

theorem lands_wordStatement (w : String) : Lands text (wordStatement (fuel + 1) w) := by
  unfold wordStatement
  split
  case h_1 =>
    refine lands_advance.bind fun _ => (lands_eatWord "default").bind fun _ => ?_
    exact .ite (ih .expressionStatement) (ih .statement)
  case h_2 =>
    refine lands_advance.bind fun _ => .get fun ts _ => ?_
    exact (lands_skipImport ts.length).bind fun _ => .pure _
  case h_6 =>
    exact lands_advance.bind fun _ => (ih (.functionRest false true)).bind fun _ => .pure _
  case h_7 =>
    refine lands_advance.bind fun _ => lands_peek.bind fun t => ?_
    refine .choice (.pure _) ((ih .assignment).map _) fun value => ?_
    exact lands_semicolon.bind fun _ => .pure _
  case h_8 =>
    refine lands_advance.bind fun _ => (lands_expectPunct "(").bind fun _ => ?_
    refine (ih .assignment).bind fun test => (lands_expectPunct ")").bind fun _ => ?_
    refine (ih .statement).bind fun yes => (lands_eatWord "else").bind fun _ => ?_
    exact .choice ((ih .statement).map _) (.pure _) fun _ => .pure _
  case h_9 => exact ih .forStatement
  case h_10 =>
    refine lands_advance.bind fun _ => (lands_expectPunct "(").bind fun _ => ?_
    refine (ih .assignment).bind fun test => (lands_expectPunct ")").bind fun _ => ?_
    exact (ih .statement).bind fun _ => .pure _
  case h_13 =>
    refine lands_advance.bind fun _ => (ih .assignment).bind fun value => ?_
    exact lands_semicolon.bind fun _ => .pure _
  case h_14 => exact ih .tryStatement
  case h_18 => exact ih .expressionStatement
  -- Declarations, the ends of loops, and the words of statements that there are not.
  case h_3 | h_4 | h_5 => exact ih .declaration
  case h_11 | h_12 =>
    exact lands_advance.bind fun _ => lands_semicolon.bind fun _ => .pure _
  case h_15 | h_16 | h_17 => exact lands_fail _

theorem lands_expressionStatement : Lands text (expressionStatement (fuel + 1)) := by
  rw [expressionStatement]
  exact (ih .assignment).bind fun e => lands_semicolon.bind fun _ => .pure _

theorem lands_declaration : Lands text (declaration (fuel + 1)) := by
  rw [declaration]
  refine lands_declarationKind?.bind fun kind => ?_
  cases kind with
  | none => exact lands_unexpected
  | some kind =>
    refine (lands_sequence (ih .declarator) fuel []).bind fun declarations => ?_
    exact lands_semicolon.bind fun _ => .pure _

theorem lands_declarator : Lands text (declarator (fuel + 1)) := by
  rw [declarator]
  exact (ih .bindingPattern).bind fun _ => (ih .initializer).bind fun _ => .pure _

theorem lands_initializer : Lands text (initializer (fuel + 1)) := by
  rw [initializer]
  exact (lands_eatPunct "=").bind fun _ => .ite ((ih .assignment).map _) (.pure _)

theorem lands_block : Lands text (block (fuel + 1)) := by
  rw [block]
  exact (lands_expectPunct _).bind fun _ => ih (.blockRest [])

theorem lands_blockRest (done : List Stmt) : Lands text (blockRest (fuel + 1) done) := by
  rw [blockRest]
  refine lands_kind.bind fun k => .ite ?_ (.ite (lands_fail _) ?_)
  · exact lands_advance.bind fun _ => .pure _
  · exact (ih .statement).bind fun s => ih (.blockRest (s :: done))

theorem lands_forStatement : Lands text (forStatement (fuel + 1)) := by
  rw [forStatement]
  refine lands_advance.bind fun _ => (lands_eatWord "await").bind fun _ => ?_
  refine (lands_expectPunct "(").bind fun _ => (lands_isPunct ";").bind fun _ => ?_
  refine .ite (ih (.forParts none)) (lands_declarationKind?.bind fun kind => ?_)
  cases kind with
  | none => exact (ih .assignment).bind fun e => ih (.forParts (some (.expr e)))
  | some kind =>
    refine (ih .bindingPattern).bind fun pattern => (lands_eatWord "of").bind fun _ => .ite ?_ ?_
    · refine (ih .assignment).bind fun iterable => (lands_expectPunct ")").bind fun _ => ?_
      exact (ih .statement).bind fun _ => .pure _
    · refine lands_kind.bind fun k => .ite (lands_fail _) ?_
      refine (ih .initializer).bind fun init => (lands_eatPunct ",").bind fun _ => ?_
      refine .choice (lands_sequence (ih .declarator) fuel _) (.pure _) fun declarations => ?_
      exact ih (.forParts (some (.declare kind declarations)))

theorem lands_forParts (init : Option Stmt) : Lands text (forParts (fuel + 1) init) := by
  rw [forParts]
  refine (lands_expectPunct ";").bind fun _ => (lands_isPunct ";").bind fun _ => ?_
  refine .choice (.pure _) ((ih .assignment).map _) fun test => ?_
  refine (lands_expectPunct ";").bind fun _ => (lands_isPunct ")").bind fun _ => ?_
  refine .choice (.pure _) ((ih .assignment).map _) fun update => ?_
  exact (lands_expectPunct ")").bind fun _ => (ih .statement).bind fun _ => .pure _

theorem lands_tryStatement : Lands text (tryStatement (fuel + 1)) := by
  have hend (body : List Stmt) (param : Option Pattern) (handler : Option (List Stmt)) :
      Lands text (do
        let finalizer ← if ← eatWord "finally" then some <$> block fuel else pure none
        if handler.isNone && finalizer.isNone then fail .unguardedTry
        else return Stmt.attempt body param handler finalizer) := by
    refine (lands_eatWord "finally").bind fun _ => ?_
    exact .choice ((ih .block).map _) (.pure _) fun _ => .ite (lands_fail _) (.pure _)
  rw [tryStatement]
  refine lands_advance.bind fun _ => (ih .block).bind fun body => ?_
  refine (lands_eatWord "catch").bind fun _ => .ite ?_ (hend body none none)
  refine (lands_eatPunct "(").bind fun _ => .ite ?_ ?_
  · refine (ih .bindingPattern).bind fun p => (lands_expectPunct ")").bind fun _ => ?_
    exact (ih .block).bind fun handler => hend body (some p) (some handler)
  · exact (ih .block).bind fun handler => hend body none (some handler)

theorem lands_bindingPattern : Lands text (bindingPattern (fuel + 1)) := by
  rw [bindingPattern]
  refine (lands_eatPunct _).bind fun _ => .ite (ih (.objectPattern fuel [] none)) ?_
  refine (lands_eatPunct "[").bind fun _ => .ite ?_ ?_
  · refine (lands_itemsWithHoles "]" none ((ih .param).map _) fuel []).bind fun _ => .pure _
  · exact lands_identifier.bind fun _ => .pure _

theorem lands_objectPattern (rounds : Nat) (done : List Binding) (rest : Option String) :
    Lands text (objectPattern (fuel + 1) rounds done rest) := by
  cases rounds with
  | zero => exact lands_fail _
  | succ rounds =>
    have hnext (done : List Binding) (rest : Option String) : Lands text (do
        if ← eatPunct "," then objectPattern fuel rounds done rest
        else
          expectPunct "\x7d"
          return .object done.reverse rest) := by
      refine (lands_eatPunct ",").bind fun _ => .ite (ih (.objectPattern rounds done rest)) ?_
      exact (lands_expectPunct _).bind fun _ => .pure _
    rw [objectPattern]
    refine (lands_eatPunct _).bind fun _ => .ite (.pure _) ?_
    refine (lands_eatPunct "...").bind fun _ => .ite ?_ ?_
    · exact lands_identifier.bind fun name => hnext done (some name)
    · exact (ih .binding).bind fun b => hnext (b :: done) rest

theorem lands_binding : Lands text (binding (fuel + 1)) := by
  have hend (key : String) : Lands text (do
      let target ← if ← eatPunct ":" then bindingPattern fuel else pure (.ident key)
      let default ← initializer fuel
      return Binding.mk key target default) := by
    refine (lands_eatPunct ":").bind fun _ => .choice (ih .bindingPattern) (.pure _) fun _ => ?_
    exact (ih .initializer).bind fun _ => .pure _
  rw [binding]
  refine lands_kind.bind fun k => ?_
  split
  · exact lands_advance.bind fun _ => hend _
  · exact lands_propertyName.bind fun key => hend key

theorem lands_param : Lands text (param (fuel + 1)) := by
  rw [param]
  refine (lands_eatPunct "...").bind fun _ => (ih .bindingPattern).bind fun _ => ?_
  exact (ih .initializer).bind fun _ => .pure _

theorem lands_params : Lands text (params (fuel + 1)) := by
  rw [params]
  exact (lands_expectPunct "(").bind fun _ => lands_items ")" (ih .param) fuel []

theorem lands_functionRest (async named : Bool) :
    Lands text (functionRest (fuel + 1) async named) := by
  have hend (name : Option String) : Lands text (do
      let ps ← params fuel
      let body ← block fuel
      return Function.mk name ps (.block body) false async) :=
    (ih .params).bind fun _ => (ih .block).bind fun _ => .pure _
  rw [functionRest]
  refine lands_kind.bind fun k => ?_
  split
  · exact (lands_identifier.map some).bind hend
  · exact .choice (lands_fail _) (.pure _) hend

theorem lands_arrow (async : Bool) : Lands text (arrow (fuel + 1) async) := by
  have hend (ps : List Param) : Lands text (do
      expectPunct "=>"
      let body ← if ← isPunct "\x7b" then .block <$> block fuel else .expr <$> assignment fuel
      return Expr.function (.mk none ps body true async)) := by
    refine (lands_expectPunct "=>").bind fun _ => (lands_isPunct _).bind fun _ => ?_
    exact .choice ((ih .block).map _) ((ih .assignment).map _) fun _ => .pure _
  have hparams : Lands text (do
      let ps ←
        if ← isPunct "(" then params fuel
        else
          let name ← identifier
          pure [Param.mk (.ident name) none false]
      expectPunct "=>"
      let body ← if ← isPunct "\x7b" then .block <$> block fuel else .expr <$> assignment fuel
      return Expr.function (.mk none ps body true async)) := by
    refine (lands_isPunct "(").bind fun _ => .ite ((ih .params).bind hend) ?_
    exact lands_identifier.bind fun name => hend _
  rw [arrow]
  exact .ite (lands_advance.bind fun _ => hparams) hparams

theorem lands_assignment : Lands text (assignment (fuel + 1)) := by
  rw [assignment]
  refine .get fun ts _ => .ite (ih (.arrow true)) (.ite (ih (.arrow false)) ?_)
  refine (ih .conditional).bind fun target => lands_kind.bind fun k => ?_
  split
  · exact .pure _
  · refine .ite (lands_fail _) (lands_advance.bind fun _ => ?_)
    exact (ih .assignment).bind fun _ => .pure _

theorem lands_conditional : Lands text (conditional (fuel + 1)) := by
  rw [conditional]
  refine (ih (.binary 1)).bind fun test => (lands_eatPunct "?").bind fun _ => .ite ?_ (.pure _)
  refine (ih .assignment).bind fun yes => (lands_expectPunct ":").bind fun _ => ?_
  exact (ih .assignment).bind fun _ => .pure _

theorem lands_binary (level : Nat) : Lands text (binary (fuel + 1) level) := by
  rw [binary]
  exact (ih .unary).bind fun left => ih (.binaryRest level left)

theorem lands_binaryRest (level : Nat) (left : Expr) :
    Lands text (binaryRest (fuel + 1) level left) := by
  rw [binaryRest]
  refine lands_kind.bind fun k => ?_
  split
  · exact .pure _
  · rename_i tightness op _
    refine .ite (.pure _) (lands_advance.bind fun _ => ?_)
    refine (ih (.binary (op.rightLevel tightness))).bind fun right => ?_
    exact ih (.binaryRest level (op.apply left right))

theorem lands_unary : Lands text (unary (fuel + 1)) := by
  rw [unary]
  refine lands_kind.bind fun k => ?_
  split
  · exact lands_advance.bind fun _ => (ih .unary).bind fun _ => .pure _
  · refine .ite ?_ (.ite ?_ ?_)
    · exact lands_advance.bind fun _ => (ih .unary).bind fun _ => .pure _
    · exact lands_advance.bind fun _ => (ih .unary).bind fun _ => .pure _
    · refine (ih .callMember).bind fun e => lands_peek.bind fun t => .ite ?_ (.pure _)
      exact lands_advance.bind fun _ => .pure _

theorem lands_element : Lands text (element (fuel + 1)) := by
  rw [element]
  exact (lands_eatPunct "...").bind fun _ =>
    .ite ((ih .assignment).map _) ((ih .assignment).map _)

theorem lands_arguments : Lands text (arguments (fuel + 1)) := by
  rw [arguments]
  exact (lands_expectPunct "(").bind fun _ => lands_items ")" (ih .element) fuel []

theorem lands_callMember : Lands text (callMember (fuel + 1)) := by
  rw [callMember]
  exact lands_kind.bind fun k => .choice (ih .construct) (ih .primary) fun e => ih (.chain e)

theorem lands_chain (e : Expr) : Lands text (chain (fuel + 1) e) := by
  rw [chain]
  refine lands_kind.bind fun k => ?_
  split
  · exact lands_advance.bind fun _ => lands_propertyName.bind fun name =>
      ih (.chain (.member e name false))
  · refine lands_advance.bind fun _ => lands_kind.bind fun k => ?_
    split
    · exact (ih .arguments).bind fun args => ih (.chain (.call e args true))
    · exact (ih .keyInBrackets).bind fun key => ih (.chain (.index e key true))
    · exact lands_propertyName.bind fun name => ih (.chain (.member e name true))
  · exact (ih .keyInBrackets).bind fun key => ih (.chain (.index e key false))
  · exact (ih .arguments).bind fun args => ih (.chain (.call e args false))
  · exact .pure _

theorem lands_keyInBrackets : Lands text (keyInBrackets (fuel + 1)) := by
  rw [keyInBrackets]
  refine lands_advance.bind fun _ => (ih .assignment).bind fun key => ?_
  exact (lands_expectPunct "]").bind fun _ => .pure _

theorem lands_construct : Lands text (construct (fuel + 1)) := by
  rw [construct]
  refine lands_advance.bind fun _ => (ih .primary).bind fun callee => ?_
  refine (ih (.constructor callee)).bind fun callee => (lands_isPunct "(").bind fun _ => ?_
  exact .choice (ih .arguments) (.pure _) fun _ => .pure _

theorem lands_constructor (e : Expr) : Lands text (Parse.constructor (fuel + 1) e) := by
  rw [Parse.constructor]
  refine lands_kind.bind fun k => ?_
  split
  · exact lands_advance.bind fun _ => lands_propertyName.bind fun name =>
      ih (.constructor (.member e name false))
  · exact (ih .keyInBrackets).bind fun key => ih (.constructor (.index e key false))
  · exact .pure _

theorem lands_primary : Lands text (primary (fuel + 1)) := by
  have hfunction (async : Bool) : Lands text (do
      let f ← functionRest fuel async false
      return Expr.function f) := (ih (.functionRest async false)).bind fun _ => .pure _
  rw [primary]
  refine .get fun ts hts => ?_
  split
  case h_1 => exact lands_advance.bind fun _ => .pure _
  case h_2 => exact lands_advance.bind fun _ => .pure _
  case h_3 chunks hkind =>
    refine lands_advance.bind fun _ => ?_
    exact (ih (.templateParts chunks [] (pieces_kindAt hts hkind))).bind fun _ => .pure _
  case h_4 =>
    refine lands_advance.bind fun _ => (ih .assignment).bind fun e => ?_
    exact (lands_expectPunct ")").bind fun _ => .pure _
  case h_5 =>
    refine lands_advance.bind fun _ => ?_
    exact (lands_itemsWithHoles "]" _ (ih .element) fuel []).bind fun _ => .pure _
  case h_6 =>
    refine lands_advance.bind fun _ => ?_
    exact (lands_items _ (ih .property) fuel []).bind fun _ => .pure _
  case h_11 => exact lands_advance.bind fun _ => hfunction false
  case h_12 => exact lands_fail _
  case h_13 =>
    refine .ite ?_ (lands_identifier.bind fun _ => .pure _)
    exact lands_advance.bind fun _ => lands_advance.bind fun _ => hfunction true
  case h_14 => exact lands_unexpected
  -- The words that stand for values.
  case h_7 | h_8 | h_9 | h_10 => exact lands_advance.bind fun _ => .pure _

theorem lands_templateParts {chunks : List Chunk} (done : List TemplatePart)
    (hpieces : ∀ source hole, .hole source hole ∈ chunks → PieceAt text hole source) :
    Lands text (templateParts (fuel + 1) chunks done) := by
  have hrest {chunk : Chunk} {rest : List Chunk}
      (hpieces : ∀ source hole, .hole source hole ∈ chunk :: rest → PieceAt text hole source)
      (source : String) (hole : Place) (hmem : .hole source hole ∈ rest) :
      PieceAt text hole source := hpieces source hole (List.mem_cons_of_mem _ hmem)
  cases chunks with
  | nil => exact .pure _
  | cons chunk rest =>
    cases chunk with
    | text s => exact ih (.templateParts rest (.text s :: done) (hrest hpieces))
    | hole source place =>
      refine (lands_hole (ih .assignment) (hpieces source place List.mem_cons_self)).bind ?_
      exact fun e => ih (.templateParts rest (.hole e :: done) (hrest hpieces))

theorem lands_property : Lands text (property (fuel + 1)) := by
  rw [property]
  refine (lands_eatPunct "...").bind fun _ => .ite ((ih .assignment).map _) ?_
  refine .get fun ts _ => .first lands_advance (lands_kind.bind fun k => ?_)
  split
  case h_1 w =>
    exact lands_advance.bind fun _ => ih (.namedProperty (marksMethod ts) w (!isReserved w))
  case h_2 s => exact lands_advance.bind fun _ => ih (.namedProperty (marksMethod ts) s false)
  case h_3 x =>
    exact lands_advance.bind fun _ =>
      ih (.namedProperty (marksMethod ts) (Number.keyText x) false)
  · refine (ih .keyInBrackets).bind fun key => (lands_eatPunct ":").bind fun _ => ?_
    refine .ite ((ih .assignment).map _) ((lands_isPunct "(").bind fun _ => ?_)
    exact .ite ((ih (.method none (marksMethod ts))).bind fun _ => .pure _) lands_unexpected
  · exact lands_unexpected

theorem lands_namedProperty (async : Bool) (key : String) (alone : Bool) :
    Lands text (namedProperty (fuel + 1) async key alone) := by
  rw [namedProperty]
  refine (lands_eatPunct ":").bind fun _ => .ite ((ih .assignment).map _) ?_
  refine (lands_isPunct "(").bind fun _ => .ite ?_ (.ite (.pure _) lands_unexpected)
  exact (ih (.method (some key) async)).bind fun _ => .pure _

theorem lands_method (name : Option String) (async : Bool) :
    Lands text (method (fuel + 1) name async) := by
  rw [method]
  exact (ih .params).bind fun _ => (ih .block).bind fun _ => .pure _

end Rules

/-- Every rule leaves an end of its stream, or fails in the text. -/
theorem lands {α : Type} (r : Rule text α) (fuel : Nat) : Lands text (r.parse fuel) := by
  induction fuel generalizing α with
  | zero => exact lands_zero r
  | succ fuel ih =>
    have ih {α : Type} (r : Rule text α) : Lands text (r.parse fuel) := ih r
    cases r with
    | statement => exact lands_statement ih
    | wordStatement w => exact lands_wordStatement ih w
    | expressionStatement => exact lands_expressionStatement ih
    | declaration => exact lands_declaration ih
    | declarator => exact lands_declarator ih
    | initializer => exact lands_initializer ih
    | block => exact lands_block ih
    | blockRest done => exact lands_blockRest ih done
    | forStatement => exact lands_forStatement ih
    | forParts init => exact lands_forParts ih init
    | tryStatement => exact lands_tryStatement ih
    | bindingPattern => exact lands_bindingPattern ih
    | objectPattern rounds done rest => exact lands_objectPattern ih rounds done rest
    | binding => exact lands_binding ih
    | param => exact lands_param ih
    | params => exact lands_params ih
    | functionRest async named => exact lands_functionRest ih async named
    | arrow async => exact lands_arrow ih async
    | assignment => exact lands_assignment ih
    | conditional => exact lands_conditional ih
    | binary level => exact lands_binary ih level
    | binaryRest level left => exact lands_binaryRest ih level left
    | unary => exact lands_unary ih
    | element => exact lands_element ih
    | arguments => exact lands_arguments ih
    | callMember => exact lands_callMember ih
    | chain e => exact lands_chain ih e
    | keyInBrackets => exact lands_keyInBrackets ih
    | construct => exact lands_construct ih
    | constructor e => exact lands_constructor ih e
    | primary => exact lands_primary ih
    | templateParts chunks done pieces => exact lands_templateParts ih done pieces
    | property => exact lands_property ih
    | namedProperty async key alone => exact lands_namedProperty ih async key alone
    | method name async => exact lands_method ih name async

theorem lands_program (fuel rounds : Nat) (done : List Stmt) :
    Lands text (program fuel rounds done) := by
  induction rounds generalizing done with
  | zero => exact lands_fail _
  | succ rounds ih =>
    rw [program]
    refine lands_kind.bind fun k => .ite (.pure _) ?_
    exact (lands .statement fuel).bind fun s => ih (s :: done)

end Parse

/-- The error of a text that is not a script stands in the text. -/
theorem stands_of_parse {e : SyntaxError} (h : parse source = .error e) :
    Stands source.toList e.place := by
  have hwhole : PieceAt source.toList .start source := ⟨[], [], by simp, rfl⟩
  unfold parse tokenize at h
  split at h
  · rename_i e' htokens
    cases h
    exact hwhole.stands_error htokens
  · rename_i ts htokens
    have hlands := Parse.lands_program (Parse.depthBound source.length)
      (Parse.depthBound source.length) [] ts (hwhole.anchored htokens)
    dsimp only at h
    split at h
    · rename_i e' hprogram
      cases h
      rw [hprogram] at hlands
      exact hlands
    · cases h

end BrowserLab.Script
