import BrowserLab.Proofs.Script.Grammar.Settles

/-!
# Every rule comes to an end

Rules that call each other before a token is taken stand in an order: each calls only rules of a
lower rank, and no rank reaches 16.  Every token that is taken leaves fuel for 16 more calls.

* `Progress`: what every rule comes to with fuel that is enough.
* `progress`: all of them do so, by induction on the fuel, with one lemma for each rule.
-/

namespace BrowserLab.Script.Parse

/-- On every stream for which fuel `b` is enough, the rules come to the same end with fuel `n` and
with fuel `k`.  Those with a rank take something. -/
structure Progress (b n k : Nat) : Prop where
  left_le : b ≤ n
  right_le : b ≤ k
  statement : Takes b 9 (statement n) (statement k)
  wordStatement (w : String) {ts : List Token} (hts : Ended ts) (hkind : kindAt ts 0 ≠ .eof)
    (hb : 16 * weight ts + 8 ≤ b) : Settles true (wordStatement n w) (wordStatement k w) ts
  expressionStatement : Takes b 7 (expressionStatement n) (expressionStatement k)
  declaration : Takes b 0 (declaration n) (declaration k)
  declarator : Takes b 1 (declarator n) (declarator k)
  initializer : Safe b (initializer n) (initializer k)
  block : Takes b 0 (block n) (block k)
  blockRest (done : List Stmt) : Safe b (blockRest n done) (blockRest k done)
  forStatement : Takes b 0 (forStatement n) (forStatement k)
  forParts (init : Option Stmt) : Safe b (forParts n init) (forParts k init)
  tryStatement : Takes b 1 (tryStatement n) (tryStatement k)
  bindingPattern : Takes b 0 (bindingPattern n) (bindingPattern k)
  objectPattern {i j : Nat} (hi : b ≤ i) (hj : b ≤ j) (done : List Binding) (rest : Option String) :
    Safe b (objectPattern n i done rest) (objectPattern k j done rest)
  binding : Takes b 0 (binding n) (binding k)
  param : Takes b 1 (param n) (param k)
  params : Takes b 0 (params n) (params k)
  functionRest (async named : Bool) :
    Safe b (functionRest n async named) (functionRest k async named)
  arrow (async : Bool) : Takes b 1 (arrow n async) (arrow k async)
  assignment : Takes b 6 (assignment n) (assignment k)
  conditional : Takes b 5 (conditional n) (conditional k)
  binary (level : Nat) : Takes b 4 (binary n level) (binary k level)
  binaryRest (level : Nat) (left : Expr) : Safe b (binaryRest n level left) (binaryRest k level left)
  unary : Takes b 3 (unary n) (unary k)
  element : Takes b 7 (element n) (element k)
  arguments : Takes b 0 (arguments n) (arguments k)
  callMember : Takes b 2 (callMember n) (callMember k)
  chain (e : Expr) : Safe b (chain n e) (chain k e)
  keyInBrackets : Takes b 7 (keyInBrackets n) (keyInBrackets k)
  construct : Takes b 1 (construct n) (construct k)
  constructor (e : Expr) : Safe b (Parse.constructor n e) (Parse.constructor k e)
  primary : Takes b 0 (primary n) (primary k)
  templateParts {chunks : List Chunk} (done : List TemplatePart)
    (hb : 16 * weightOf chunks + 1 ≤ b) {ts : List Token} (hts : Ended ts) :
    Settles false (templateParts n chunks done) (templateParts k chunks done) ts
  property : Takes b 8 (property n) (property k)
  namedProperty (async : Bool) (key : String) (alone : Bool) :
    Safe b (namedProperty n async key alone) (namedProperty k async key alone)
  method (name : Option String) (async : Bool) :
    Takes b 1 (method n name async) (method k name async)

/-- Without fuel there is no stream for which it is enough. -/
theorem progress_zero (n k : Nat) : Progress 0 n k where
  left_le := Nat.zero_le n
  right_le := Nat.zero_le k
  statement := .zero
  wordStatement _ _ _ _ hb := absurd hb (by omega)
  expressionStatement := .zero
  declaration := .zero
  declarator := .zero
  initializer := .zero
  block := .zero
  blockRest _ := .zero
  forStatement := .zero
  forParts _ := .zero
  tryStatement := .zero
  bindingPattern := .zero
  objectPattern _ _ _ _ := .zero
  binding := .zero
  param := .zero
  params := .zero
  functionRest _ _ := .zero
  arrow _ := .zero
  assignment := .zero
  conditional := .zero
  binary _ := .zero
  binaryRest _ _ := .zero
  unary := .zero
  element := .zero
  arguments := .zero
  callMember := .zero
  chain _ := .zero
  keyInBrackets := .zero
  construct := .zero
  constructor _ := .zero
  primary := .zero
  templateParts _ hb := absurd hb (by omega)
  property := .zero
  namedProperty _ _ _ := .zero
  method _ _ := .zero

section Rules

variable {b n k : Nat} (h : Progress b n k)
include h

/-! ### Behind a token -/

theorem safe_statement : Safe b (statement n) (statement k) := h.statement.safe (by decide)

theorem safe_assignment : Safe b (assignment n) (assignment k) :=
  h.assignment.safe (by decide)

theorem safe_block : Safe b (block n) (block k) := h.block.safe (by decide)

theorem safe_bindingPattern : Safe b (bindingPattern n) (bindingPattern k) :=
  h.bindingPattern.safe (by decide)

theorem safe_arguments : Safe b (arguments n) (arguments k) :=
  h.arguments.safe (by decide)

theorem safe_declarators (done : List Declarator) :
    Safe b (sequence (declarator n) n done) (sequence (declarator k) k done) := by
  have hn := h.left_le
  have hk := h.right_le
  exact safe_sequence h.declarator (by decide) (by omega) (by omega) done

/-! ### Statements -/

theorem takes_statement : Takes (b + 1) 9 (statement (n + 1)) (statement (k + 1)) := by
  intro ts hts hb
  have hfront : Front b ts := ⟨hts, by omega⟩
  rw [statement, statement]
  refine .look (run_get ts) ?_
  split
  case h_1 => exact (h.block ts hts (by omega)).next hfront fun _ => .pure _
  case h_2 hkind => exact .advance_of_kind hfront hkind nofun (.pure _)
  case h_3 w hkind =>
    have hkind : kindAt ts 0 ≠ .eof := by rw [hkind]; nofun
    split
    · refine .advance hfront hkind (safe_advance.bind fun _ => ?_)
      exact (h.functionRest true true).bind fun _ => .pure _
    · exact h.wordStatement w hts hkind (by omega)
  case h_4 => exact h.expressionStatement ts hts (by omega)

theorem settles_wordStatement (w : String) {ts : List Token} (hts : Ended ts)
    (hkind : kindAt ts 0 ≠ .eof) (hb : 16 * weight ts + 8 ≤ b + 1) :
    Settles true (wordStatement (n + 1) w) (wordStatement (k + 1) w) ts := by
  have hfront : Front b ts := ⟨hts, by omega⟩
  unfold wordStatement
  split
  case h_1 =>
    refine .advance hfront hkind ((safe_eatWord "default").bind fun _ => ?_)
    exact .ite (h.expressionStatement.safe (by decide)) (safe_statement h)
  case h_2 =>
    refine .advance hfront hkind fun ts hts hb => .look (run_get ts) ?_
    exact ((safe_skipImport ts.length).bind fun _ => .pure _) ts hts hb
  case h_6 => exact .advance hfront hkind ((h.functionRest false true).bind fun _ => .pure _)
  case h_7 =>
    refine .advance hfront hkind (safe_peek.bind fun t => ?_)
    refine .choice (.pure _) ((safe_assignment h).map _) fun value => ?_
    exact safe_semicolon.bind fun _ => .pure _
  case h_8 =>
    refine .advance hfront hkind ((safe_expectPunct "(").bind fun _ => ?_)
    refine (safe_assignment h).bind fun test => (safe_expectPunct ")").bind fun _ => ?_
    refine (safe_statement h).bind fun yes => (safe_eatWord "else").bind fun _ => ?_
    exact .choice ((safe_statement h).map _) (.pure _) fun _ => .pure _
  case h_9 => exact h.forStatement ts hts (by omega)
  case h_10 =>
    refine .advance hfront hkind ((safe_expectPunct "(").bind fun _ => ?_)
    refine (safe_assignment h).bind fun test => (safe_expectPunct ")").bind fun _ => ?_
    exact (safe_statement h).bind fun _ => .pure _
  case h_13 =>
    refine .advance hfront hkind ((safe_assignment h).bind fun value => ?_)
    exact safe_semicolon.bind fun _ => .pure _
  case h_14 => exact h.tryStatement ts hts (by omega)
  case h_18 => exact h.expressionStatement ts hts (by omega)
  -- Declarations, the ends of loops, and the words of statements that there are not.
  case h_3 | h_4 | h_5 => exact h.declaration ts hts (by omega)
  case h_11 | h_12 =>
    exact .advance hfront hkind (safe_semicolon.bind fun _ => .pure _)
  case h_15 | h_16 | h_17 => exact settles_fail nofun

theorem takes_expressionStatement :
    Takes (b + 1) 7 (expressionStatement (n + 1)) (expressionStatement (k + 1)) := by
  intro ts hts hb
  rw [expressionStatement, expressionStatement]
  refine (h.assignment ts hts (by omega)).next (b := b) ⟨hts, by omega⟩ fun e => ?_
  exact safe_semicolon.bind fun _ => .pure _

theorem takes_declaration : Takes (b + 1) 0 (declaration (n + 1)) (declaration (k + 1)) := by
  intro ts hts hb
  rw [declaration, declaration]
  refine .declaration (b := b) ⟨hts, by omega⟩ (fun kind => ?_) settles_unexpected
  exact (safe_declarators h []).bind fun _ => safe_semicolon.bind fun _ => .pure _

theorem takes_declarator : Takes (b + 1) 1 (declarator (n + 1)) (declarator (k + 1)) := by
  intro ts hts hb
  rw [declarator, declarator]
  refine (h.bindingPattern ts hts (by omega)).next (b := b) ⟨hts, by omega⟩ fun pattern => ?_
  exact h.initializer.bind fun _ => .pure _

theorem safe_initializer : Safe (b + 1) (initializer (n + 1)) (initializer (k + 1)) := by
  intro ts hts hb
  rw [initializer, initializer]
  exact .eatPunct (b := b) ⟨hts, by omega⟩ ((safe_assignment h).map some) (.pure none hts)

theorem takes_block : Takes (b + 1) 0 (block (n + 1)) (block (k + 1)) := by
  intro ts hts hb
  rw [block, block]
  exact (settles_expectPunct _ hts).next (b := b) ⟨hts, by omega⟩ fun _ => h.blockRest []

theorem safe_blockRest (done : List Stmt) :
    Safe (b + 1) (blockRest (n + 1) done) (blockRest (k + 1) done) := by
  intro ts hts hb
  have hfront : Front b ts := ⟨hts, by omega⟩
  rw [blockRest, blockRest]
  refine .look (run_kind ts) ?_
  split
  · rename_i hpunct
    exact .advance hfront (Token.Kind.ne_eof_of_isPunct hpunct) (.pure _)
  · split
    · exact settles_fail nofun
    · exact (h.statement ts hts (by omega)).next hfront fun s => h.blockRest (s :: done)

theorem takes_forStatement : Takes (b + 1) 0 (forStatement (n + 1)) (forStatement (k + 1)) := by
  have hparts : Safe b
      (do
        let e ← assignment n
        forParts n (some (.expr e)))
      (do
        let e ← assignment k
        forParts k (some (.expr e))) :=
    (safe_assignment h).bind fun e => h.forParts (some (.expr e))
  rw [forStatement, forStatement]
  refine .after safe_advance fun _ => .after (safe_eatWord "await") fun _ => ?_
  intro ts hts hb
  refine (settles_expectPunct "(" hts).next (b := b) ⟨hts, by omega⟩ fun _ => ?_
  refine (safe_isPunct ";").bind fun _ => .ite (h.forParts none) ?_
  refine safe_declarationKind?.bind fun kind => ?_
  cases kind with
  | none => exact hparts
  | some kind =>
    refine (safe_bindingPattern h).bind fun pattern => (safe_eatWord "of").bind fun _ => .ite ?_ ?_
    · refine (safe_assignment h).bind fun iterable => (safe_expectPunct ")").bind fun _ => ?_
      exact (safe_statement h).bind fun _ => .pure _
    · refine safe_kind.bind fun k => .ite (safe_fail nofun) ?_
      refine h.initializer.bind fun init => (safe_eatPunct ",").bind fun _ => ?_
      refine .choice (safe_declarators h _) (.pure _) fun declarations => ?_
      exact h.forParts (some (.declare kind declarations))

theorem safe_forParts (init : Option Stmt) :
    Safe (b + 1) (forParts (n + 1) init) (forParts (k + 1) init) := by
  intro ts hts hb
  rw [forParts, forParts]
  refine (settles_expectPunct ";" hts).next (b := b) ⟨hts, by omega⟩ fun _ => ?_
  refine (safe_isPunct ";").bind fun _ => ?_
  refine .choice (.pure _) ((safe_assignment h).map _) fun test => ?_
  refine (safe_expectPunct ";").bind fun _ => (safe_isPunct ")").bind fun _ => ?_
  refine .choice (.pure _) ((safe_assignment h).map _) fun update => ?_
  exact (safe_expectPunct ")").bind fun _ => (safe_statement h).bind fun _ => .pure _

theorem takes_tryStatement : Takes (b + 1) 1 (tryStatement (n + 1)) (tryStatement (k + 1)) := by
  have hend (body : List Stmt) (param : Option Pattern) (handler : Option (List Stmt)) : Safe b
      (do
        let finalizer ← if ← eatWord "finally" then some <$> block n else pure none
        if handler.isNone && finalizer.isNone then fail .unguardedTry
        else return Stmt.attempt body param handler finalizer)
      (do
        let finalizer ← if ← eatWord "finally" then some <$> block k else pure none
        if handler.isNone && finalizer.isNone then fail .unguardedTry
        else return Stmt.attempt body param handler finalizer) := by
    refine (safe_eatWord "finally").bind fun _ => ?_
    exact .choice ((safe_block h).map _) (.pure _) fun _ => .ite (safe_fail nofun) (.pure _)
  rw [tryStatement, tryStatement]
  refine .after safe_advance fun _ ts hts hb => ?_
  refine (h.block ts hts (by omega)).next (b := b) ⟨hts, by omega⟩ fun body => ?_
  refine (safe_eatWord "catch").bind fun _ => .ite ?_ (hend body none none)
  refine (safe_eatPunct "(").bind fun _ => .ite ?_ ?_
  · refine (safe_bindingPattern h).bind fun p => (safe_expectPunct ")").bind fun _ => ?_
    exact (safe_block h).bind fun handler => hend body (some p) (some handler)
  · exact (safe_block h).bind fun handler => hend body none (some handler)

/-! ### Patterns and functions -/

theorem takes_bindingPattern :
    Takes (b + 1) 0 (bindingPattern (n + 1)) (bindingPattern (k + 1)) := by
  intro ts hts hb
  have hfront : Front b ts := ⟨hts, by omega⟩
  have hn := h.left_le
  have hk := h.right_le
  rw [bindingPattern, bindingPattern]
  refine .eatPunct hfront (h.objectPattern hn hk [] none) (.eatPunct hfront ?_ ?_)
  · refine Safe.bind ?_ fun ps => .pure (Pattern.array ps)
    exact safe_itemsWithHoles (h.param.map some) (by decide) (by omega) (by omega) []
  · exact (settles_identifier hts).map hts Pattern.ident

theorem safe_objectPattern {i j : Nat} (hi : b + 1 ≤ i) (hj : b + 1 ≤ j) (done : List Binding)
    (rest : Option String) :
    Safe (b + 1) (objectPattern (n + 1) i done rest) (objectPattern (k + 1) j done rest) := by
  intro ts hts hb
  have hfront : Front b ts := ⟨hts, by omega⟩
  obtain ⟨i, rfl⟩ : ∃ i', i = i' + 1 := ⟨i - 1, by omega⟩
  obtain ⟨j, rfl⟩ : ∃ j', j = j' + 1 := ⟨j - 1, by omega⟩
  have hnext (done : List Binding) (rest : Option String) : Safe b
      (do
        if ← eatPunct "," then objectPattern n i done rest
        else
          expectPunct "\x7d"
          return .object done.reverse rest)
      (do
        if ← eatPunct "," then objectPattern k j done rest
        else
          expectPunct "\x7d"
          return .object done.reverse rest) := by
    refine (safe_eatPunct ",").bind fun _ => .ite ?_ ?_
    · exact h.objectPattern (Nat.le_of_succ_le_succ hi) (Nat.le_of_succ_le_succ hj) done rest
    · exact (safe_expectPunct _).bind fun _ => .pure _
  rw [objectPattern, objectPattern]
  refine .eatPunct hfront (.pure _) (.eatPunct hfront ?_ ?_)
  · exact safe_identifier.bind fun name => hnext done (some name)
  · exact (h.binding ts hts (by omega)).next hfront fun b => hnext (b :: done) rest

theorem takes_binding : Takes (b + 1) 0 (binding (n + 1)) (binding (k + 1)) := by
  intro ts hts hb
  have hfront : Front b ts := ⟨hts, by omega⟩
  have hend (key : String) : Safe b
      (do
        let target ← if ← eatPunct ":" then bindingPattern n else pure (.ident key)
        let default ← initializer n
        return Binding.mk key target default)
      (do
        let target ← if ← eatPunct ":" then bindingPattern k else pure (.ident key)
        let default ← initializer k
        return Binding.mk key target default) := by
    refine (safe_eatPunct ":").bind fun _ => .choice (safe_bindingPattern h) (.pure _) fun _ => ?_
    exact h.initializer.bind fun _ => .pure _
  rw [binding, binding]
  refine .look (run_kind ts) ?_
  split
  · rename_i hkind
    exact .advance_of_kind hfront hkind nofun (hend _)
  · exact (settles_propertyName hts).next hfront hend

theorem takes_param : Takes (b + 1) 1 (param (n + 1)) (param (k + 1)) := by
  have hend (rest : Bool) : Takes (b + 1) 1
      (do
        let pattern ← bindingPattern n
        let default ← initializer n
        return Param.mk pattern default rest)
      (do
        let pattern ← bindingPattern k
        let default ← initializer k
        return Param.mk pattern default rest) := by
    intro ts hts hb
    refine (h.bindingPattern ts hts (by omega)).next (b := b) ⟨hts, by omega⟩ fun pattern => ?_
    exact h.initializer.bind fun _ => .pure _
  rw [param, param]
  exact .after (safe_eatPunct "...") hend

theorem takes_params : Takes (b + 1) 0 (params (n + 1)) (params (k + 1)) := by
  intro ts hts hb
  have hn := h.left_le
  have hk := h.right_le
  rw [params, params]
  refine (settles_expectPunct "(" hts).next (b := b) ⟨hts, by omega⟩ fun _ => ?_
  exact safe_items h.param (by decide) (by omega) (by omega) []

theorem safe_functionRest (async named : Bool) :
    Safe (b + 1) (functionRest (n + 1) async named) (functionRest (k + 1) async named) := by
  have hend (name : Option String) : Takes (b + 1) 1
      (do
        let ps ← params n
        let body ← block n
        return Function.mk name ps (.block body) false async)
      (do
        let ps ← params k
        let body ← block k
        return Function.mk name ps (.block body) false async) := by
    intro ts hts hb
    refine (h.params ts hts (by omega)).next (b := b) ⟨hts, by omega⟩ fun ps => ?_
    exact (safe_block h).bind fun _ => .pure _
  have hend (name : Option String) := (hend name).safe (by decide)
  rw [functionRest, functionRest]
  refine safe_kind.bind fun k => ?_
  split
  · exact (safe_identifier.map some).bind hend
  · exact .choice (safe_fail nofun) (.pure _) hend

theorem takes_arrow (async : Bool) :
    Takes (b + 1) 1 (arrow (n + 1) async) (arrow (k + 1) async) := by
  have hend (ps : List Param) : Safe b
      (do
        expectPunct "=>"
        let body ← if ← isPunct "\x7b" then .block <$> block n else .expr <$> assignment n
        return Expr.function (.mk none ps body true async))
      (do
        expectPunct "=>"
        let body ← if ← isPunct "\x7b" then .block <$> block k else .expr <$> assignment k
        return Expr.function (.mk none ps body true async)) := by
    refine (safe_expectPunct "=>").bind fun _ => (safe_isPunct _).bind fun _ => ?_
    exact .choice ((safe_block h).map _) ((safe_assignment h).map _) fun _ => .pure _
  have hparams : Takes (b + 1) 1
      (do
        let ps ←
          if ← isPunct "(" then params n
          else
            let name ← identifier
            pure [Param.mk (.ident name) none false]
        expectPunct "=>"
        let body ← if ← isPunct "\x7b" then .block <$> block n else .expr <$> assignment n
        return Expr.function (.mk none ps body true async))
      (do
        let ps ←
          if ← isPunct "(" then params k
          else
            let name ← identifier
            pure [Param.mk (.ident name) none false]
        expectPunct "=>"
        let body ← if ← isPunct "\x7b" then .block <$> block k else .expr <$> assignment k
        return Expr.function (.mk none ps body true async)) := by
    intro ts hts hb
    have hfront : Front b ts := ⟨hts, by omega⟩
    refine .look (run_isPunct "(" ts) ?_
    split
    · exact (h.params ts hts (by omega)).next hfront hend
    · exact (settles_identifier hts).next hfront fun name => hend _
  rw [arrow, arrow]
  split
  · exact .after safe_advance fun _ => hparams
  · exact hparams

/-! ### Expressions -/

theorem takes_assignment : Takes (b + 1) 6 (assignment (n + 1)) (assignment (k + 1)) := by
  intro ts hts hb
  rw [assignment, assignment]
  refine .look (run_get ts) ?_
  split
  · exact h.arrow true ts hts (by omega)
  split
  · exact h.arrow false ts hts (by omega)
  refine (h.conditional ts hts (by omega)).next (b := b) ⟨hts, by omega⟩ fun target => ?_
  refine safe_kind.bind fun k => ?_
  split
  · exact .pure _
  · refine .ite (safe_fail nofun) (safe_advance.bind fun _ => ?_)
    exact (safe_assignment h).bind fun _ => .pure _

theorem takes_conditional : Takes (b + 1) 5 (conditional (n + 1)) (conditional (k + 1)) := by
  intro ts hts hb
  rw [conditional, conditional]
  refine (h.binary 1 ts hts (by omega)).next (b := b) ⟨hts, by omega⟩ fun test => ?_
  refine (safe_eatPunct "?").bind fun _ => .ite ?_ (.pure _)
  refine (safe_assignment h).bind fun yes => (safe_expectPunct ":").bind fun _ => ?_
  exact (safe_assignment h).bind fun _ => .pure _

theorem takes_binary (level : Nat) :
    Takes (b + 1) 4 (binary (n + 1) level) (binary (k + 1) level) := by
  intro ts hts hb
  rw [binary, binary]
  refine (h.unary ts hts (by omega)).next (b := b) ⟨hts, by omega⟩ fun left => ?_
  exact h.binaryRest level left

theorem safe_binaryRest (level : Nat) (left : Expr) :
    Safe (b + 1) (binaryRest (n + 1) level left) (binaryRest (k + 1) level left) := by
  intro ts hts hb
  rw [binaryRest, binaryRest]
  refine .look (run_kind ts) ?_
  split
  · exact .pure _ hts
  · rename_i tightness op hinfix
    have hkind : kindAt ts 0 ≠ .eof := by
      intro heof
      rw [heof] at hinfix
      cases hinfix
    split
    · exact .pure _ hts
    · refine .advance (b := b) ⟨hts, by omega⟩ hkind ?_
      refine ((h.binary (op.rightLevel tightness)).safe (by decide)).bind fun right => ?_
      exact h.binaryRest level (op.apply left right)

theorem takes_unary : Takes (b + 1) 3 (unary (n + 1)) (unary (k + 1)) := by
  intro ts hts hb
  have hfront : Front b ts := ⟨hts, by omega⟩
  have hoperand (f : Expr → Expr) : Safe b
      (do
        let e ← unary n
        return f e)
      (do
        let e ← unary k
        return f e) := (h.unary.safe (by decide)).bind fun _ => .pure _
  rw [unary, unary]
  refine .look (run_kind ts) ?_
  split
  · rename_i op hop
    refine .advance hfront (fun heof => ?_) (hoperand (.unary op))
    rw [heof] at hop
    cases hop
  split
  · rename_i hword
    exact .advance hfront (Token.Kind.ne_eof_of_isWord hword) (hoperand .await)
  split
  · rename_i hpunct
    refine .advance hfront ?_ (hoperand _)
    rcases Bool.or_eq_true _ _ ▸ hpunct with hpunct | hpunct
    · exact Token.Kind.ne_eof_of_isPunct hpunct
    · exact Token.Kind.ne_eof_of_isPunct hpunct
  · refine (h.callMember ts hts (by omega)).next hfront fun e => safe_peek.bind fun t => ?_
    exact .ite (safe_advance.bind fun _ => .pure _) (.pure _)

theorem takes_element : Takes (b + 1) 7 (element (n + 1)) (element (k + 1)) := by
  intro ts hts hb
  rw [element, element]
  refine .eatPunct (b := b) ⟨hts, by omega⟩ ((safe_assignment h).map _) ?_
  exact (h.assignment ts hts (by omega)).map hts _

theorem takes_arguments : Takes (b + 1) 0 (arguments (n + 1)) (arguments (k + 1)) := by
  intro ts hts hb
  have hn := h.left_le
  have hk := h.right_le
  rw [arguments, arguments]
  refine (settles_expectPunct "(" hts).next (b := b) ⟨hts, by omega⟩ fun _ => ?_
  exact safe_items h.element (by decide) (by omega) (by omega) []

theorem takes_callMember : Takes (b + 1) 2 (callMember (n + 1)) (callMember (k + 1)) := by
  intro ts hts hb
  have hfront : Front b ts := ⟨hts, by omega⟩
  rw [callMember, callMember]
  refine .look (run_kind ts) ?_
  split
  · exact (h.construct ts hts (by omega)).next hfront fun e => h.chain e
  · exact (h.primary ts hts (by omega)).next hfront fun e => h.chain e

theorem safe_chain (e : Expr) : Safe (b + 1) (chain (n + 1) e) (chain (k + 1) e) := by
  intro ts hts hb
  have hfront : Front b ts := ⟨hts, by omega⟩
  rw [chain, chain]
  refine .look (run_kind ts) ?_
  split
  case h_1 hkind =>
    refine .advance_of_kind hfront hkind nofun (safe_propertyName.bind fun name => ?_)
    exact h.chain (.member e name false)
  case h_2 hkind =>
    refine .advance_of_kind hfront hkind nofun (safe_kind.bind fun k => ?_)
    split
    · exact (safe_arguments h).bind fun args => h.chain (.call e args true)
    · exact (h.keyInBrackets.safe (by decide)).bind fun key => h.chain (.index e key true)
    · exact safe_propertyName.bind fun name => h.chain (.member e name true)
  case h_3 =>
    exact (h.keyInBrackets ts hts (by omega)).next hfront fun key => h.chain (.index e key false)
  case h_4 =>
    exact (h.arguments ts hts (by omega)).next hfront fun args => h.chain (.call e args false)
  case h_5 => exact .pure _ hts

theorem takes_keyInBrackets :
    Takes (b + 1) 7 (keyInBrackets (n + 1)) (keyInBrackets (k + 1)) := by
  rw [keyInBrackets, keyInBrackets]
  refine .after safe_advance fun _ ts hts hb => ?_
  refine (h.assignment ts hts (by omega)).next (b := b) ⟨hts, by omega⟩ fun key => ?_
  exact (safe_expectPunct "]").bind fun _ => .pure _

theorem takes_construct : Takes (b + 1) 1 (construct (n + 1)) (construct (k + 1)) := by
  rw [construct, construct]
  refine .after safe_advance fun _ ts hts hb => ?_
  refine (h.primary ts hts (by omega)).next (b := b) ⟨hts, by omega⟩ fun callee => ?_
  refine (h.constructor callee).bind fun callee => (safe_isPunct "(").bind fun _ => ?_
  exact .choice (safe_arguments h) (.pure _) fun _ => .pure _

theorem safe_constructor (e : Expr) :
    Safe (b + 1) (Parse.constructor (n + 1) e) (Parse.constructor (k + 1) e) := by
  intro ts hts hb
  have hfront : Front b ts := ⟨hts, by omega⟩
  rw [Parse.constructor, Parse.constructor]
  refine .look (run_kind ts) ?_
  split
  · rename_i hkind
    refine .advance_of_kind hfront hkind nofun (safe_propertyName.bind fun name => ?_)
    exact h.constructor (.member e name false)
  · refine (h.keyInBrackets ts hts (by omega)).next hfront fun key => ?_
    exact h.constructor (.index e key false)
  · exact .pure _ hts

/-! ### Templates and objects -/

theorem takes_primary : Takes (b + 1) 0 (primary (n + 1)) (primary (k + 1)) := by
  intro ts hts hb
  have hfront : Front b ts := ⟨hts, by omega⟩
  have hn := h.left_le
  have hk := h.right_le
  have hfunction (async : Bool) : Safe b
      (do
        let f ← functionRest n async false
        return Expr.function f)
      (do
        let f ← functionRest k async false
        return Expr.function f) := (h.functionRest async false).bind fun _ => .pure _
  rw [primary, primary]
  refine .look (run_get ts) ?_
  split
  case h_3 chunks hkind =>
    have hchunks : weightOf chunks + 1 ≤ weight ts := weightOf_kindAt hkind
    refine .advance_of_kind hfront hkind nofun (Safe.bind ?_ fun parts => .pure _)
    exact fun ts hts _ => h.templateParts [] (by omega) hts
  case h_4 hkind =>
    refine .advance_of_kind hfront hkind nofun ((safe_assignment h).bind fun e => ?_)
    exact (safe_expectPunct ")").bind fun _ => .pure _
  case h_5 hkind =>
    refine .advance_of_kind hfront hkind nofun (Safe.bind ?_ fun es => .pure _)
    exact safe_itemsWithHoles h.element (by decide) (by omega) (by omega) []
  case h_6 hkind =>
    refine .advance_of_kind hfront hkind nofun (Safe.bind ?_ fun ps => .pure _)
    exact safe_items h.property (by decide) (by omega) (by omega) []
  case h_11 hkind => exact .advance_of_kind hfront hkind nofun (hfunction false)
  case h_12 => exact settles_fail nofun
  case h_13 hkind =>
    split
    · exact .advance_of_kind hfront hkind nofun (safe_advance.bind fun _ => hfunction true)
    · exact (settles_identifier hts).map hts Expr.ident
  case h_14 => exact settles_unexpected
  -- Numbers, texts and the words that stand for values.
  all_goals
    rename_i hkind
    exact .advance_of_kind hfront hkind nofun (.pure _)

theorem settles_templateParts {chunks : List Chunk} (done : List TemplatePart)
    (hb : 16 * weightOf chunks + 1 ≤ b + 1) {ts : List Token} (hts : Ended ts) :
    Settles false (templateParts (n + 1) chunks done) (templateParts (k + 1) chunks done) ts := by
  cases chunks with
  | nil => exact .pure _ hts
  | cons chunk rest =>
    rw [weightOf_cons] at hb
    cases chunk with
    | text s =>
      have hone : (Chunk.text s).weight = 1 := rfl
      exact h.templateParts (.text s :: done) (by omega) hts
    | hole source place =>
      have hone : (Chunk.hole source place).weight = source.length + 2 := rfl
      rw [templateParts, templateParts]
      refine (settles_hole h.assignment (by omega) hts).bind fun e rest' hrest => ?_
      exact h.templateParts (.hole e :: done) (by omega) (hrest.ended hts)

theorem takes_property : Takes (b + 1) 8 (property (n + 1)) (property (k + 1)) := by
  intro ts hts hb
  have hmethod (async : Bool) (f : Function → Property) : Safe b
      (do
        let m ← method n none async
        return f m)
      (do
        let m ← method k none async
        return f m) := ((h.method none async).safe (by decide)).bind fun _ => .pure _
  rw [property, property]
  refine .eatPunct (b := b) ⟨hts, by omega⟩ ((safe_assignment h).map _) (.look (run_get ts) ?_)
  refine Takes.first safe_advance (fun ts hts hb => .look (run_kind ts) ?_) ts hts hb
  have hfront : Front b ts := ⟨hts, by omega⟩
  split
  case h_4 =>
    refine (h.keyInBrackets ts hts (by omega)).next hfront fun key => ?_
    refine (safe_eatPunct ":").bind fun _ => .ite ((safe_assignment h).map _) ?_
    exact (safe_isPunct "(").bind fun _ => .ite (hmethod _ _) safe_unexpected
  case h_5 => exact settles_unexpected
  all_goals
    rename_i hkind
    exact .advance_of_kind hfront hkind nofun (h.namedProperty _ _ _)

theorem safe_namedProperty (async : Bool) (key : String) (alone : Bool) :
    Safe (b + 1) (namedProperty (n + 1) async key alone)
      (namedProperty (k + 1) async key alone) := by
  intro ts hts hb
  have hfront : Front b ts := ⟨hts, by omega⟩
  rw [namedProperty, namedProperty]
  refine .eatPunct hfront ((safe_assignment h).map _) (.look (run_isPunct "(" ts) ?_)
  split
  · exact (h.method (some key) async ts hts (by omega)).next hfront fun _ => .pure _
  split
  · exact .pure _ hts
  · exact settles_unexpected

theorem takes_method (name : Option String) (async : Bool) :
    Takes (b + 1) 1 (method (n + 1) name async) (method (k + 1) name async) := by
  intro ts hts hb
  rw [method, method]
  refine (h.params ts hts (by omega)).next (b := b) ⟨hts, by omega⟩ fun ps => ?_
  exact (safe_block h).bind fun _ => .pure _

theorem progress_succ : Progress (b + 1) (n + 1) (k + 1) where
  left_le := Nat.succ_le_succ h.left_le
  right_le := Nat.succ_le_succ h.right_le
  statement := takes_statement h
  wordStatement w _ := settles_wordStatement h w
  expressionStatement := takes_expressionStatement h
  declaration := takes_declaration h
  declarator := takes_declarator h
  initializer := safe_initializer h
  block := takes_block h
  blockRest := safe_blockRest h
  forStatement := takes_forStatement h
  forParts := safe_forParts h
  tryStatement := takes_tryStatement h
  bindingPattern := takes_bindingPattern h
  objectPattern hi hj := safe_objectPattern h hi hj
  binding := takes_binding h
  param := takes_param h
  params := takes_params h
  functionRest := safe_functionRest h
  arrow := takes_arrow h
  assignment := takes_assignment h
  conditional := takes_conditional h
  binary := takes_binary h
  binaryRest := safe_binaryRest h
  unary := takes_unary h
  element := takes_element h
  arguments := takes_arguments h
  callMember := takes_callMember h
  chain := safe_chain h
  keyInBrackets := takes_keyInBrackets h
  construct := takes_construct h
  constructor := safe_constructor h
  primary := takes_primary h
  templateParts done hb _ := settles_templateParts h done hb
  property := takes_property h
  namedProperty := safe_namedProperty h
  method := takes_method h

end Rules

/-- With fuel that is enough, every rule comes to the same end whatever the fuel. -/
theorem progress (b n k : Nat) (hn : b ≤ n) (hk : b ≤ k) : Progress b n k := by
  induction b generalizing n k with
  | zero => exact progress_zero n k
  | succ b ih =>
    obtain ⟨n, rfl⟩ : ∃ n', n = n' + 1 := ⟨n - 1, by omega⟩
    obtain ⟨k, rfl⟩ : ∃ k', k = k' + 1 := ⟨k - 1, by omega⟩
    exact progress_succ (ih n k (by omega) (by omega))

/-- A script ends with its tokens, and each of its statements takes some of them. -/
theorem safe_program {b n k : Nat} (hn : b ≤ n) (hk : b ≤ k) {i j : Nat} (hi : b ≤ 16 * i)
    (hj : b ≤ 16 * j) (done : List Stmt) : Safe b (program n i done) (program k j done) := by
  induction i generalizing b j done with
  | zero =>
    obtain rfl : b = 0 := Nat.le_zero.mp hi
    exact .zero
  | succ i ih =>
    intro ts hts hb
    obtain ⟨j, rfl⟩ : ∃ j', j = j' + 1 := ⟨j - 1, by omega⟩
    rw [program, program]
    refine .look (run_kind ts) ?_
    split
    · exact .pure _ hts
    · refine ((progress b n k hn hk).statement ts hts (by omega)).next (Safe.front hts hb) ?_
      exact fun s => ih (by omega) (by omega) (by omega) (by omega) (s :: done)

/-- A script has been read when nothing but the end is left. -/
theorem program_eof {fuel rounds : Nat} {done body : List Stmt} {ts rest : List Token}
    (h : program fuel rounds done ts = .ok (body, rest)) : (kindAt rest 0).isEof = true := by
  induction rounds generalizing done ts with
  | zero => cases h
  | succ rounds ih =>
    rw [program, run_bind (run_kind ts)] at h
    split at h
    · rename_i heof
      cases h
      exact heof
    · cases hread : statement fuel ts with
      | error e =>
        change Except.bind (statement fuel ts) _ = _ at h
        rw [hread] at h
        cases h
      | ok r =>
        obtain ⟨s, mid⟩ := r
        rw [run_bind hread] at h
        exact ih h

/-! ### What comes of a rule and of a script -/

/-- On the stream, the rule comes to one end with all fuel that is enough.  Either it leaves an end
of the stream that is shorter and still ends with the end, or it fails, and not for want of fuel. -/
def Advances {α : Type} (rule : Nat → Parse α) (ts : List Token) : Prop :=
  ∃ outcome, (∀ fuel, 16 * (weight ts + 1) ≤ fuel → rule fuel ts = outcome) ∧
    match outcome with
    | .ok (_, rest) => Ended rest ∧ rest <:+ ts ∧ rest.length < ts.length
    | .error e => e.cause ≠ .tooDeep

theorem advances_of_takes {α : Type} {rule : Nat → Parse α} {rank : Nat} (hrank : rank ≤ 15)
    (h : ∀ {b n k : Nat}, Progress b n k → Takes b rank (rule n) (rule k)) {ts : List Token}
    (hts : Ended ts) : Advances rule ts := by
  have hends (k : Nat) (hk : 16 * (weight ts + 1) ≤ k) :=
    h (progress _ _ k (Nat.le_refl _) hk) ts hts (by omega)
  refine ⟨rule (16 * (weight ts + 1)) ts, fun k hk => (hends k hk).1, ?_⟩
  have hleft := (hends _ (Nat.le_refl _)).2
  generalize rule (16 * (weight ts + 1)) ts = outcome at hleft ⊢
  cases outcome with
  | error e => exact hleft
  | ok r => exact ⟨hleft.ended hts, hleft.suffix, hleft.length_lt⟩

/-- Reading the tokens of the script comes to one end with all fuel and all rounds that are enough:
statements, and then nothing but the end is left; or an error, but not for want of fuel. -/
def ReadThrough (source : String) (ts : List Token) : Prop :=
  ∃ outcome,
    (∀ fuel rounds, depthBound source.length ≤ fuel → depthBound source.length ≤ rounds →
      program fuel rounds [] ts = outcome) ∧
    match outcome with
    | .ok (body, rest) => parse source = .ok body ∧ ∃ eof, rest = [eof] ∧ eof.kind = .eof
    | .error e => parse source = .error e ∧ e.cause ≠ .tooDeep

theorem readThrough_of_tokenize {source : String} {ts : List Token}
    (htokens : tokenize source = .ok ts) : ReadThrough source ts := by
  have hts := ended_tokenizeAt htokens
  have hweight := weight_tokenizeAt htokens
  have hbound : depthBound source.length = 16 * (source.length + 4) := rfl
  have hends (n i : Nat) (hn : depthBound source.length ≤ n) (hi : depthBound source.length ≤ i) :=
    safe_program (Nat.le_refl _) hn (i := depthBound source.length) (by omega)
      (show depthBound source.length ≤ 16 * i by omega) [] ts hts (by omega)
  refine ⟨_, fun n i hn hi => (hends n i hn hi).1, ?_⟩
  have hleft := (hends _ _ (Nat.le_refl _) (Nat.le_refl _)).2
  generalize houtcome : program _ _ [] ts = outcome at hleft ⊢
  cases outcome with
  | error e => exact ⟨by simp only [parse, htokens, houtcome], hleft⟩
  | ok r =>
    have heof := Token.Kind.eq_eof_of_isEof (program_eof houtcome)
    exact ⟨by simp only [parse, htokens, houtcome], (hleft.ended hts).eq_singleton heof⟩

/-- **The parser always makes progress.**  On every stream that ends with the end, each rule comes
to an end: it takes at least one token and leaves the end, or it fails.  No step goes past the end,
and passing over an import stops there at the latest.  Every text is cut into tokens that end with
the end, or it fails where it is cut; the holes of its templates, however deep they are nested, are
shorter than the text.  So a script becomes a tree, and then all its tokens have been read, or it
fails. -/
theorem parser_makes_progress :
    (∀ ts, Ended ts →
      Advances statement ts ∧ Advances block ts ∧ Advances bindingPattern ts ∧
      Advances params ts ∧ Advances assignment ts ∧
      (∀ level, Advances (fun fuel => binary fuel level) ts) ∧
      Advances unary ts ∧ Advances callMember ts ∧ Advances primary ts ∧
      (∃ rest, advance ts = .ok ((), rest) ∧ Ended rest ∧ rest <:+ ts) ∧
      ∀ fuel, ts.length ≤ fuel → skipImport fuel ts = skipImport ts.length ts) ∧
    (∀ place source,
      (∀ fuel, source.length < fuel →
        Scan.tokens fuel [] ⟨source.toList, place⟩ = tokenizeAt place source) ∧
      (match tokenizeAt place source with
        | .ok ts => Ended ts
        | .error e => e.cause ≠ .tooDeep) ∧
      ∀ hole inner, Nested place source hole inner → inner.length < source.length) ∧
    ∀ source, match tokenize source with
      | .ok ts => ReadThrough source ts
      | .error e => parse source = .error e := by
  refine ⟨fun ts hts => ?_, fun place source => ⟨fun fuel hfuel => ?_, ?_, ?_⟩, fun source => ?_⟩
  · refine ⟨advances_of_takes (by decide) (·.statement) hts,
      advances_of_takes (by decide) (·.block) hts,
      advances_of_takes (by decide) (·.bindingPattern) hts,
      advances_of_takes (by decide) (·.params) hts,
      advances_of_takes (by decide) (·.assignment) hts,
      fun level => advances_of_takes (by decide) (·.binary level) hts,
      advances_of_takes (by decide) (·.unary) hts,
      advances_of_takes (by decide) (·.callMember) hts,
      advances_of_takes (by decide) (·.primary) hts, ?_, fun fuel hfuel => ?_⟩
    · by_cases hkind : kindAt ts 0 = .eof
      · exact ⟨ts, advance_eof hts hkind, hts, List.suffix_refl ts⟩
      · obtain ⟨rest, hrun, hrest⟩ := exists_advance hts hkind
        exact ⟨rest, hrun, hrest.ended hts, hrest.suffix⟩
    · exact skipImport_fuel hts hfuel (Nat.le_refl _)
  · rw [← String.length_toList] at hfuel
    exact Scan.tokens_fuel hfuel (Nat.lt_succ_self _)
  · split
    · rename_i htokens
      exact ended_tokenizeAt htokens
    · rename_i htokens
      exact ample_tokenizeAt htokens
  · exact fun hole inner h => h.length_lt
  · split
    · rename_i htokens
      exact readThrough_of_tokenize htokens
    · rename_i htokens
      rw [parse, htokens]

/-- A statement with a hole in a hole: its tokens end with the end, so it advances in them. -/
theorem parser_makes_progress_nested :
    let source := "if (a) b(`x$\x7bc + `$\x7bd\x7d`\x7d`)"
    ∃ ts, tokenize source = .ok ts ∧ Ended ts ∧ Advances statement ts ∧
      Advances (fun fuel => binary fuel 10) ts ∧ ReadThrough source ts ∧
      (parse source).isOk = true ∧ Nested .start source ⟨1, 21⟩ "d" ∧
      "d".length < source.length := by
  intro source
  obtain ⟨hrules, htext, hscript⟩ := parser_makes_progress
  have hok : (parse source).isOk = true := by decide +kernel
  have houter : HoleOf .start source ⟨1, 14⟩ "c + `$\x7bd\x7d`" := by decide +kernel
  have hinner : HoleOf ⟨1, 14⟩ "c + `$\x7bd\x7d`" ⟨1, 21⟩ "d" := by decide +kernel
  have hnested : Nested .start source ⟨1, 21⟩ "d" := .deeper (.outer houter) hinner
  obtain ⟨-, htokens, hholes⟩ := htext .start source
  have hscript := hscript source
  change (match tokenize source with | .ok ts => _ | .error e => _) at htokens
  cases hts : tokenize source with
  | error e =>
    rw [hts] at hscript
    rw [hscript] at hok
    cases hok
  | ok ts =>
    rw [hts] at hscript htokens
    have hrules := hrules ts htokens
    exact ⟨ts, rfl, htokens, hrules.1, hrules.2.2.2.2.2.1 10, hscript, hok, hnested,
      hholes _ _ hnested⟩

end BrowserLab.Script.Parse
