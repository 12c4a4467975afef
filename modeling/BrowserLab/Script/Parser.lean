import BrowserLab.Script.Syntax
import BrowserLab.Script.Token.Lexer

/-!
# From tokens to syntax trees

Each rule of the grammar is a function that takes tokens off the beginning of the list.  The last
token is the end, and it is never taken.  Fuel bounds how deep rules call each other; it is given by
the length of the source, which is more than enough.
-/

namespace BrowserLab.Script

/-- A rule of the grammar. -/
abbrev Parse (α : Type) := StateT (List Token) (Except SyntaxError) α

/-- Words that cannot be names. -/
def reserved : List String :=
  ["break", "case", "catch", "class", "const", "continue", "default", "delete", "do", "else",
    "export", "finally", "for", "function", "if", "import", "in", "instanceof", "let", "new",
    "return", "switch", "throw", "try", "typeof", "var", "void", "while", "yield"]

def isReserved (word : String) : Bool := reserved.contains word

namespace Token.Kind

def isPunct (k : Token.Kind) (p : String) : Bool :=
  match k with
  | .punct q => q == p
  | _ => false

def isWord (k : Token.Kind) (w : String) : Bool :=
  match k with
  | .word v => v == w
  | _ => false

def isEof : Token.Kind → Bool
  | .eof => true
  | _ => false

end Token.Kind

/-- The kind of the token `n` places further on; behind the end there is nothing but the end. -/
def kindAt (ts : List Token) (n : Nat) : Token.Kind :=
  match ts[n]? with
  | some t => t.kind
  | none => .eof

/-- The token behind the parenthesis that closes those open at `depth` levels. -/
def behindParentheses? (depth : Nat) : List Token → Option Token
  | [] => none
  | t :: rest =>
    if t.kind.isPunct "(" then behindParentheses? (depth + 1) rest
    else if t.kind.isPunct ")" then
      if depth ≤ 1 then rest.head? else behindParentheses? (depth - 1) rest
    else if t.kind.isEof then none
    else behindParentheses? depth rest

/-- Does an arrow function begin here, without the word that makes it asynchronous? -/
def arrowBegins (ts : List Token) : Bool :=
  match kindAt ts 0 with
  | .word w => !isReserved w && (kindAt ts 1).isPunct "=>"
  | .punct p =>
    p == "(" &&
      match behindParentheses? 0 ts with
      | some t => t.kind.isPunct "=>"
      | none => false
  | _ => false

/-- Does an asynchronous arrow function begin here? -/
def asyncArrowBegins (ts : List Token) : Bool :=
  (kindAt ts 0).isWord "async" && !(kindAt ts 1).isPunct "=>" &&
    (match ts[1]? with
      | some t => !t.newlineBefore
      | none => false) && arrowBegins (ts.drop 1)

/-- Does an asynchronous function expression or statement begin here? -/
def asyncFunctionBegins (ts : List Token) : Bool :=
  (kindAt ts 0).isWord "async" && (kindAt ts 1).isWord "function"

namespace Parse

/-- The next token. -/
def peek : Parse Token := do
  let ts ← get
  return ts.headD ⟨.eof, .start, false⟩

/-- The kind of the next token. -/
def kind : Parse Token.Kind := do
  let ts ← get
  return kindAt ts 0

/-- Goes past the next token, unless it is the end. -/
def advance : Parse Unit := fun ts =>
  match ts with
  | _ :: t :: rest => .ok ((), t :: rest)
  | ts => .ok ((), ts)

/-- An error at the next token. -/
def fail {α : Type} (cause : SyntaxCause) : Parse α := do
  let t ← peek
  throw ⟨cause, t.place⟩

/-- The next token is not what can stand there. -/
def unexpected {α : Type} : Parse α := do
  let t ← peek
  throw ⟨.unexpected t.kind, t.place⟩

/-- Is the next token this mark? -/
def isPunct (p : String) : Parse Bool := do
  let k ← kind
  return k.isPunct p

/-- Goes past this mark if it is next. -/
def eatPunct (p : String) : Parse Bool := do
  let found ← isPunct p
  if found then advance
  return found

/-- Goes past this word if it is next. -/
def eatWord (w : String) : Parse Bool := do
  let k ← kind
  if k.isWord w then
    advance
    return true
  return false

/-- Goes past this mark, which must be next. -/
def expectPunct (p : String) : Parse Unit := do
  if ← eatPunct p then return ()
  let k ← kind
  fail (.expected p k)

/-- A name. -/
def identifier : Parse String := do
  match ← kind with
  | .word w =>
    if isReserved w then unexpected
    else
      advance
      return w
  | _ => unexpected

/-- A word behind a point or before a colon. -/
def propertyName : Parse String := do
  match ← kind with
  | .word w =>
    advance
    return w
  | _ => unexpected

/-- Can a statement end before this token? -/
def endsStatement (t : Token) : Bool :=
  t.kind.isPunct ";" || t.kind.isPunct "\x7d" || t.kind.isEof || t.newlineBefore

/-- The end of a statement: a semicolon, or a place where one may be left out. -/
def semicolon : Parse Unit := do
  let t ← peek
  if t.kind.isPunct ";" then advance
  else if endsStatement t then return ()
  else unexpected

/-- Items up to a closing mark, with commas between them and perhaps behind the last. -/
def items {α : Type} (close : String) (item : Parse α) : Nat → List α → Parse (List α)
  | 0, _ => fail .tooDeep
  | fuel + 1, done => do
    if ← eatPunct close then return done.reverse
    let a ← item
    if ← eatPunct "," then items close item fuel (a :: done)
    else
      expectPunct close
      return (a :: done).reverse

/-- Items up to a closing mark as before, but a comma may stand where an item is missing. -/
def itemsWithHoles {α : Type} (close : String) (hole : α) (item : Parse α) :
    Nat → List α → Parse (List α)
  | 0, _ => fail .tooDeep
  | fuel + 1, done => do
    if ← eatPunct close then return done.reverse
    if ← eatPunct "," then itemsWithHoles close hole item fuel (hole :: done)
    else
      let a ← item
      if ← eatPunct "," then itemsWithHoles close hole item fuel (a :: done)
      else
        expectPunct close
        return (a :: done).reverse

/-- Items with commas between them. -/
def sequence {α : Type} (item : Parse α) : Nat → List α → Parse (List α)
  | 0, _ => fail .tooDeep
  | fuel + 1, done => do
    let a ← item
    if ← eatPunct "," then sequence item fuel (a :: done)
    else return (a :: done).reverse

/-- Goes past an import that was not taken out: up to the end of the line or a semicolon. -/
def skipImport : Nat → Parse Unit
  | 0 => return ()
  | fuel + 1 => do
    let t ← peek
    if t.kind.isEof || t.newlineBefore then return ()
    else if t.kind.isPunct ";" then advance
    else
      advance
      skipImport fuel

/-- The key word of a declaration, if one is next. -/
def declarationKind? : Parse (Option DeclarationKind) := do
  match ← kind with
  | .word "const" =>
    advance
    return some .const
  | .word "let" =>
    advance
    return some .lexical
  | .word "var" =>
    advance
    return some .var
  | _ => return none

/-- The expression in a hole of a template, which must fill the hole. -/
def hole (expression : Parse Expr) (source : String) (place : Place) : Parse Expr := fun outer =>
  match tokenizeAt place source with
  | .error e => .error e
  | .ok ts =>
    match expression ts with
    | .error e => .error e
    | .ok (e, rest) =>
      if (kindAt rest 0).isEof then .ok (e, outer)
      else (unexpected : Parse Expr) rest

/-- An infix operator. -/
inductive Infix where
  | binary (op : BinaryOp)
  | logical (op : LogicalOp)

/-- The infix operators and how tightly they bind. -/
def infix? (k : Token.Kind) : Option (Nat × Infix) :=
  match k with
  | .punct p =>
    match p with
    | "??" => some (1, .logical .nullish)
    | "||" => some (2, .logical .or)
    | "&&" => some (3, .logical .and)
    | "==" => some (6, .binary .eq)
    | "!=" => some (6, .binary .notEq)
    | "===" => some (6, .binary .strictEq)
    | "!==" => some (6, .binary .strictNotEq)
    | "<" => some (7, .binary .lt)
    | ">" => some (7, .binary .gt)
    | "<=" => some (7, .binary .ltEq)
    | ">=" => some (7, .binary .gtEq)
    | "+" => some (9, .binary .add)
    | "-" => some (9, .binary .sub)
    | "*" => some (10, .binary .mul)
    | "/" => some (10, .binary .div)
    | "%" => some (10, .binary .rem)
    | "**" => some (11, .binary .pow)
    | _ => none
  | .word "instanceof" => some (7, .binary .instanceOf)
  | .word "in" => some (7, .binary .isIn)
  | _ => none

/-- How tightly the right operand must bind: `**` groups to the right, all others to the left. -/
def Infix.rightLevel (op : Infix) (level : Nat) : Nat :=
  match op with
  | .binary .pow => level
  | _ => level + 1

def Infix.apply (op : Infix) (left right : Expr) : Expr :=
  match op with
  | .binary op => .binary op left right
  | .logical op => .logical op left right

/-- The operators that stand before their operand. -/
def unaryOp? : Token.Kind → Option UnaryOp
  | .punct "!" => some .not
  | .punct "-" => some .neg
  | .punct "+" => some .plus
  | .word "typeof" => some .typeof
  | .word "void" => some .void
  | .word "delete" => some .delete
  | _ => none

/-- The operators that assign. -/
def assignOp? : Token.Kind → Option AssignOp
  | .punct "=" => some .assign
  | .punct "+=" => some .add
  | .punct "-=" => some .sub
  | .punct "*=" => some .mul
  | .punct "/=" => some .div
  | _ => none

/-- Can the expression be assigned to? -/
def isTarget : Expr → Bool
  | .ident _ => true
  | .member _ _ _ => true
  | .index _ _ _ => true
  | _ => false

/-- Does the word only mark the method behind it as asynchronous? -/
def marksMethod (ts : List Token) : Bool :=
  (kindAt ts 0).isWord "async" &&
    !(kindAt ts 1).isPunct ":" && !(kindAt ts 1).isPunct "," && !(kindAt ts 1).isPunct "\x7d" &&
    !(kindAt ts 1).isPunct "("

mutual

/-- A statement. -/
def statement : Nat → Parse Stmt
  | 0 => fail .tooDeep
  | fuel + 1 => do
    let ts ← get
    match kindAt ts 0 with
    | .punct "\x7b" =>
      let body ← block fuel
      return .block body
    | .punct ";" =>
      advance
      return .empty
    | .word w =>
      if asyncFunctionBegins ts then
        advance
        advance
        let f ← functionRest fuel true true
        return .function f
      else wordStatement fuel w
    | _ => expressionStatement fuel

/-- A statement that begins with a word. -/
def wordStatement : Nat → String → Parse Stmt
  | 0, _ => fail .tooDeep
  | fuel + 1, w => do
    match w with
    | "export" =>
      advance
      if ← eatWord "default" then expressionStatement fuel
      else statement fuel
    | "import" =>
      advance
      let ts ← get
      skipImport ts.length
      return .empty
    | "const" => declaration fuel
    | "let" => declaration fuel
    | "var" => declaration fuel
    | "function" =>
      advance
      let f ← functionRest fuel false true
      return .function f
    | "return" =>
      advance
      let t ← peek
      let value ← if endsStatement t then pure none else some <$> assignment fuel
      semicolon
      return .ret value
    | "if" =>
      advance
      expectPunct "("
      let test ← assignment fuel
      expectPunct ")"
      let yes ← statement fuel
      let no ← if ← eatWord "else" then some <$> statement fuel else pure none
      return .ifElse test yes no
    | "for" => forStatement fuel
    | "while" =>
      advance
      expectPunct "("
      let test ← assignment fuel
      expectPunct ")"
      let body ← statement fuel
      return .whileLoop test body
    | "break" =>
      advance
      semicolon
      return .breakLoop
    | "continue" =>
      advance
      semicolon
      return .continueLoop
    | "throw" =>
      advance
      let value ← assignment fuel
      semicolon
      return .throw value
    | "try" => tryStatement fuel
    | "class" => fail (.unsupportedStatement w)
    | "switch" => fail (.unsupportedStatement w)
    | "do" => fail (.unsupportedStatement w)
    | _ => expressionStatement fuel

/-- An expression as a statement. -/
def expressionStatement : Nat → Parse Stmt
  | 0 => fail .tooDeep
  | fuel + 1 => do
    let e ← assignment fuel
    semicolon
    return .expr e

/-- A declaration as a statement. -/
def declaration : Nat → Parse Stmt
  | 0 => fail .tooDeep
  | fuel + 1 => do
    match ← declarationKind? with
    | none => unexpected
    | some kind =>
      let declarations ← sequence (declarator fuel) fuel []
      semicolon
      return .declare kind declarations

/-- A pattern and perhaps its value. -/
def declarator : Nat → Parse Declarator
  | 0 => fail .tooDeep
  | fuel + 1 => do
    let pattern ← bindingPattern fuel
    let init ← initializer fuel
    return .mk pattern init

/-- A value behind an equals sign, if there is one. -/
def initializer : Nat → Parse (Option Expr)
  | 0 => fail .tooDeep
  | fuel + 1 => do
    if ← eatPunct "=" then some <$> assignment fuel
    else return none

/-- Statements in braces. -/
def block : Nat → Parse (List Stmt)
  | 0 => fail .tooDeep
  | fuel + 1 => do
    expectPunct "\x7b"
    blockRest fuel []

/-- The statements of a block behind its brace. -/
def blockRest : Nat → List Stmt → Parse (List Stmt)
  | 0, _ => fail .tooDeep
  | fuel + 1, done => do
    let k ← kind
    if k.isPunct "\x7d" then
      advance
      return done.reverse
    else if k.isEof then fail .openBlock
    else
      let s ← statement fuel
      blockRest fuel (s :: done)

/-- A loop over a list, or a loop with three parts in its head. -/
def forStatement : Nat → Parse Stmt
  | 0 => fail .tooDeep
  | fuel + 1 => do
    advance
    let _ ← eatWord "await"
    expectPunct "("
    if ← isPunct ";" then forParts fuel none
    else
      match ← declarationKind? with
      | some kind =>
        let pattern ← bindingPattern fuel
        if ← eatWord "of" then
          let iterable ← assignment fuel
          expectPunct ")"
          let body ← statement fuel
          return .forOf kind pattern iterable body
        let k ← Parse.kind
        if k.isWord "in" then fail .keyLoop
        else
          let init ← initializer fuel
          let first := Declarator.mk pattern init
          let declarations ←
            if ← eatPunct "," then sequence (declarator fuel) fuel [first] else pure [first]
          forParts fuel (some (.declare kind declarations))
      | none =>
        let e ← assignment fuel
        forParts fuel (some (.expr e))

/-- The head of a loop from its first semicolon on, and the body. -/
def forParts : Nat → Option Stmt → Parse Stmt
  | 0, _ => fail .tooDeep
  | fuel + 1, init => do
    expectPunct ";"
    let test ← if ← isPunct ";" then pure none else some <$> assignment fuel
    expectPunct ";"
    let update ← if ← isPunct ")" then pure none else some <$> assignment fuel
    expectPunct ")"
    let body ← statement fuel
    return .forLoop init test update body

/-- A block that is guarded. -/
def tryStatement : Nat → Parse Stmt
  | 0 => fail .tooDeep
  | fuel + 1 => do
    advance
    let body ← block fuel
    let (param, handler) ←
      if ← eatWord "catch" then
        let param ←
          if ← eatPunct "(" then
            let p ← bindingPattern fuel
            expectPunct ")"
            pure (some p)
          else pure none
        let handler ← block fuel
        pure (param, some handler)
      else pure (none, none)
    let finalizer ← if ← eatWord "finally" then some <$> block fuel else pure none
    if handler.isNone && finalizer.isNone then fail .unguardedTry
    else return .attempt body param handler finalizer

/-- What a value is bound to. -/
def bindingPattern : Nat → Parse Pattern
  | 0 => fail .tooDeep
  | fuel + 1 => do
    if ← eatPunct "\x7b" then objectPattern fuel fuel [] none
    else if ← eatPunct "[" then
      let ps ← itemsWithHoles "]" none (some <$> param fuel) fuel []
      return .array ps
    else
      let name ← identifier
      return .ident name

/-- The properties of an object pattern behind its brace. -/
def objectPattern : Nat → Nat → List Binding → Option String → Parse Pattern
  | 0, _, _, _ => fail .tooDeep
  | _, 0, _, _ => fail .tooDeep
  | fuel + 1, rounds + 1, done, rest => do
    if ← eatPunct "\x7d" then return .object done.reverse rest
    let (done, rest) ←
      if ← eatPunct "..." then
        let name ← identifier
        pure (done, some name)
      else
        let b ← binding fuel
        pure (b :: done, rest)
    if ← eatPunct "," then objectPattern fuel rounds done rest
    else
      expectPunct "\x7d"
      return .object done.reverse rest

/-- A property of an object pattern. -/
def binding : Nat → Parse Binding
  | 0 => fail .tooDeep
  | fuel + 1 => do
    let key ←
      match ← kind with
      | .string s =>
        advance
        pure s
      | _ => propertyName
    let target ← if ← eatPunct ":" then bindingPattern fuel else pure (.ident key)
    let default ← initializer fuel
    return .mk key target default

/-- A parameter. -/
def param : Nat → Parse Param
  | 0 => fail .tooDeep
  | fuel + 1 => do
    let rest ← eatPunct "..."
    let pattern ← bindingPattern fuel
    let default ← initializer fuel
    return .mk pattern default rest

/-- Parameters in parentheses. -/
def params : Nat → Parse (List Param)
  | 0 => fail .tooDeep
  | fuel + 1 => do
    expectPunct "("
    items ")" (param fuel) fuel []

/-- What follows the word `function`. -/
def functionRest : Nat → Bool → Bool → Parse Function
  | 0, _, _ => fail .tooDeep
  | fuel + 1, async, named => do
    let name ←
      match ← kind with
      | .word _ => some <$> identifier
      | _ => if named then fail .namelessFunction else pure none
    let ps ← params fuel
    let body ← block fuel
    return .mk name ps (.block body) false async

/-- An arrow function, of which the beginning has been seen. -/
def arrow : Nat → Bool → Parse Expr
  | 0, _ => fail .tooDeep
  | fuel + 1, async => do
    if async then advance
    let ps ←
      if ← isPunct "(" then params fuel
      else
        let name ← identifier
        pure [Param.mk (.ident name) none false]
    expectPunct "=>"
    let body ← if ← isPunct "\x7b" then .block <$> block fuel else .expr <$> assignment fuel
    return .function (.mk none ps body true async)

/-- An expression. -/
def assignment : Nat → Parse Expr
  | 0 => fail .tooDeep
  | fuel + 1 => do
    let ts ← get
    if asyncArrowBegins ts then arrow fuel true
    else if arrowBegins ts then arrow fuel false
    else
      let target ← conditional fuel
      match assignOp? (← kind) with
      | none => return target
      | some op =>
        if !isTarget target then fail .badTarget
        else
          advance
          let value ← assignment fuel
          return .assign op target value

/-- A choice between two expressions, or an expression that binds tighter. -/
def conditional : Nat → Parse Expr
  | 0 => fail .tooDeep
  | fuel + 1 => do
    let test ← binary fuel 1
    if ← eatPunct "?" then
      let yes ← assignment fuel
      expectPunct ":"
      let no ← assignment fuel
      return .conditional test yes no
    else return test

/-- An expression of infix operators that bind at least as tightly as the level. -/
def binary : Nat → Nat → Parse Expr
  | 0, _ => fail .tooDeep
  | fuel + 1, level => do
    let left ← unary fuel
    binaryRest fuel level left

/-- The infix operators behind an operand. -/
def binaryRest : Nat → Nat → Expr → Parse Expr
  | 0, _, _ => fail .tooDeep
  | fuel + 1, level, left => do
    match infix? (← kind) with
    | none => return left
    | some (tightness, op) =>
      if tightness < level then return left
      else
        advance
        let right ← binary fuel (op.rightLevel tightness)
        binaryRest fuel level (op.apply left right)

/-- An operand with what stands directly before or behind it. -/
def unary : Nat → Parse Expr
  | 0 => fail .tooDeep
  | fuel + 1 => do
    let k ← kind
    match unaryOp? k with
    | some op =>
      advance
      let e ← unary fuel
      return .unary op e
    | none =>
      if k.isWord "await" then
        advance
        let e ← unary fuel
        return .await e
      else if k.isPunct "++" || k.isPunct "--" then
        advance
        let e ← unary fuel
        return .update (k.isPunct "++") true e
      else
        let e ← callMember fuel
        let t ← peek
        if (t.kind.isPunct "++" || t.kind.isPunct "--") && !t.newlineBefore then
          advance
          return .update (t.kind.isPunct "++") false e
        else return e

/-- An argument or an item of an array. -/
def element : Nat → Parse Element
  | 0 => fail .tooDeep
  | fuel + 1 => do
    if ← eatPunct "..." then .spread <$> assignment fuel
    else .item <$> assignment fuel

/-- Arguments in parentheses. -/
def arguments : Nat → Parse (List Element)
  | 0 => fail .tooDeep
  | fuel + 1 => do
    expectPunct "("
    items ")" (element fuel) fuel []

/-- A chain of members, indexes and calls. -/
def callMember : Nat → Parse Expr
  | 0 => fail .tooDeep
  | fuel + 1 => do
    let k ← kind
    let e ← if k.isWord "new" then construct fuel else primary fuel
    chain fuel e

/-- The links of a chain behind an expression. -/
def chain : Nat → Expr → Parse Expr
  | 0, _ => fail .tooDeep
  | fuel + 1, e => do
    match ← kind with
    | .punct "." =>
      advance
      let name ← propertyName
      chain fuel (.member e name false)
    | .punct "?." =>
      advance
      match ← kind with
      | .punct "(" =>
        let args ← arguments fuel
        chain fuel (.call e args true)
      | .punct "[" =>
        let key ← keyInBrackets fuel
        chain fuel (.index e key true)
      | _ =>
        let name ← propertyName
        chain fuel (.member e name true)
    | .punct "[" =>
      let key ← keyInBrackets fuel
      chain fuel (.index e key false)
    | .punct "(" =>
      let args ← arguments fuel
      chain fuel (.call e args false)
    | _ => return e

/-- An expression in brackets. -/
def keyInBrackets : Nat → Parse Expr
  | 0 => fail .tooDeep
  | fuel + 1 => do
    advance
    let key ← assignment fuel
    expectPunct "]"
    return key

/-- A construction from the word `new` on. -/
def construct : Nat → Parse Expr
  | 0 => fail .tooDeep
  | fuel + 1 => do
    advance
    let callee ← primary fuel
    let callee ← constructor fuel callee
    let args ← if ← isPunct "(" then arguments fuel else pure []
    return .construct callee args

/-- The members and indexes of what is constructed. -/
def constructor : Nat → Expr → Parse Expr
  | 0, _ => fail .tooDeep
  | fuel + 1, e => do
    match ← kind with
    | .punct "." =>
      advance
      let name ← propertyName
      constructor fuel (.member e name false)
    | .punct "[" =>
      let key ← keyInBrackets fuel
      constructor fuel (.index e key false)
    | _ => return e

/-- An expression that no operator takes apart. -/
def primary : Nat → Parse Expr
  | 0 => fail .tooDeep
  | fuel + 1 => do
    let ts ← get
    match kindAt ts 0 with
    | .number x =>
      advance
      return .number x
    | .string s =>
      advance
      return .string s
    | .template chunks =>
      advance
      let parts ← templateParts fuel chunks []
      return .template parts
    | .punct "(" =>
      advance
      let e ← assignment fuel
      expectPunct ")"
      return e
    | .punct "[" =>
      advance
      let es ← itemsWithHoles "]" (.item .undefined) (element fuel) fuel []
      return .array es
    | .punct "\x7b" =>
      advance
      let ps ← items "\x7d" (property fuel) fuel []
      return .object ps
    | .word "true" =>
      advance
      return .bool true
    | .word "false" =>
      advance
      return .bool false
    | .word "null" =>
      advance
      return .null
    | .word "undefined" =>
      advance
      return .undefined
    | .word "function" =>
      advance
      let f ← functionRest fuel false false
      return .function f
    | .word "class" => fail .classExpression
    | .word _ =>
      if asyncFunctionBegins ts then
        advance
        advance
        let f ← functionRest fuel true false
        return .function f
      else
        let name ← identifier
        return .ident name
    | _ => unexpected

/-- The parts of a template. -/
def templateParts : Nat → List Chunk → List TemplatePart → Parse (List TemplatePart)
  | 0, _, _ => fail .tooDeep
  | _, [], done => return done.reverse
  | fuel + 1, .text s :: rest, done => templateParts fuel rest (.text s :: done)
  | fuel + 1, .hole source place :: rest, done => do
    let e ← hole (assignment fuel) source place
    templateParts fuel rest (.hole e :: done)

/-- A member of an object literal. -/
def property : Nat → Parse Property
  | 0 => fail .tooDeep
  | fuel + 1 => do
    if ← eatPunct "..." then .spread <$> assignment fuel
    else
      let ts ← get
      let async := marksMethod ts
      if async then advance
      match ← kind with
      | .word w =>
        advance
        namedProperty fuel async w (!isReserved w)
      | .string s =>
        advance
        namedProperty fuel async s false
      | .number x =>
        advance
        namedProperty fuel async (Number.keyText x) false
      | .punct "[" =>
        let key ← keyInBrackets fuel
        if ← eatPunct ":" then .computed key <$> assignment fuel
        else if ← isPunct "(" then
          let f ← method fuel none async
          return .computed key (.function f)
        else unexpected
      | _ => unexpected

/-- A member of an object literal behind its key, which may stand for itself. -/
def namedProperty : Nat → Bool → String → Bool → Parse Property
  | 0, _, _, _ => fail .tooDeep
  | fuel + 1, async, key, alone => do
    if ← eatPunct ":" then .named key <$> assignment fuel
    else if ← isPunct "(" then
      let f ← method fuel (some key) async
      return .named key (.function f)
    else if alone then return .named key (.ident key)
    else unexpected

/-- The parameters and the body of a method. -/
def method : Nat → Option String → Bool → Parse Function
  | 0, _, _ => fail .tooDeep
  | fuel + 1, name, async => do
    let ps ← params fuel
    let body ← block fuel
    return .mk name ps (.block body) false async

end

/-- Statements up to the end. -/
def program (fuel : Nat) : Nat → List Stmt → Parse (List Stmt)
  | 0, _ => fail .tooDeep
  | rounds + 1, done => do
    let k ← kind
    if k.isEof then return done.reverse
    else
      let s ← statement fuel
      program fuel rounds (s :: done)

/-- How deep the rules can call each other on a text of the given length. -/
def depthBound (length : Nat) : Nat := 16 * (length + 4)

end Parse

/-- The statements of a script. -/
def parse (source : String) : Except SyntaxError (List Stmt) :=
  match tokenize source with
  | .error e => .error e
  | .ok ts =>
    let fuel := Parse.depthBound source.length
    match Parse.program fuel fuel [] ts with
    | .error e => .error e
    | .ok (body, _) => .ok body

end BrowserLab.Script
