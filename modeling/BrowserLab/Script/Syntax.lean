import BrowserLab.Script.Token

/-!
# Syntax trees

The statements and expressions of the scripting language.
-/

namespace BrowserLab.Script

/-- The key word of a declaration. -/
inductive DeclarationKind where
  | const
  | lexical
  | var
  deriving DecidableEq, Repr, Inhabited

inductive UnaryOp where
  | not
  | neg
  | plus
  | typeof
  | void
  | delete
  deriving DecidableEq, Repr, Inhabited

inductive BinaryOp where
  | add
  | sub
  | mul
  | div
  | rem
  | pow
  | eq
  | notEq
  | strictEq
  | strictNotEq
  | lt
  | gt
  | ltEq
  | gtEq
  | isIn
  | instanceOf
  deriving DecidableEq, Repr, Inhabited

inductive LogicalOp where
  | and
  | or
  | nullish
  deriving DecidableEq, Repr, Inhabited

inductive AssignOp where
  | assign
  | add
  | sub
  | mul
  | div
  deriving DecidableEq, Repr, Inhabited

mutual

/-- An expression.  `optional` marks a link of a chain that stops at a missing value. -/
inductive Expr where
  | number (x : Float)
  | string (s : String)
  | template (parts : List TemplatePart)
  | bool (b : Bool)
  | null
  | undefined
  | ident (name : String)
  | array (items : List Element)
  | object (properties : List Property)
  | function (f : Function)
  | member (object : Expr) (property : String) (optional : Bool)
  | index (object key : Expr) (optional : Bool)
  | call (callee : Expr) (args : List Element) (optional : Bool)
  | construct (callee : Expr) (args : List Element)
  | unary (op : UnaryOp) (operand : Expr)
  | update (increment before : Bool) (target : Expr)
  | binary (op : BinaryOp) (left right : Expr)
  | logical (op : LogicalOp) (left right : Expr)
  | conditional (test yes no : Expr)
  | assign (op : AssignOp) (target value : Expr)
  | await (e : Expr)

inductive TemplatePart where
  | text (s : String)
  | hole (e : Expr)

/-- An item of an array or an argument of a call. -/
inductive Element where
  | item (e : Expr)
  | spread (e : Expr)

/-- A member of an object literal. -/
inductive Property where
  | named (key : String) (value : Expr)
  | computed (key value : Expr)
  | spread (e : Expr)

/-- A function: its name, its parameters, what it does and how it is marked. -/
inductive Function where
  | mk (name : Option String) (params : List Param) (body : Body) (arrow async : Bool)

inductive Body where
  | block (statements : List Stmt)
  | expr (e : Expr)

/-- What a value is bound to. -/
inductive Pattern where
  | ident (name : String)
  | object (bindings : List Binding) (rest : Option String)
  | array (items : List (Option Param))

/-- A property taken out of an object. -/
inductive Binding where
  | mk (key : String) (target : Pattern) (default : Option Expr)

/-- A parameter of a function or an item of an array pattern. -/
inductive Param where
  | mk (pattern : Pattern) (default : Option Expr) (rest : Bool)

/-- A statement. -/
inductive Stmt where
  | expr (e : Expr)
  | declare (kind : DeclarationKind) (declarations : List Declarator)
  | function (f : Function)
  | ret (e : Option Expr)
  | ifElse (test : Expr) (yes : Stmt) (no : Option Stmt)
  | forOf (kind : DeclarationKind) (pattern : Pattern) (iterable : Expr) (body : Stmt)
  | forLoop (init : Option Stmt) (test update : Option Expr) (body : Stmt)
  | whileLoop (test : Expr) (body : Stmt)
  | breakLoop
  | continueLoop
  | throw (e : Expr)
  | attempt (block : List Stmt) (param : Option Pattern) (handler finalizer : Option (List Stmt))
  | block (statements : List Stmt)
  | empty

/-- A pattern and the value it is declared with. -/
inductive Declarator where
  | mk (pattern : Pattern) (init : Option Expr)

end

instance : Inhabited Expr := ⟨.undefined⟩
instance : Inhabited Stmt := ⟨.empty⟩
instance : Inhabited Pattern := ⟨.ident ""⟩
instance : Inhabited Function := ⟨.mk none [] (.block []) false false⟩
instance : Inhabited Element := ⟨.item .undefined⟩
instance : Inhabited Param := ⟨.mk (.ident "") none false⟩

namespace Function

def name? : Function → Option String
  | .mk name _ _ _ _ => name

def params : Function → List Param
  | .mk _ params _ _ _ => params

def body : Function → Body
  | .mk _ _ body _ _ => body

def isArrow : Function → Bool
  | .mk _ _ _ arrow _ => arrow

def isAsync : Function → Bool
  | .mk _ _ _ _ async => async

end Function

/-- The expression named for a reader. -/
def Expr.describe (e : Expr) : String :=
  match e with
  | .ident name => name
  | .member e name _ => describe e ++ "." ++ name
  | .index e _ _ => describe e ++ "[...]"
  | .call e _ _ => describe e ++ "(...)"
  | .string s => "\"" ++ s ++ "\""
  | .number x => Number.plain x
  | _ => "expression"

namespace UnaryOp

def text : UnaryOp → String
  | .not => "!"
  | .neg => "-"
  | .plus => "+"
  | .typeof => "typeof"
  | .void => "void"
  | .delete => "delete"

end UnaryOp

namespace BinaryOp

def text : BinaryOp → String
  | .add => "+"
  | .sub => "-"
  | .mul => "*"
  | .div => "/"
  | .rem => "%"
  | .pow => "**"
  | .eq => "=="
  | .notEq => "!="
  | .strictEq => "==="
  | .strictNotEq => "!=="
  | .lt => "<"
  | .gt => ">"
  | .ltEq => "<="
  | .gtEq => ">="
  | .isIn => "in"
  | .instanceOf => "instanceof"

end BinaryOp

def LogicalOp.text : LogicalOp → String
  | .and => "&&"
  | .or => "||"
  | .nullish => "??"

def AssignOp.text : AssignOp → String
  | .assign => "="
  | .add => "+="
  | .sub => "-="
  | .mul => "*="
  | .div => "/="

def DeclarationKind.text : DeclarationKind → String
  | .const => "const"
  | .lexical => "let"
  | .var => "var"

end BrowserLab.Script
