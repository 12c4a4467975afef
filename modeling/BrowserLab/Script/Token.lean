import BrowserLab.Number.Text

/-!
# Tokens

What a script's text is made of, and all the reasons why a text is not a script.
-/

namespace BrowserLab.Script

/-- A place in a text: lines and columns count characters from 1. -/
structure Place where
  line : Nat
  column : Nat
  deriving DecidableEq, Repr, Inhabited

namespace Place

def start : Place := ⟨1, 1⟩

/-- The place behind a character. -/
def past (p : Place) (c : Char) : Place :=
  if c = '\n' then ⟨p.line + 1, 1⟩ else ⟨p.line, p.column + 1⟩

/-- The place behind a piece of text. -/
def pastAll (p : Place) (cs : List Char) : Place := cs.foldl past p

end Place

/-- A piece of a template literal: text, or the source of a hole and where it begins. -/
inductive Chunk where
  | text (s : String)
  | hole (source : String) (place : Place)
  deriving DecidableEq, Repr, Inhabited

/-- What a token is.  Names and key words are both words. -/
inductive Token.Kind where
  | number (x : Float)
  | string (s : String)
  | template (chunks : List Chunk)
  | word (s : String)
  | punct (s : String)
  | eof
  deriving Repr, Inhabited

/-- A token, where it begins, and whether a line ends between it and the token before it. -/
structure Token where
  kind : Token.Kind
  place : Place
  newlineBefore : Bool
  deriving Repr, Inhabited

/-- The token named for a reader. -/
def Token.Kind.describe : Token.Kind → String
  | .number x => "number " ++ Number.plain x
  | .string _ => "string"
  | .template _ => "template literal"
  | .word s => "'" ++ s ++ "'"
  | .punct s => "'" ++ s ++ "'"
  | .eof => "end of input"

/-- Why a text is not a script. -/
inductive SyntaxCause where
  | openComment
  | openString
  | openTemplate
  | openHole
  | badHexadecimal
  | badNumber (text : String)
  | badUnicode
  | strayCharacter (c : Char)
  | expected (punct : String) (found : Token.Kind)
  | unexpected (found : Token.Kind)
  | openBlock
  | unsupportedStatement (word : String)
  | keyLoop
  | unguardedTry
  | namelessFunction
  | badTarget
  | classExpression
  | tooDeep
  deriving Repr, Inhabited

def SyntaxCause.message : SyntaxCause → String
  | .openComment => "Unterminated comment"
  | .openString => "Unterminated string literal"
  | .openTemplate => "Unterminated template literal"
  | .openHole => "Unterminated template expression"
  | .badHexadecimal => "Invalid hexadecimal literal"
  | .badNumber text => "Invalid number literal '" ++ text ++ "'"
  | .badUnicode => "Invalid unicode escape"
  | .strayCharacter c => "Unexpected character '" ++ c.toString ++ "'"
  | .expected punct found => "Expected '" ++ punct ++ "' but found " ++ found.describe
  | .unexpected .eof => "Unexpected end of input"
  | .unexpected found => "Unexpected token " ++ found.describe
  | .openBlock => "Expected '\x7d' but found end of input"
  | .unsupportedStatement word => "'" ++ word ++ "' statements are not supported"
  | .keyLoop => "for...in loops are not supported"
  | .unguardedTry => "Missing catch or finally after try"
  | .namelessFunction => "Function statements require a name"
  | .badTarget => "Invalid left-hand side in assignment"
  | .classExpression => "Classes are not supported"
  | .tooDeep => "Nesting too deep"

/-- Why and where a text is not a script. -/
structure SyntaxError where
  cause : SyntaxCause
  place : Place
  deriving Repr, Inhabited

def SyntaxError.message (e : SyntaxError) : String := e.cause.message

/-- The error for a reader. -/
def SyntaxError.text (e : SyntaxError) : String :=
  e.message ++ " (" ++ toString e.place.line ++ ":" ++ toString e.place.column ++ ")"

/-- The marks of the language, no mark behind one that it begins with. -/
def punctuators : List (List Char) :=
  ["...", "===", "!==", "**", "=>", "==", "!=", "<=", ">=", "&&", "||", "??", "?.", "++", "--",
    "+=", "-=", "*=", "/=", "\x7b", "\x7d", "(", ")", "[", "]", ";", ",", ".", ":", "?", "+", "-",
    "*", "/", "%", "<", ">", "=", "!", "&", "|"].map String.toList

end BrowserLab.Script
