import BrowserLab.Number.Reader
import BrowserLab.Script.Token
import BrowserLab.Text.Alphabetic
import BrowserLab.Text.Blank

/-!
# Cutting a text into tokens

Each step takes a piece off the beginning of the text and returns the rest and its place.  Between
tokens stand blanks and comments.  A template literal is one token: the source of its holes is kept
as text, which ends at the brace that closes the hole.
-/

namespace BrowserLab.Script

/-- What is left of a text, and where it begins. -/
structure Cursor where
  rest : List Char
  place : Place

/-- What a step gives: a result and where to go on. -/
abbrev Scan (α : Type) := Except SyntaxError (α × Cursor)

namespace Cursor

def start (cs : List Char) : Cursor := ⟨cs, .start⟩

/-- An error where the cursor stands. -/
def fail {α : Type} (c : Cursor) (cause : SyntaxCause) : Except SyntaxError α :=
  .error ⟨cause, c.place⟩

/-- Behind the next character, when `rest` follows it. -/
def past (c : Cursor) (next : Char) (rest : List Char) : Cursor := ⟨rest, c.place.past next⟩

/-- The longest piece of characters of a kind, and the cursor behind it. -/
def span (c : Cursor) (p : Char → Bool) : List Char × Cursor :=
  let (piece, rest) := c.rest.span p
  (piece, ⟨rest, c.place.pastAll piece⟩)

/-- Behind `n` characters. -/
def drop (c : Cursor) (n : Nat) : Cursor :=
  ⟨c.rest.drop n, c.place.pastAll (c.rest.take n)⟩

end Cursor

namespace Scan

/-- A character that a word can begin with. -/
def isWordStart (c : Char) : Bool := c = '_' || c = '$' || Text.isAlphabetic c

/-- A character that a word can go on with. -/
def isWordPart (c : Char) : Bool := isWordStart c || c.isDigit

/-- A digit in base 16. -/
def isHexDigit (c : Char) : Bool :=
  c.isDigit || ('a' ≤ c && c ≤ 'f') || ('A' ≤ c && c ≤ 'F')

/-- The value of a digit in base 16. -/
def hexDigitValue (c : Char) : Nat :=
  if c.isDigit then c.toNat - 48 else if 'a' ≤ c then c.toNat - 87 else c.toNat - 55

/-- The number that digits in base 16 write; there must be one, and no other character. -/
def hexNumber? (ds : List Char) : Option Nat :=
  if ds.isEmpty || !ds.all isHexDigit then none
  else some (ds.foldl (fun n d => 16 * n + hexDigitValue d) 0)

/-- Behind the next `*/`.  Also, does a line end before it? -/
def skipComment (newline : Bool) (c : Cursor) : Scan Bool :=
  go newline c.place c.rest
where
  go (newline : Bool) (place : Place) : List Char → Scan Bool
    | [] => .error ⟨.openComment, place⟩
    | '*' :: '/' :: rest => .ok (newline, ⟨rest, (place.past '*').past '/'⟩)
    | d :: rest => go (newline || d = '\n') (place.past d) rest

/-- Behind blanks and comments.  Also, does a line end in them?  Every round takes a character at
least, so more than the length of the text is fuel enough. -/
def skipTrivia (fuel : Nat) (newline : Bool) (c : Cursor) : Scan Bool :=
  match fuel with
  | 0 => .ok (newline, c)
  | fuel + 1 =>
    match c.rest with
    | '/' :: '/' :: _ => skipTrivia fuel newline (c.span (· ≠ '\n')).2
    | '/' :: '*' :: rest =>
      match skipComment newline ((c.past '/' []).past '*' rest) with
      | .error e => .error e
      | .ok (newline, c) => skipTrivia fuel newline c
    | d :: rest =>
      if Text.isBlank d then skipTrivia fuel (newline || d = '\n') (c.past d rest)
      else .ok (newline, c)
    | [] => .ok (newline, c)

/-- A number in base 16 behind its `0x`. -/
def hexadecimal (c : Cursor) : Scan Token.Kind :=
  let (ds, c) := c.span isHexDigit
  match hexNumber? ds with
  | some n => if n < Nat.pow 2 64 then .ok (.number (Float.ofNat n), c) else c.fail .badHexadecimal
  | none => c.fail .badHexadecimal

/-- Is the point the beginning of a fraction, judging by what follows it? -/
def pointOpensFraction : List Char → Bool
  | [] => true
  | d :: _ => d.isDigit || !isWordStart d

/-- How many characters stand before the digits of an exponent, if there is one. -/
def exponentMark? : List Char → Option Nat
  | e :: '+' :: d :: _ => if (e = 'e' || e = 'E') && d.isDigit then some 2 else none
  | e :: '-' :: d :: _ => if (e = 'e' || e = 'E') && d.isDigit then some 2 else none
  | e :: d :: _ => if (e = 'e' || e = 'E') && d.isDigit then some 1 else none
  | _ => none

/-- A number in base 10. -/
def decimal (c : Cursor) : Scan Token.Kind :=
  let (whole, c) := c.span fun d => d.isDigit || d = '_'
  let (fraction, c) :=
    match c.rest with
    | '.' :: rest =>
      if pointOpensFraction rest then
        let (ds, c) := (c.past '.' rest).span Char.isDigit
        ('.' :: ds, c)
      else ([], c)
    | _ => ([], c)
  let (exponent, c) :=
    match exponentMark? c.rest with
    | some n =>
      let (ds, after) := (c.drop n).span Char.isDigit
      (c.rest.take n ++ ds, after)
    | none => ([], c)
  let text := (whole ++ fraction ++ exponent).filter (· ≠ '_')
  match Number.unsigned? text with
  | some x => .ok (.number x, c)
  | none => c.fail (.badNumber (String.ofList text))

/-- A number. -/
def number (c : Cursor) : Scan Token.Kind :=
  match c.rest with
  | '0' :: 'x' :: _ => hexadecimal (c.drop 2)
  | '0' :: 'X' :: _ => hexadecimal (c.drop 2)
  | _ => decimal c

/-- The character with a number in base 16, before which a `+` may stand. -/
def unicode? (code : List Char) : Option Char :=
  let ds :=
    match code with
    | '+' :: ds => ds
    | ds => ds
  match hexNumber? ds with
  | some n => if n < 0xd800 || (0xdfff < n && n < 0x110000) then some (Char.ofNat n) else none
  | none => none

/-- The digits of a unicode escape, and the cursor behind them: what stands between braces, or else
four characters. -/
def unicodeDigits (c : Cursor) : List Char × Cursor :=
  match c.rest with
  | '\x7b' :: rest =>
    let (code, after) := (c.past '\x7b' rest).span (· ≠ '\x7d')
    (code, after.drop 1)
  | _ => (c.rest.take 4, c.drop 4)

/-- The character that an escape stands for, behind its backslash. -/
def escape (c : Cursor) : Scan Char :=
  match c.rest with
  | [] => c.fail .openString
  | d :: rest =>
    let after := c.past d rest
    if d = 'n' then .ok ('\n', after)
    else if d = 't' then .ok ('\t', after)
    else if d = 'r' then .ok ('\r', after)
    else if d = '0' then .ok (Char.ofNat 0, after)
    else if d = 'b' then .ok (Char.ofNat 8, after)
    else if d = 'f' then .ok (Char.ofNat 12, after)
    else if d = 'v' then .ok (Char.ofNat 11, after)
    else if d = 'u' then
      let (code, after) := unicodeDigits after
      match unicode? code with
      | some u => .ok (u, after)
      | none => after.fail .badUnicode
    else .ok (d, after)

/-- The characters of a string up to its closing quote; `done` holds those read, last first. -/
def stringBody (quote : Char) (fuel : Nat) (done : List Char) (c : Cursor) : Scan Token.Kind :=
  match fuel with
  | 0 => c.fail .openString
  | fuel + 1 =>
    match c.rest with
    | [] => c.fail .openString
    | '\n' :: rest => (c.past '\n' rest).fail .openString
    | '\\' :: '\n' :: rest => stringBody quote fuel done ((c.past '\\' []).past '\n' rest)
    | '\\' :: rest =>
      match escape (c.past '\\' rest) with
      | .error e => .error e
      | .ok (d, c) => stringBody quote fuel (d :: done) c
    | d :: rest =>
      if d = quote then .ok (.string (String.ofList done.reverse), c.past d rest)
      else stringBody quote fuel (d :: done) (c.past d rest)

/-- The source of a hole up to the brace that closes it.  `depth` braces have been opened in it, and
`quote` is the quote that is open; a quote escapes characters by a backslash. -/
def holeSource (depth : Nat) (quote : Option Char) (done : List Char) (place : Place) :
    List Char → Scan String
  | [] => .error ⟨.openHole, place⟩
  | d :: rest =>
    match quote with
    | some q =>
      if d = '\\' then
        match rest with
        | [] => .error ⟨.openHole, place.past d⟩
        | e :: rest => holeSource depth quote (e :: d :: done) ((place.past d).past e) rest
      else holeSource depth (if d = q then none else quote) (d :: done) (place.past d) rest
    | none =>
      if d = '\'' || d = '"' || d = '\x60' then
        holeSource depth (some d) (d :: done) (place.past d) rest
      else if d = '\x7b' then holeSource (depth + 1) none (d :: done) (place.past d) rest
      else if d = '\x7d' then
        match depth with
        | 0 => .ok (String.ofList done.reverse, ⟨rest, place.past d⟩)
        | depth + 1 => holeSource depth none (d :: done) (place.past d) rest
      else holeSource depth none (d :: done) (place.past d) rest

/-- The chunk of a piece of text, given last character first, unless it is empty. -/
def textChunk (text : List Char) : List Chunk :=
  if text.isEmpty then [] else [.text (String.ofList text.reverse)]

/-- The chunks of a template up to its closing quote.  `done` holds the chunks read, and `text` the
characters of the text under way, both last first. -/
def templateBody (fuel : Nat) (done : List Chunk) (text : List Char) (c : Cursor) :
    Scan Token.Kind :=
  match fuel with
  | 0 => c.fail .openTemplate
  | fuel + 1 =>
    match c.rest with
    | [] => c.fail .openTemplate
    | '\x60' :: rest =>
      let chunks := (textChunk text ++ done).reverse
      let chunks := if chunks.isEmpty then [.text ""] else chunks
      .ok (.template chunks, c.past '\x60' rest)
    | '\\' :: rest =>
      match escape (c.past '\\' rest) with
      | .error e => .error e
      | .ok (d, c) => templateBody fuel done (d :: text) c
    | '$' :: '\x7b' :: rest =>
      let open_ := (c.past '$' []).past '\x7b' rest
      match holeSource 0 none [] open_.place rest with
      | .error e => .error e
      | .ok (source, c) =>
        templateBody fuel (.hole source open_.place :: (textChunk text ++ done)) [] c
    | d :: rest => templateBody fuel done (d :: text) (c.past d rest)

/-- The mark at the beginning of the text: the first of the list that fits.  A digit behind `?.`
makes it a question mark and a fraction. -/
def punctuator? (cs : List Char) : Option (List Char) :=
  punctuators.find? fun p =>
    p.isPrefixOf cs &&
      !(p = ['?', '.'] && (match cs.drop 2 with
        | d :: _ => d.isDigit
        | [] => false))

/-- The token at the beginning of a text that is not empty and begins with neither blank nor
comment.  `fuel` exceeds the length of the text. -/
def tokenKind (fuel : Nat) (c : Cursor) : Scan Token.Kind :=
  match c.rest with
  | [] => .ok (.eof, c)
  | d :: rest =>
    let pointAndDigit := d = '.' && (match rest with
      | e :: _ => e.isDigit
      | [] => false)
    if d.isDigit || pointAndDigit then number c
    else if d = '"' || d = '\'' then stringBody d fuel [] (c.past d rest)
    else if d = '\x60' then templateBody fuel [] [] (c.past d rest)
    else if isWordStart d then
      let (w, c) := c.span isWordPart
      .ok (.word (String.ofList w), c)
    else
      match punctuator? c.rest with
      | some p => .ok (.punct (String.ofList p), c.drop p.length)
      | none => c.fail (.strayCharacter d)

/-- The tokens of a text, the last of which is the end.  `fuel` exceeds the length of the text. -/
def tokens (fuel : Nat) (done : List Token) (c : Cursor) : Except SyntaxError (List Token) :=
  match fuel with
  | 0 => c.fail .tooDeep
  | fuel + 1 =>
    match skipTrivia (fuel + 1) false c with
    | .error e => .error e
    | .ok (newline, c) =>
      match tokenKind (fuel + 1) c with
      | .error e => .error e
      | .ok (.eof, _) => .ok (⟨.eof, c.place, newline⟩ :: done).reverse
      | .ok (kind, after) => tokens fuel (⟨kind, c.place, newline⟩ :: done) after

end Scan

/-- The tokens of a text that begins at a place. -/
def tokenizeAt (place : Place) (source : String) : Except SyntaxError (List Token) :=
  let cs := source.toList
  Scan.tokens (cs.length + 1) [] ⟨cs, place⟩

/-- The tokens of a text. -/
def tokenize (source : String) : Except SyntaxError (List Token) := tokenizeAt .start source

end BrowserLab.Script
