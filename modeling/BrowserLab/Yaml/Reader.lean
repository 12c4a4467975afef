import BrowserLab.Yaml.Node

/-!
# Reading YAML

What belongs together is told by how deep lines are indented.  A list or a mapping is as deep as its
first dash or key, and what lies in it is deeper, except that the dashes of a list may stand right
below the key that has it.  Inside brackets, indentation does not matter.
-/

namespace BrowserLab.Yaml

/-- What is still to be read, how deep in its line it begins, and the parts that have names. -/
structure Source where
  rest : List Char
  column : Nat := 0
  anchors : List (String × Node) := []

/-- Reads something from the beginning of a source. -/
abbrev Reading (α : Type) := StateT Source Option α

namespace Reading

def fail {α : Type} : Reading α := fun _ => none

def rest : Reading (List Char) := return (← get).rest

def column : Reading Nat := return (← get).column

/-- Passes over characters of one line. -/
def pass (count : Nat) : Reading Unit :=
  modify fun s => { s with rest := s.rest.drop count, column := s.column + count }

/-- The characters up to the first that is not of the kind, all on one line. -/
def takeWhile (kind : Char → Bool) : Reading (List Char) := do
  let cs := (← rest).takeWhile kind
  pass cs.length
  return cs

def isBlank (c : Char) : Bool := c = ' ' || c = '\t'

/-- Passes over blanks. -/
def skipBlanks : Reading Unit := do
  let _ ← takeWhile isBlank

/-- Passes over a line break, if one comes next. -/
def newline? : Reading Bool := do
  let go (count : Nat) : Reading Bool := do
    modify fun s => { s with rest := s.rest.drop count, column := 0 }
    return true
  match ← rest with
  | '\r' :: '\n' :: _ => go 2
  | '\r' :: _ => go 1
  | '\n' :: _ => go 1
  | _ => return false

/-- Passes over a comment, if one comes next. -/
def skipComment : Reading Unit := do
  if (← rest).head? = some '#' then
    let _ ← takeWhile fun c => c ≠ '\n' && c ≠ '\r'

/-- Passes over spaces. -/
def skipSpaces : Reading Unit := do
  let _ ← takeWhile (· = ' ')

/-- Passes over blanks, comments and line breaks.  Where lines are indented, they are so by spaces
alone. -/
def skipGaps (indents : Bool) : Nat → Reading Unit
  | 0 => return ()
  | fuel + 1 => do
    if indents && (← column) = 0 then skipSpaces else skipBlanks
    skipComment
    if ← newline? then skipGaps indents fuel

/-- Goes to the next thing that is written. -/
def seek : Reading Unit := do skipGaps true ((← rest).length + 1)

/-- Goes to the next thing that is written inside brackets. -/
def seekFlow : Reading Unit := do skipGaps false ((← rest).length + 1)

/-- Is the line at its end, comments aside? -/
def atLineEnd : Reading Bool := do
  match ← rest with
  | [] => return true
  | c :: _ => return c = '\n' || c = '\r' || c = '#'

/-- Nothing but a comment may follow on the line. -/
def endLine : Reading Unit := do
  let before := (← rest).length
  skipBlanks
  match ← rest with
  | [] => return ()
  | '#' :: after => if after.length + 1 = before then fail
  | c :: _ => if c ≠ '\n' && c ≠ '\r' then fail

/-- Does the mark come next, and a gap or the end behind it? -/
def markNext (mark : String) : Reading Bool := do
  let cs ← rest
  return mark.toList.isPrefixOf cs && (cs.drop mark.length).head?.all isGap

/-- Is the document at its end? -/
def atEnd : Reading Bool := do
  if (← rest).isEmpty then return true
  if (← column) ≠ 0 then return false
  return (← markNext "---") || (← markNext "...")

/-- What a letter behind a backslash stands for. -/
def escapeValue? (c : Char) : Option Char :=
  match c with
  | '0' => some '\x00'
  | 'a' => some '\x07'
  | 'b' => some '\x08'
  | 't' => some '\t'
  | '\t' => some '\t'
  | 'n' => some '\n'
  | 'v' => some '\x0b'
  | 'f' => some '\x0c'
  | 'r' => some '\r'
  | 'e' => some '\x1b'
  | ' ' => some ' '
  | '"' => some '"'
  | '/' => some '/'
  | '\\' => some '\\'
  | 'N' => some '\x85'
  | '_' => some '\xa0'
  | 'L' => some '\u2028'
  | 'P' => some '\u2029'
  | _ => none

/-- How many digits follow a letter behind a backslash. -/
def escapeWidth? (c : Char) : Option Nat :=
  match c with
  | 'x' => some 2
  | 'u' => some 4
  | 'U' => some 8
  | _ => none

/-- What an escape stands for, behind its backslash. -/
def escape : Reading Char := do
  match ← rest with
  | [] => fail
  | c :: after =>
    match escapeValue? c, escapeWidth? c with
    | some d, _ =>
      pass 1
      return d
    | none, some width =>
      match Number.ofDigitsIn? 16 (after.take width) with
      | some n =>
        pass (width + 1)
        if width ≤ after.length && n.isValidChar then return Char.ofNat n else fail
      | none => fail
    | none, none => fail

/-- Passes over line breaks and the blanks around them, and counts the breaks. -/
def skipBreaks : Nat → Reading Nat
  | 0 => return 0
  | fuel + 1 => do
    skipBlanks
    if ← newline? then return (← skipBreaks fuel) + 1 else return 0

/-- What line breaks between two lines of a scalar come to. -/
def folded (breaks : Nat) : List Char :=
  if breaks = 1 then [' '] else List.replicate (breaks - 1) '\n'

/-- The rest of a text in quotes; `done` holds its beginning, last character first. -/
def quoted (mark : Char) : Nat → List Char → Reading String
  | 0, _ => fail
  | fuel + 1, done => do
    match ← rest with
    | [] => fail
    | c :: after =>
      if c = mark then
        pass 1
        if mark = '\'' && after.head? = some '\'' then
          pass 1
          quoted mark fuel (c :: done)
        else return String.ofList done.reverse
      else if c = '\n' || c = '\r' then
        let breaks ← skipBreaks fuel
        if ← atEnd then fail
        quoted mark fuel ((folded breaks).reverse ++ done.dropWhile isBlank)
      else if c = '\\' && mark = '"' then
        pass 1
        if ← newline? then
          let breaks ← skipBreaks fuel
          quoted mark fuel (List.replicate breaks '\n' ++ done)
        else
          let d ← escape
          quoted mark fuel (d :: done)
      else
        pass 1
        quoted mark fuel (c :: done)

/-- A text in quotes, if one comes next. -/
def quoted? : Reading (Option String) := do
  match ← rest with
  | '"' :: after => do
    pass 1
    return some (← quoted '"' (after.length + 1) [])
  | '\'' :: after => do
    pass 1
    return some (← quoted '\'' (after.length + 1) [])
  | _ => return none

/-- The marks of lists and mappings in brackets. -/
def flowMarks : List Char := ",[]\x7b\x7d".toList

/-- Can a plain text begin here? -/
def opensPlain (inFlow : Bool) (cs : List Char) : Bool :=
  match cs with
  | [] => false
  | c :: after =>
    let firm := after.head?.any fun d => !isGap d && !(inFlow && flowMarks.contains d)
    if c = '-' || c = '?' || c = ':' then firm else !isGap c && !openers.contains c

/-- The characters of a plain text up to the end of the line, without blanks at the end. -/
def plainChars (inFlow : Bool) (afterBlank : Bool) : List Char → List Char
  | [] => []
  | c :: rest =>
    let ends :=
      c = '\n' || c = '\r' || (c = '#' && afterBlank) || (inFlow && flowMarks.contains c) ||
        (c = ':' && rest.head?.all fun d => isGap d || (inFlow && flowMarks.contains d))
    if ends then []
    else
      let more := plainChars inFlow (isBlank c) rest
      if isBlank c && more.isEmpty then [] else c :: more

/-- One line of a plain text. -/
def plainLine (inFlow : Bool) : Reading (List Char) := do
  let cs := plainChars inFlow false (← rest)
  pass cs.length
  return cs

/-- The further lines of a plain text, which are deeper than `parent`. -/
def plainLines (inFlow : Bool) (parent : Int) : Nat → Reading (List Char)
  | 0 => return []
  | fuel + 1 => do
    let here ← get
    let breaks ← skipBreaks fuel
    let cs ← rest
    let goesOn := 0 < breaks && !(← atEnd) && (inFlow || parent < (← column)) &&
      cs.head? ≠ some '#' && !(plainChars inFlow true cs).isEmpty
    if goesOn then
      let line ← plainLine inFlow
      let more ← plainLines inFlow parent fuel
      return folded breaks ++ line ++ more
    else
      set here
      return []

/-- A plain text. -/
def plain (inFlow : Bool) (parent : Int) : Reading Node := do
  unless opensPlain inFlow (← rest) do fail
  let first ← plainLine inFlow
  let more ← plainLines inFlow parent ((← rest).length + 1)
  return .scalar (String.ofList (first ++ more)) true

/-- The part that a name stands for. -/
def reference : Reading Node := do
  pass 1
  let name ← takeWhile fun c => !isGap c && !flowMarks.contains c
  match Dict.get? (← get).anchors (String.ofList name) with
  | some n => return n
  | none => fail

/-- The names and kinds before a part. -/
def properties : Nat → Reading (List String)
  | 0 => return []
  | fuel + 1 => do
    match ← rest with
    | '&' :: _ => do
      pass 1
      let name ← takeWhile fun c => !isGap c && !flowMarks.contains c
      skipBlanks
      return String.ofList name :: (← properties fuel)
    | '!' :: _ => do
      let _ ← takeWhile fun c => !isGap c && !flowMarks.contains c
      skipBlanks
      properties fuel
    | _ => return []

/-- Gives a part its names. -/
def named (names : List String) (n : Node) : Reading Node := do
  modify fun s => { s with anchors := names.map (fun name => (name, n)) ++ s.anchors }
  return n

/-- What follows a key inside brackets: its value, if it has one. -/
def flowValue (part : Reading Node) : Reading Node := do
  seekFlow
  match ← rest with
  | ':' :: _ => do
    pass 1
    seekFlow
    if (← rest).head?.any fun c => c = ',' || c = '\x7d' then return .nothing else part
  | _ => return .nothing

/-- The rest of a list in brackets. -/
def flowItems (part : Reading Node) : Nat → Reading (List Node)
  | 0 => fail
  | fuel + 1 => do
    seekFlow
    if (← rest).head? = some ']' then
      pass 1
      return []
    let n ← part
    seekFlow
    match ← rest with
    | ',' :: _ => do
      pass 1
      return n :: (← flowItems part fuel)
    | ']' :: _ => do
      pass 1
      return [n]
    | _ => fail

/-- The rest of a mapping in brackets. -/
def flowEntries (part : Reading Node) : Nat → Reading (List (String × Node))
  | 0 => fail
  | fuel + 1 => do
    seekFlow
    if (← rest).head? = some '\x7d' then
      pass 1
      return []
    match ← part with
    | .scalar key _ => do
      let v ← flowValue part
      seekFlow
      match ← rest with
      | ',' :: _ => do
        pass 1
        return (key, v) :: (← flowEntries part fuel)
      | '\x7d' :: _ => do
        pass 1
        return [(key, v)]
      | _ => fail
    | _ => fail

/-- A part inside brackets, or one that could stand there. -/
def flow (parent : Int) (inFlow : Bool) : Nat → Reading Node
  | 0 => fail
  | fuel + 1 => do
    let names ← properties fuel
    let n ← match ← quoted? with
      | some text => pure (.scalar text false)
      | none =>
        match ← rest with
        | '[' :: _ => do
          pass 1
          pure (.list (← flowItems (flow parent true fuel) fuel))
        | '\x7b' :: _ => do
          pass 1
          pure (.mapping (← flowEntries (flow parent true fuel) fuel))
        | '*' :: _ => reference
        | c :: _ =>
          if inFlow && !names.isEmpty && (c = ',' || c = ']' || c = '\x7d') then pure .nothing
          else plain inFlow parent
        | [] => fail
    named names n

/-- How many blanks a line begins with. -/
def depthOf (cs : List Char) : Nat := (cs.takeWhile (· = ' ')).length

/-- How deep the first line that is not empty is. -/
def firstDepth (deepest : Nat) : Nat → List Char → Nat
  | 0, _ => deepest
  | fuel + 1, cs =>
    let depth := depthOf cs
    match cs.drop depth with
    | '\n' :: rest => firstDepth (max deepest depth) fuel rest
    | '\r' :: '\n' :: rest => firstDepth (max deepest depth) fuel rest
    | _ => max deepest depth

/-- Passes over empty lines and over the margin of a line, and counts the empty lines. -/
def skipEmptyLines (indent : Nat) : Nat → Reading Nat
  | 0 => return 0
  | fuel + 1 => do
    pass (min indent (depthOf (← rest)))
    if ← newline? then return (← skipEmptyLines indent fuel) + 1 else return 0

/-- The lines of a block that are as deep as `indent`.  `broken` says that a line came before, and
`blank` that it began with a blank; `empty` counts the empty lines between.  In a folded block, a
line break between lines that do not begin with blanks is a blank.  Also, does a line break end
the last line, and how many empty lines follow it? -/
def blockLines (isFolded : Bool) (indent : Nat) (broken blank : Bool) (empty : Nat) :
    Nat → Reading (List Char × Bool × Nat)
  | 0 => fail
  | fuel + 1 => do
    if (← column) = indent && !(← rest).isEmpty then
      let startsBlank := (← rest).head?.any isBlank
      let joint :=
        if !broken then []
        else if isFolded && !blank && !startsBlank then (if empty = 0 then [' '] else [])
        else ['\n']
      let line ← takeWhile fun c => c ≠ '\n' && c ≠ '\r'
      let ended ← newline?
      let after ← if ended then skipEmptyLines indent fuel else pure 0
      let (more, last) ← blockLines isFolded indent ended startsBlank after fuel
      return (joint ++ List.replicate empty '\n' ++ line ++ more, last)
    else return ([], broken, empty)

/-- What stands behind the mark of a block: how deep it is, and what becomes of line breaks at its
end. -/
def blockHeader (cs : List Char) : Option (Option Nat × Option Char) :=
  let digit? (c : Char) : Option Nat :=
    if c.isDigit && c ≠ '0' then some (Number.digitValue c) else none
  match cs with
  | [] => some (none, none)
  | [c] =>
    if c = '+' || c = '-' then some (none, some c) else (digit? c).map fun n => (some n, none)
  | [c, d] =>
    match digit? c, digit? d with
    | some n, none => if d = '+' || d = '-' then some (some n, some d) else none
    | none, some n => if c = '+' || c = '-' then some (some n, some c) else none
    | _, _ => none
  | _ => none

/-- A block of lines, which are deeper than `parent`. -/
def block (parent : Int) : Reading Node := do
  let isFolded := (← rest).head? = some '>'
  pass 1
  let header ← takeWhile fun c => !isGap c
  match blockHeader header with
  | none => fail
  | some (depth?, ending?) =>
    endLine
    skipBlanks
    skipComment
    let _ ← newline?
    let cs ← rest
    let size := cs.length + 1
    let indent :=
      match depth? with
      | some depth => parent.toNat + depth
      | none => max (firstDepth 0 size cs) (max (parent + 1).toNat 1)
    let empty ← skipEmptyLines indent size
    let (text, ended, after) ← blockLines isFolded indent false false empty size
    let clipped := if ended && ending? ≠ some '-' then ['\n'] else []
    let kept := if ending? = some '+' then List.replicate after '\n' else []
    return .scalar (String.ofList (text ++ clipped ++ kept)) false

/-- A key and its colon, if they come next. -/
def key? : Reading (Option String) := do
  let here ← get
  let colon (key : String) : Reading (Option String) := do
    skipBlanks
    let written := here.rest.take (here.rest.length - (← rest).length)
    if (← markNext ":") && !written.contains '\n' then
      pass 1
      return some key
    set here
    return none
  match ← quoted? with
  | some text => colon text
  | none =>
    if opensPlain false (← rest) then colon (String.ofList (← plainLine false)) else return none

/-- Does an item of a list begin here? -/
def dashNext : Reading Bool := markNext "-"

/-- A part inside a list or a mapping that is `indent` deep; `inline` says that a list or a mapping
may begin on the line.  `part` reads a list or mapping that is deeper. -/
def nested (part : Reading Node) (indent : Nat) (inline : Bool) : Reading Node := do
  if inline then skipSpaces else skipBlanks
  let names ← properties (← rest).length
  let n ←
    if ← atLineEnd then do
      seek
      if !(← atEnd) && indent < (← column) then part
      else if !inline && !(← atEnd) && indent = (← column) && (← dashNext) then part
      else pure .nothing
    else if inline then part
    else
      match ← rest with
      | '|' :: _ => block indent
      | '>' :: _ => block indent
      | cs => do
        let n ← flow indent false (cs.length + 1)
        endLine
        pure n
  named names n

/-- The items of a list whose dashes are `indent` deep. -/
def items (part : Reading Node) (indent : Nat) : Nat → Reading (List Node)
  | 0 => fail
  | fuel + 1 => do
    pass 1
    let n ← nested part indent true
    seek
    if !(← atEnd) && (← column) = indent && (← dashNext) then
      return n :: (← items part indent fuel)
    else return [n]

/-- The entries of a mapping whose keys are `indent` deep; the first key has been read. -/
def entries (part : Reading Node) (indent : Nat) : Nat → String → Reading (List (String × Node))
  | 0, _ => fail
  | fuel + 1, key => do
    let v ← nested part indent false
    seek
    if (← atEnd) || (← column) < indent then return [(key, v)]
    else if (← column) = indent then
      match ← key? with
      | some next => return (key, v) :: (← entries part indent fuel next)
      | none => fail
    else fail

/-- A part that is deeper than `parent`, from its first character on. -/
def part : Nat → Int → Reading Node
  | 0, _ => fail
  | fuel + 1, parent => do
    let indent ← column
    let size := (← rest).length + 1
    if ← dashNext then return .list (← items (part fuel indent) indent size)
    let names ← properties size
    if ← atLineEnd then
      seek
      if (← atEnd) || (← column) ≤ parent then named names .nothing
      else named names (← part fuel parent)
    else
      match ← rest with
      | '|' :: _ => named names (← block parent)
      | '>' :: _ => named names (← block parent)
      | _ =>
        match ← key? with
        | some key => named names (.mapping (← entries (part fuel indent) indent size key))
        | none => do
          let n ← flow parent false size
          endLine
          named names n

/-- Passes over the lines that say how a document is to be read. -/
def skipDirectives : Nat → Reading Unit
  | 0 => return ()
  | fuel + 1 => do
    seek
    if (← rest).head? = some '%' then
      let _ ← takeWhile fun c => c ≠ '\n' && c ≠ '\r'
      skipDirectives fuel
    else if ← markNext "---" then
      pass 3
      seek

/-- A whole document. -/
def document : Reading Node := do
  let size := (← rest).length + 1
  skipDirectives size
  let n ← if ← atEnd then pure .nothing else part size (-1)
  seek
  if ← markNext "..." then
    pass 3
    seek
  unless (← rest).isEmpty do fail
  return n

end Reading

/-- Reads a document. -/
def read? (text : String) : Option Node :=
  let cs :=
    match text.toList with
    | '\ufeff' :: rest => rest
    | cs => cs
  (Reading.document.run { rest := cs }).map Prod.fst

end BrowserLab.Yaml
