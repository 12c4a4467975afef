import BrowserLab.Command.Advice
import BrowserLab.Command.Run
import BrowserLab.Command.Standing

/-!
# Command lines

Words that begin with a dash are options, of which some have a value.  The first other word says
what is to be done.
-/

namespace BrowserLab

/-- What a command line can ask for. -/
inductive Command where
  | list (category : Option Category) (style : Option Style)
  | describe (id : String) (style : Option Style) (reference : Bool)
  | run (id : String) (options : Command.RunOptions)
  | hint (id : String) (style : Option Style) (question : String)
  | verify (id : String) (style : Option Style) (file : Option Path)
  | standing
  | forget
  deriving Inhabited

/-- Does what is asked for. -/
def Command.execute (c : Command.Context) (o : Command.Occasion) (d : Disk) :
    Command → Command.Result
  | .list category style => (.ok (c.list category style d), d)
  | .describe id style reference => (c.describe id style reference, d)
  | .run id options => c.run o id options d
  | .hint id style question => (c.hint id style question d, d)
  | .verify id style file => c.verify id style file d
  | .standing => (.ok (c.standing d), d)
  | .forget => c.forget d

/-- The script that a command reads. -/
def Command.file? : Command → Option Path
  | .run _ options => options.file
  | .verify _ _ file => file
  | _ => none

namespace Arguments

/-- What is wrong with a command line. -/
inductive Fault where
  | noCommand
  | unknownCommand (name : String)
  | unknownOption (name : String)
  | noValue (option : String)
  | noValueWanted (option : String)
  | badValue (option message : String)
  | missing (what : String)
  | surplus (word : String)
  | conflict (option other : String)
  deriving DecidableEq, Repr, Inhabited

def Fault.message : Fault → String
  | .noCommand => "a command is required"
  | .unknownCommand name => "unknown command: " ++ name
  | .unknownOption name => "unknown option: " ++ name
  | .noValue option => "a value is required for " ++ option
  | .noValueWanted option => "no value is allowed for " ++ option
  | .badValue option message => "invalid value for " ++ option ++ ": " ++ message
  | .missing what => what ++ " is required"
  | .surplus word => "unexpected argument: " ++ word
  | .conflict option other => option ++ " cannot be used with " ++ other

/-- Options by name, and whether they have a value. -/
abbrev Shape := List (String × Bool)

/-- What a command line consists of: options with their values, and words. -/
structure Parts where
  options : List (String × String) := []
  words : List String := []

def Parts.withOption (p : Parts) (name value : String) : Parts :=
  { p with options := (name, value) :: p.options }

def Parts.withWord (p : Parts) (word : String) : Parts := { p with words := word :: p.words }

/-- The name of an option, and the value that is written behind an equals sign. -/
def cutOption (word : String) : String × Option String :=
  match Text.startsWith word "--", Text.cut? ['='] word.toList with
  | true, some (name, value) => (String.ofList name, some (String.ofList value))
  | _, _ => (word, none)

/-- Is the word an option?  A dash alone is none. -/
def isOption (word : String) : Bool := Text.startsWith word "-" && word ≠ "-"

/-- Sorts a command line into its parts.  `waiting` is an option whose value comes next.  After
`limit` words everything is a word. -/
def sort (shape : Shape) : (waiting : Option String) → (limit : Nat) → List String →
    Except Fault Parts
  | none, _, [] => .ok {}
  | some name, _, [] => .error (.noValue name)
  | some name, limit, value :: rest => (sort shape none limit rest).map (·.withOption name value)
  | none, 0, word :: rest => .ok { words := word :: rest }
  | none, limit + 1, word :: rest =>
    if word = "--" then .ok { words := rest }
    else if isOption word then
      let (name, value?) := cutOption word
      match Dict.get? shape name, value? with
      | none, _ => .error (.unknownOption name)
      | some false, none => (sort shape none (limit + 1) rest).map (·.withOption name "")
      | some false, some _ => .error (.noValueWanted name)
      | some true, some value => (sort shape none (limit + 1) rest).map (·.withOption name value)
      | some true, none => sort shape (some name) (limit + 1) rest
    else (sort shape none limit rest).map (·.withWord word)

/-- Options that go with every command. -/
def commonShape : Shape := [("--config", true), ("--format", true)]

/-- The options of each command. -/
def shapes : List (String × Shape) := [
  ("list", [("--category", true), ("--style", true)]),
  ("show", [("--style", true), ("--reference", false)]),
  ("run", [("--style", true), ("--file", true), ("-f", true), ("--reference", false),
    ("--seed", true), ("--instant", false), ("--no-save", false)]),
  ("hint", [("--style", true)]),
  ("verify", [("--style", true), ("--file", true), ("-f", true)]),
  ("progress", [("--reset", false)])]

namespace Parts

def has (p : Parts) (name : String) : Bool := (Dict.get? p.options name).isSome

/-- The value of an option. -/
def value? {α : Type} (p : Parts) (name : String) (read : String → Except String α) :
    Except Fault (Option α) :=
  match Dict.get? p.options name with
  | some text =>
    match read text with
    | .ok a => .ok (some a)
    | .error message => .error (.badValue name message)
  | none => .ok none

def style? (p : Parts) : Except Fault (Option Style) := p.value? "--style" Style.parse

/-- The script that is named. -/
def file? (p : Parts) : Option Path :=
  (Dict.get? p.options "--file" <|> Dict.get? p.options "-f").map Path.ofText

/-- The only word. -/
def onlyWord (p : Parts) (what : String) : Except Fault String :=
  match p.words with
  | [] => .error (.missing what)
  | [word] => .ok word
  | _ :: word :: _ => .error (.surplus word)

/-- There may not be any words. -/
def noWords (p : Parts) : Except Fault Unit :=
  match p.words with
  | [] => .ok ()
  | word :: _ => .error (.surplus word)

end Parts

/-- A number that is not negative and has 64 bits. -/
def readSeed (text : String) : Except String Nat :=
  match Number.readNat? wordBound text with
  | some n => .ok n
  | none => .error "a number is wanted"

def readFormat (text : String) : Except String OutputFormat :=
  match text with
  | "table" => .ok .table
  | "json" => .ok .json
  | "yaml" => .ok .yaml
  | other => .error ("unknown format: " ++ other)

/-- What is meant by the parts behind the name of a command. -/
def command (name : String) (p : Parts) : Except Fault Command := do
  let style ← p.style?
  match name with
  | "list" =>
    p.noWords
    return .list (← p.value? "--category" Category.parse) style
  | "show" => return .describe (← p.onlyWord "a scenario") style (p.has "--reference")
  | "run" =>
    let id ← p.onlyWord "a scenario"
    let reference := p.has "--reference"
    if reference && p.file?.isSome then throw (.conflict "--reference" "--file")
    let seed ← p.value? "--seed" readSeed
    return .run id { style, file := p.file?, reference, seed, instant := p.has "--instant",
                     keepsProgress := !p.has "--no-save" }
  | "hint" =>
    match p.words with
    | [] => throw (.missing "a scenario")
    | [_] => throw (.missing "a question")
    | id :: question => return .hint id style (" ".intercalate question)
  | "verify" => return .verify (← p.onlyWord "a scenario") style p.file?
  | "progress" =>
    p.noWords
    return if p.has "--reset" then .forget else .standing
  | other => throw (.unknownCommand other)

end Arguments

/-- What a command line asks for, and how. -/
structure Invocation where
  config : Option Path
  format : OutputFormat
  /-- Only the version is asked for, if there is no command. -/
  command : Option Command

namespace Invocation

open Arguments

/-- What a command line means. -/
def ofArguments (arguments : List String) : Except Fault Invocation := do
  let before ← sort commonShape none 1 arguments
  match before.words with
  | [] => throw .noCommand
  | name :: rest =>
    let limit := if name = "hint" then 2 else rest.length
    let shape := commonShape ++ (Dict.get? shapes name).getD []
    if name ≠ "version" && (Dict.get? shapes name).isNone then throw (.unknownCommand name)
    let after ← sort shape none limit rest
    let parts : Parts := { after with options := after.options ++ before.options }
    let config := (Dict.get? parts.options "--config").map Path.ofText
    let format := (← parts.value? "--format" readFormat).getD .table
    if name = "version" then
      parts.noWords
      return { config, format, command := none }
    return { config, format, command := some (← Arguments.command name parts) }

end Invocation

end BrowserLab
