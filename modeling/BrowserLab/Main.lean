import BrowserLab.Catalog.Builtin
import BrowserLab.Command.Arguments
import BrowserLab.Moment
import Std.Time.DateTime.Timestamp

/-!
# The program

The program reads the files that a command may look at, lets the command work on what was read, and
then does to the disk what the command did.
-/

namespace BrowserLab.Main

/-- Where everything is kept by default. -/
def home : IO String := do
  return joinPath ((← IO.getEnv "HOME").getD ".") ".autolab"

/-- What lies at a path.  What is there and cannot be read as text counts as a directory. -/
def lookUp (p : Path) : IO (Option Node) := do
  try
    return some (.file (← IO.FS.readFile p.text))
  catch e =>
    match e with
    | .noFileOrDirectory _ _ _ => return none
    | _ => return some .directory

/-- The disk with what lies at a path. -/
def lookedUp (d : Disk) (p : Path) : IO Disk := return d.set p (← lookUp p)

/-- The rest of the input. -/
partial def readAll (input : IO.FS.Stream) (done : String) : IO String := do
  let line ← input.getLine
  if line.isEmpty then return done else readAll input (done ++ line)

/-- The path that stands for the input. -/
def inputPath : Path := ["-"]

/-- The disk with the script of a command. -/
def withScript (d : Disk) (command : Command) : IO Disk := do
  match command.file? with
  | some p =>
    if p = inputPath then return d.set p (some (.file (← readAll (← IO.getStdin) "")))
    else lookedUp d p
  | none => return d

/-- Makes a change for good. -/
def make : Change → IO Unit
  | .makeDirectories p => IO.FS.createDirAll p.text
  | .write p text => IO.FS.writeFile p.text text
  | .rename source target => IO.FS.rename source.text target.text

/-- Saves the progress that a command has left, if it has changed. -/
def saveProgress (before after : Disk) (p : Path) : IO Unit := do
  if after.read? p ≠ before.read? p then
    ((Progress.load after p).saving p).forM make

/-- The digits of bytes. -/
def hexText (bytes : List UInt8) : String :=
  String.ofList (bytes.flatMap fun b => Number.hexChars 2 b.toNat)

/-- A run now. -/
def occasion : IO Command.Occasion := do
  let bytes := (← IO.getRandomBytes 16).toList
  let now ← Std.Time.Timestamp.now
  let moment := Moment.ofSeconds now.toSecondsSinceUnixEpoch.val.toNat
  return { name := hexText bytes, moment := moment.text, timeOfDay := moment.timeOfDay,
           entropy := bytes.foldl (fun n b => 256 * n + b.toNat) 0 }

def complain (text : String) : IO Unit := do (← IO.getStderr).putStrLn ("Error: " ++ text)

/-- Does what a command asks for.  No mentor can be reached.  That progress cannot be saved is a
failure only if nothing else was asked for. -/
def perform (config : Config) (format : OutputFormat) (command : Command) : IO UInt32 := do
  let context : Command.Context := { config, catalog := .builtin, format, mentor := .offline }
  let disk ← withScript (← lookedUp .empty context.progressPath) command
  let (result, after) := command.execute context (← occasion) disk
  match result with
  | .error failure =>
    complain failure.message
    return 1
  | .ok printed =>
    try
      saveProgress disk after context.progressPath
    catch e =>
      if command matches .forget then
        complain e.toString
        return 1
    IO.print printed.results
    IO.eprint printed.complaints
    return 0

/-- The version of the program. -/
def version : String := "0.1.0"

/-- Does what a command line asks for. -/
def run (arguments : List String) : IO UInt32 := do
  match Invocation.ofArguments arguments with
  | .error fault =>
    complain fault.message
    return 2
  | .ok { command := none, .. } =>
    IO.println ("AutoLab v" ++ version)
    return 0
  | .ok { config, format, command := some command } =>
    let home ← home
    let fromEnvironment := (← IO.getEnv "AUTOLAB_CONFIG").map Path.ofText
    let file := (config <|> fromEnvironment).getD (.ofText (joinPath home "config.toml"))
    match Command.Context.loadConfig home (← lookedUp .empty file) file with
    | .error failure =>
      complain failure.message
      return 1
    | .ok config => perform config format command

end BrowserLab.Main

def main (arguments : List String) : IO UInt32 := BrowserLab.Main.run arguments
