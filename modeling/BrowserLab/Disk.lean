import BrowserLab.Text.Search

/-!
# The disk

What lies at each path, as far as saving a file has to know: directories and files of text.  What is
done to a disk is a list of changes, so that each disk on the way can be spoken of.
-/

namespace BrowserLab

/-- The names from the root to a place on a disk. -/
abbrev Path := List String

namespace Path

/-- The path that a text with slashes stands for. -/
def ofText (text : String) : Path := (Text.split ['/'] text.toList).map String.ofList

def text (p : Path) : String := "/".intercalate p

/-- The directory that the place lies in. -/
def parent (p : Path) : Path := p.dropLast

/-- The last name. -/
def name (p : Path) : String := p.getLast?.getD ""

/-- A place in the same directory. -/
def withName (p : Path) (name : String) : Path := p.parent ++ [name]

/-- The directories from the root to the path, and the path itself. -/
def chain (p : Path) : List Path := (List.range p.length).map fun n => p.take (n + 1)

end Path

/-- What can lie at a path. -/
inductive Node where
  | directory
  | file (text : String)
  deriving DecidableEq, Repr, Inhabited

/-- What lies at each path. -/
def Disk := Path → Option Node

/-- Something that is done to a disk. -/
inductive Change where
  /-- Makes the directory and those it lies in, as far as they are missing. -/
  | makeDirectories (p : Path)
  /-- Makes a file or replaces its text. -/
  | write (p : Path) (text : String)
  /-- Moves a file to where no directory is. -/
  | rename (source target : Path)
  deriving DecidableEq, Repr

namespace Disk

/-- Nothing anywhere. -/
def empty : Disk := fun _ => none

def set (d : Disk) (p : Path) (n : Option Node) : Disk := fun q => if q = p then n else d q

/-- The text of the file at a path. -/
def read? (d : Disk) (p : Path) : Option String :=
  match d p with
  | some (.file text) => some text
  | _ => none

def isDirectory (d : Disk) (p : Path) : Bool := p.isEmpty || d p = some .directory

/-- May a file be put at the path? -/
def takesFile (d : Disk) (p : Path) : Bool := d.isDirectory p.parent && d p ≠ some .directory

/-- The disk after a change, if it can be made. -/
def after? (d : Disk) : Change → Option Disk
  | .makeDirectories p =>
    if p.chain.all fun q => d q = none || d q = some .directory then
      some fun q => if q ∈ p.chain then some .directory else d q
    else none
  | .write p text => if d.takesFile p then some (d.set p (some (.file text))) else none
  | .rename source target =>
    match d.read? source with
    | some text =>
      if d.takesFile target then some ((d.set source none).set target (some (.file text)))
      else none
    | none => none

/-- Makes changes up to the first that cannot be made.  Also, could all be made? -/
def applyAll (d : Disk) : List Change → Bool × Disk
  | [] => (true, d)
  | c :: rest =>
    match d.after? c with
    | some d => d.applyAll rest
    | none => (false, d)

end Disk

end BrowserLab
