import BrowserLab.Disk
import BrowserLab.Error
import BrowserLab.Progress.Basic

/-!
# Saving progress

Progress is first written to a file beside the one it belongs in, and this file then takes the
place of the other.  So whenever saving is cut short, the old text or the new one is there.
-/

namespace BrowserLab

/-- The name without what follows its last point; a point at its beginning does not count. -/
def Path.stem (name : String) : String :=
  match Text.cutLast? '.' name with
  | some (before, _) => if before.isEmpty then name else before
  | none => name

namespace Progress

/-- The file that is written first. -/
def temporary (p : Path) : Path := p.withName (Path.stem p.name ++ ".json.tmp")

/-- How progress is saved. -/
def saving (s : Progress) (p : Path) : List Change :=
  [.makeDirectories p.parent, .write (temporary p) s.text, .rename (temporary p) p]

/-- Saves progress. -/
def save (s : Progress) (p : Path) (d : Disk) : Except LabError Unit × Disk :=
  let (done, d) := d.applyAll (s.saving p)
  (if done then .ok () else .error .io, d)

/-- Saves progress if that is possible. -/
def saveIfPossible (s : Progress) (p : Path) (d : Disk) : Disk := (s.save p d).2

/-- The progress kept in a file; there is none yet if the file cannot be read. -/
def load (d : Disk) (p : Path) : Progress := ((d.read? p).bind ofText?).getD empty

end Progress

end BrowserLab
