import BrowserLab.Command.Basic

/-!
# Asking the mentor
-/

namespace BrowserLab.Command

/-- Asks the mentor a question about a scenario. -/
def Context.hint (c : Context) (id : String) (style : Option Style) (question : String) (d : Disk) :
    Except Failure Printed := do
  let scenario ← c.scenario id
  let style ← styleFor scenario style (c.progress d)
  let answer := c.mentor.answer question style (some scenario.description)
  return c.format.print
    (.obj [("scenario", .str scenario.id), ("style", .str style.name), ("answer", .str answer)])
    (.line answer)

/-- What is said of an exercise, for a reader. -/
def verdictText (e : Exercise) (v : Validation) : Printed :=
  if v.isCorrect then
    .success (e.scenario.title ++ " solved in " ++ e.style.title) ++ .lines ["", v.feedback]
  else if v.feedback = Validation.unavailable.feedback then .warning v.feedback
  else .failure "Not quite there yet" ++ .lines ["", v.feedback]

/-- Has the mentor judge a solution.  A correct one is taken down, if that is possible. -/
def Context.verify (c : Context) (id : String) (style : Option Style) (file : Option Path)
    (d : Disk) : Result :=
  match c.exercise d id style (.choose file false) with
  | .error failure => (.error failure, d)
  | .ok e =>
    let verdict := c.mentor.judge e.code e.scenario e.style
    let (new, p) := (c.progress d).markCompleted e.scenario.id e.style
    (.ok (c.format.print verdict.toJson (verdictText e verdict)),
      if verdict.isCorrect && new then p.saveIfPossible c.progressPath d else d)

end BrowserLab.Command
