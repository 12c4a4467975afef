import BrowserLab.Catalog.Document
import BrowserLab.Command.Basic
import BrowserLab.Table

/-!
# Browsing the catalog
-/

namespace BrowserLab

/-- A scenario in a list: the styles it supports, and those it is completed in. -/
structure Summary where
  id : String
  title : String
  category : String
  difficulty : String
  styles : List Style
  completed : List Style
  deriving DecidableEq, Repr, Inhabited

/-- The supported styles. -/
def Scenario.styles (s : Scenario) : List Style := Style.all.filter s.supports

namespace Summary

def ofScenario (p : Progress) (s : Scenario) : Summary where
  id := s.id
  title := s.title
  category := s.category.title
  difficulty := s.difficulty.title
  styles := s.styles
  completed := s.styles.filter (p.isCompleted s.id)

/-- The names of styles in one text. -/
def styleNames (styles : List Style) : String := ", ".intercalate (styles.map Style.name)

def header : List String := ["ID", "Title", "Category", "Difficulty", "Styles", "Completed"]

def row (s : Summary) : List String :=
  [s.id, s.title, s.category, s.difficulty, styleNames s.styles, styleNames s.completed]

def toJson (s : Summary) : Json :=
  let names (styles : List Style) : Json := .arr (styles.map fun style => .str style.name)
  .obj [("id", .str s.id), ("title", .str s.title), ("category", .str s.category),
    ("difficulty", .str s.difficulty), ("styles", names s.styles),
    ("completed", names s.completed)]

end Summary

namespace Command

/-- Lists scenarios. -/
def Context.list (c : Context) (category : Option Category) (style : Option Style) (d : Disk) :
    Printed :=
  let summaries := (c.catalog.filter category style).map (Summary.ofScenario (c.progress d))
  c.format.print (.arr (summaries.map Summary.toJson))
    (if summaries.isEmpty then .line "No items found."
      else .line (Table.text ⟨Summary.header, summaries.map Summary.row⟩))

/-- What a scenario is about. -/
def brief (s : Scenario) : Printed :=
  .lines [s.title ++ " (" ++ s.id ++ ")", s.category.title ++ " / " ++ s.difficulty.title, "",
    s.description]

/-- What is to be learned. -/
def objectives (s : Scenario) : Printed :=
  if s.learningObjectives.isEmpty then .nothing
  else .heading "Objectives" ++ .lines (s.learningObjectives.map ("  - " ++ ·))

/-- What a scenario's endpoint expects and answers. -/
def contract (a : ApiContract) : Printed :=
  .heading "API Contract" ++ .line ("  " ++ a.method ++ " " ++ a.endpoint) ++
    (a.requestBody.elim .nothing fun body => .line ("  Request:  " ++ body)) ++
    .line ("  Expected: " ++ a.expectedResponse)

/-- The code of a scenario in a style to begin with, and perhaps that to end with. -/
def codes (s : Scenario) (reference : Bool) (style : Style) : Printed :=
  .heading (style.title ++ " starter (" ++ style.specFile ++ ")") ++ .line (s.starterCode style) ++
    (if reference then
      .heading (style.title ++ " reference") ++ .line (s.referenceCode style)
    else .nothing)

/-- A scenario for a reader. -/
def readable (s : Scenario) (style : Option Style) (reference : Bool) : Printed :=
  let styles := s.styles.filter fun t => style.all (t = ·)
  brief s ++ objectives s ++ s.apiContract.elim .nothing contract ++
    (styles.map (codes s reference)).foldl (· ++ ·) .nothing

/-- Shows a scenario. -/
def Context.describe (c : Context) (id : String) (style : Option Style) (reference : Bool) :
    Except Failure Printed :=
  (c.scenario id).map fun s => c.format.print s.toJson (readable s style reference)

end Command

end BrowserLab
