import BrowserLab.Script.Import
import BrowserLab.Script.Parser

/-!
# Programs

A script is compiled by taking out its imports and reading what is left.
-/

namespace BrowserLab.Script

/-- A script that can be run. -/
structure Program where
  body : List Stmt

/-- The program of a text. -/
def compile (source : String) : Except SyntaxError Program :=
  (parse (stripImports source)).map Program.mk

end BrowserLab.Script
