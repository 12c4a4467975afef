import BrowserLab.Document

/-!
# TOML values

Tables are built while a document is read.  A table is open for more entries only where the
document may still add to it: a table that is written as a value is closed.
-/

namespace BrowserLab.Toml

/-- A value of a document. -/
inductive Value where
  | text (s : String)
  | integer (i : Int)
  | real (x : Float)
  | boolean (b : Bool)
  /-- A date, a time of day, or both. -/
  | moment (text : String)
  | list (items : List Value)
  /-- A table that is written as a value. -/
  | record (entries : List (String × Value))
  /-- A table.  It is implicit if it is only there because something lies in it, and dotted if that
  was said by a key with dots. -/
  | table (implicit dotted : Bool) (entries : List (String × Value))
  /-- Tables that are written one after the other under the same header. -/
  | rows (tables : List Value)
  deriving Inhabited

namespace Value

/-- A table that has just been opened. -/
def newTable : Value := .table false false []

/-- The entries with one of them set, which keeps its place. -/
def setEntry (entries : List (String × Value)) (key : String) (v : Value) :
    List (String × Value) :=
  if (Dict.get? entries key).isSome then
    entries.map fun (k, w) => if k = key then (k, v) else (k, w)
  else entries ++ [(key, v)]

/-- The list with its last item changed. -/
def changeLast (f : Value → Option Value) : List Value → Option (List Value)
  | [] => none
  | [v] => (f v).map fun v => [v]
  | v :: rest => (changeLast f rest).map fun rest => v :: rest

/-- Changes the table that a header names, or its last row.  Tables on the way that are missing are
made. -/
def changeAt (f : Value → Option Value) : List String → Value → Option Value
  | [], v => f v
  | key :: path, .table implicit dotted entries =>
    let changed? :=
      match Dict.get? entries key with
      | none => changeAt f path (.table true false [])
      | some (.table i d es) => changeAt f path (.table i d es)
      | some (.rows tables) => (changeLast (changeAt f path) tables).map .rows
      | some _ => none
    changed?.map fun v => .table implicit dotted (setEntry entries key v)
  | _ :: _, _ => none

/-- Opens the table of a header in the table that it lies in.  No table is opened twice. -/
def openTable (key : String) : Value → Option Value
  | .table implicit dotted entries =>
    match Dict.get? entries key with
    | none => some (.table implicit dotted (entries ++ [(key, newTable)]))
    | some (.table true false es) =>
      some (.table implicit dotted (setEntry entries key (.table false false es)))
    | some _ => none
  | _ => none

/-- Opens one more row of a header in the table that the rows lie in. -/
def openRow (key : String) : Value → Option Value
  | .table implicit dotted entries =>
    match Dict.get? entries key with
    | none => some (.table implicit dotted (entries ++ [(key, .rows [newTable])]))
    | some (.rows tables) =>
      some (.table implicit dotted (setEntry entries key (.rows (tables ++ [newTable]))))
    | some _ => none
  | _ => none

/-- Adds an entry to a table.  Keys with dots add to dotted tables only, and other keys to tables
that are not dotted; `nested` says that there were dots.  No key is set twice. -/
def put (nested : Bool) (v : Value) : List String → Value → Option Value
  | [key], .table implicit dotted entries =>
    if dotted != nested || (Dict.get? entries key).isSome then none
    else some (.table implicit dotted (entries ++ [(key, v)]))
  | key :: path, .table implicit dotted entries =>
    let changed? :=
      match Dict.get? entries key with
      | none => put nested v path (.table true true [])
      | some (.table true d es) => put nested v path (.table true d es)
      | some _ => none
    changed?.map fun w => .table implicit dotted (setEntry entries key w)
  | _, _ => none

/-- Adds an entry whose key may have dots. -/
def putKey (t : Value) (keys : List String) (v : Value) : Option Value :=
  put (1 < keys.length) v keys t

/-- The table as a value. -/
def closed : Value → Value
  | .table _ _ entries => .record entries
  | v => v

end Value

/-- A date has no fields, and a list may be longer than the structure that is read from it. -/
instance : Document Value where
  fields? := fun
    | .record entries => some entries
    | .table _ _ entries => some entries
    | .moment _ => some []
    | _ => none
  items? := fun
    | .list items => some items
    | .rows tables => some tables
    | _ => none
  surplus := true
  text? := fun
    | .text s => some s
    | _ => none
  natural? := fun bound v =>
    match v with
    | .integer i => if 0 ≤ i && i < bound then some i.toNat else none
    | _ => none
  boolean? := fun
    | .boolean b => some b
    | _ => none

end BrowserLab.Toml
