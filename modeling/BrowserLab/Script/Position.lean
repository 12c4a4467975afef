import BrowserLab.Number.Binary

/-!
# Positions in arrays and text

How the numbers that a script gives for a position, a piece or a length are understood.  Positions
before the beginning count from the end; pieces are cut off at the ends.
-/

namespace BrowserLab.Script

/-- The longest text that a script may make, in characters. -/
def maxTextLength : Nat := Nat.pow 2 24

/-- A position of one item among `length`, if there is one. -/
def itemPosition? (length : Nat) (x : Float) : Option Nat :=
  let x := if x.isNaN then 0.0 else Number.trunc x
  let resolved := if x < 0.0 then Float.ofNat length + x else x
  if resolved >= 0.0 && resolved < Float.ofNat length then some (Number.toNat64 resolved) else none

/-- An end of a piece of `length` items. -/
def pieceEnd (length : Nat) (x : Float) : Nat :=
  let x := if x.isNaN then 0.0 else Number.trunc x
  if x < 0.0 then Number.toNat64 (Number.greater (Float.ofNat length + x) 0.0)
  else min (Number.toNat64 x) length

/-- The beginning and the end of a piece of `length` items; a missing number stands for the whole.
The end is not before the beginning. -/
def pieceBounds (length : Nat) (start finish : Option Float) : Nat × Nat :=
  let start := (start.map (pieceEnd length)).getD 0
  let finish := (finish.map (pieceEnd length)).getD length
  (start, max finish start)

/-- A position between 0 and `length`. -/
def clampPosition (length : Nat) (x : Float) : Nat :=
  Number.toNat64 (Number.lesser (Number.greater x 0.0) (Float.ofNat length))

end BrowserLab.Script
