/-!
# Random draws

Random numbers come from an endless source that is read in order.  Nothing is assumed of the
source, so what is proved of a computation that draws holds whatever is drawn.
-/

namespace BrowserLab

/-- A source of 64-bit numbers and how many of them have been drawn. -/
structure Draws where
  source : Nat → Nat
  position : Nat

namespace Draws

/-- Nothing drawn yet. -/
def ofSource (source : Nat → Nat) : Draws := ⟨source, 0⟩

/-- The source that is always zero. -/
def zeros : Draws := ofSource fun _ => 0

/-- Mixes the bits of a number. -/
def scramble (n : UInt64) : UInt64 :=
  let n := (n ^^^ (n >>> 30)) * 0xbf58476d1ce4e5b9
  let n := (n ^^^ (n >>> 27)) * 0x94d049bb133111eb
  n ^^^ (n >>> 31)

/-- A source that looks random and is determined by its seed. -/
def seeded (seed : Nat) : Draws :=
  ofSource fun i => (scramble (UInt64.ofNat (seed + (i + 1) * 0x9e3779b97f4a7c15))).toNat

/-- The next number. -/
def next (d : Draws) : Nat × Draws := (d.source d.position, { d with position := d.position + 1 })

/-- A number below `bound`. -/
def below (d : Draws) (bound : Nat) : Nat × Draws :=
  let (n, d) := d.next
  (n % bound, d)

/-- As many numbers below `bound` as asked for. -/
def manyBelow (d : Draws) (bound : Nat) : Nat → List Nat × Draws
  | 0 => ([], d)
  | count + 1 =>
    let (n, d) := d.below bound
    let (rest, d) := d.manyBelow bound count
    (n :: rest, d)

/-- A number that is at least 0 and less than 1. -/
def unit (d : Draws) : Float × Draws :=
  let (n, d) := d.below (Nat.pow 2 53)
  (Float.ofNat n / Float.ofNat (Nat.pow 2 53), d)

end Draws

end BrowserLab
