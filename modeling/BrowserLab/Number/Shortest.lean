import BrowserLab.Number.Binary

/-!
# The fewest digits that read back

Every real number between two neighbouring midpoints rounds to the same `Float`.  Of the decimal
numbers in that interval the ones with the fewest digits are candidates, and of these the nearest
to the value is taken.  All is done in whole numbers: a number `m * 2 ^ e` is compared with a
decimal `d * 10 ^ p` after both have been multiplied by what clears the denominators.
-/

namespace BrowserLab.Number

/-- A decimal number `digits * 10 ^ exponent`. -/
structure Decimal where
  digits : Nat
  exponent : Int
  deriving Repr, DecidableEq

/-- The two whole numbers whose quotient is `n * 2 ^ e`. -/
def binaryRatio (n : Nat) (e : Int) : Nat × Nat :=
  if e < 0 then (n, Nat.pow 2 (-e).toNat) else (n * Nat.pow 2 e.toNat, 1)

/-- The whole number of steps of size `10 ^ p` in `num / den`. -/
def gridFloor (num den : Nat) (p : Int) : Nat :=
  if p < 0 then num * Nat.pow 10 (-p).toNat / den else num / (den * Nat.pow 10 p.toNat)

/-- Compares `d * 10 ^ p` with `num / den`. -/
def compareGrid (d : Nat) (p : Int) (num den : Nat) : Ordering :=
  if p < 0 then compare (d * den) (num * Nat.pow 10 (-p).toNat)
  else compare (d * Nat.pow 10 p.toNat * den) num

/-- The reals that round to one number: `low / den` to `high / den` about `mid / den`. -/
structure Rounding where
  low : Nat
  mid : Nat
  high : Nat
  den : Nat
  closed : Bool

/-- The interval of a number that is not zero.  Below a power of two the neighbour is nearer. -/
def Parts.rounding (p : Parts) : Rounding :=
  let below := if p.mantissa = Nat.pow 2 52 && -1074 < p.exponent then 1 else 2
  let (mid, den) := binaryRatio (4 * p.mantissa) (p.exponent - 2)
  let unit := mid / (4 * p.mantissa)
  ⟨mid - below * unit, mid, mid + 2 * unit, den, p.mantissa % 2 = 0⟩

/-- Is `d * 10 ^ p` in the interval? -/
def Rounding.holds (r : Rounding) (d : Nat) (p : Int) : Bool :=
  match compareGrid d p r.low r.den, compareGrid d p r.high r.den with
  | .gt, .lt => true
  | .eq, _ => r.closed
  | _, .eq => r.closed
  | _, _ => false

/-- The decimal on the grid of steps `10 ^ p` that is in the interval and nearest to its middle;
of two equally near ones the even one. -/
def Rounding.onGrid? (r : Rounding) (p : Int) : Option Nat :=
  let d := gridFloor r.mid r.den p
  match r.holds d p, r.holds (d + 1) p with
  | false, false => none
  | true, false => some d
  | false, true => some (d + 1)
  | true, true =>
    match compareGrid (2 * d + 1) p (2 * r.mid) r.den with
    | .gt => some d
    | .lt => some (d + 1)
    | .eq => some (if d % 2 = 0 then d else d + 1)

/-- The finest grids are tried last: `n` more digits may be added to the step `10 ^ p`. -/
def Rounding.search (r : Rounding) (p : Int) : Nat → Decimal
  | 0 => ⟨gridFloor r.mid r.den p, p⟩
  | n + 1 =>
    match r.onGrid? p with
    | some d => if d = 0 then search r (p - 1) n else ⟨d, p⟩
    | none => search r (p - 1) n

/-- The least `k` of three candidates with `num / den < 10 ^ k`. -/
def decimalPoint (num den : Nat) (estimate : Int) : Int :=
  if compareGrid 1 estimate num den = .gt then estimate
  else if compareGrid 1 (estimate + 1) num den = .gt then estimate + 1
  else estimate + 2

/-- Without the zeros at the end; `n` bounds their number. -/
def Decimal.strip (d : Decimal) : Nat → Decimal
  | 0 => d
  | n + 1 =>
    if d.digits ≠ 0 && d.digits % 10 = 0 then strip ⟨d.digits / 10, d.exponent + 1⟩ n else d

/-- The decimal number with the fewest digits that rounds to the given one, nearest to it. -/
def Parts.shortest (p : Parts) : Decimal :=
  if p.mantissa = 0 then ⟨0, 0⟩
  else
    let r := p.rounding
    let estimate := ((p.mantissa.log2 : Int) + p.exponent) * 30103 / 100000
    let point := decimalPoint r.mid r.den estimate
    (r.search (point - 1) 18).strip 20

end BrowserLab.Number
