/-!
# What a floating-point number is

A finite `Float` is a sign and an exact dyadic number `mantissa * 2 ^ exponent`.  This module takes
it apart, puts it together, and defines through the parts all that is asked of a number exactly:
its integer part, its nearest integers, the remainder of a division and conversions that clamp.
-/

namespace BrowserLab.Number

/-- A sign and a dyadic number `mantissa * 2 ^ exponent`. -/
structure Parts where
  negative : Bool
  mantissa : Nat
  exponent : Int
  deriving Repr, DecidableEq

/-- The three kinds of floating-point numbers. -/
inductive Shape where
  | nan
  | infinite (negative : Bool)
  | finite (parts : Parts)
  deriving Repr, DecidableEq

/-- The parts of a number, read off its bits: one bit of sign, eleven of exponent, 52 of
fraction. -/
def shape (x : Float) : Shape :=
  let bits := x.toBits.toNat
  let negative := bits / Nat.pow 2 63 = 1
  let exponent : Nat := bits / Nat.pow 2 52 % Nat.pow 2 11
  let fraction := bits % Nat.pow 2 52
  if exponent = 2047 then
    if fraction = 0 then .infinite negative else .nan
  else if exponent = 0 then .finite ⟨negative, fraction, -1074⟩
  else .finite ⟨negative, Nat.pow 2 52 + fraction, (exponent : Int) - 1075⟩

/-- The number with the given parts, whose value must be one that a `Float` can hold. -/
def ofParts (p : Parts) : Float :=
  let sign := if p.negative then Nat.pow 2 63 else 0
  if p.mantissa = 0 then Float.ofBits (UInt64.ofNat sign)
  else
    let excess : Int := (52 : Int) - p.mantissa.log2
    let shift := min excess (p.exponent + 1074)
    let mantissa := if shift < 0 then p.mantissa >>> (-shift).toNat else p.mantissa <<< shift.toNat
    let exponent := p.exponent - shift
    let body :=
      if mantissa < Nat.pow 2 52 then mantissa
      else (exponent + 1075).toNat * Nat.pow 2 52 + (mantissa - Nat.pow 2 52)
    Float.ofBits (UInt64.ofNat (sign + body))

/-- The size of the integer part. -/
def Parts.whole (p : Parts) : Nat :=
  if p.exponent < 0 then p.mantissa >>> (-p.exponent).toNat else p.mantissa <<< p.exponent.toNat

/-- Is there nothing behind the point? -/
def Parts.integral (p : Parts) : Bool :=
  0 ≤ p.exponent || p.mantissa % Nat.pow 2 (-p.exponent).toNat = 0

/-- The integer part with its sign. -/
def Parts.truncate (p : Parts) : Int :=
  if p.negative then -(p.whole : Int) else p.whole

/-- A finite number with nothing behind the point. -/
def isIntegral (x : Float) : Bool :=
  match shape x with
  | .finite p => p.integral
  | _ => false

/-- The sign put before a size. -/
def signed (negative : Bool) (n : Nat) : Float :=
  if negative then -Float.ofNat n else Float.ofNat n

/-- The number without what is behind the point. -/
def trunc (x : Float) : Float :=
  match shape x with
  | .finite p => if p.integral then x else signed p.negative p.whole
  | _ => x

/-- The greatest integer that is not above the number. -/
def floor (x : Float) : Float :=
  match shape x with
  | .finite p =>
    if p.integral then x
    else if p.negative then signed true (p.whole + 1) else signed false p.whole
  | _ => x

/-- The least integer that is not below the number. -/
def ceil (x : Float) : Float :=
  match shape x with
  | .finite p =>
    if p.integral then x
    else if p.negative then signed true p.whole else signed false (p.whole + 1)
  | _ => x

/-- The nearest integer to zero within bounds; not-a-number counts as zero. -/
def clampInt (low high : Int) (x : Float) : Int :=
  match shape x with
  | .nan => 0
  | .infinite negative => if negative then low else high
  | .finite p => max low (min high p.truncate)

/-- The integer part as a 64-bit signed integer, clamped. -/
def toInt64 (x : Float) : Int := clampInt (-(Nat.pow 2 63 : Int)) ((Nat.pow 2 63 : Int) - 1) x

/-- The integer part as a 64-bit natural number, clamped. -/
def toNat64 (x : Float) : Nat := (clampInt 0 ((Nat.pow 2 64 : Int) - 1) x).toNat

/-- The integer part as a 16-bit natural number, clamped. -/
def toNat16 (x : Float) : Nat := (clampInt 0 ((Nat.pow 2 16 : Int) - 1) x).toNat

/-- What remains of `x` when as many whole `y` as fit are taken away; it has the sign of `x`. -/
def remainder (x y : Float) : Float :=
  match shape x, shape y with
  | .finite p, .finite q =>
    if q.mantissa = 0 then 0.0 / 0.0
    else
      let e := min p.exponent q.exponent
      let a := p.mantissa <<< (p.exponent - e).toNat
      let b := q.mantissa <<< (q.exponent - e).toNat
      ofParts ⟨p.negative, a % b, e⟩
  | .finite _, .infinite _ => x
  | _, _ => 0.0 / 0.0

/-- The greater of two numbers; a number wins over not-a-number. -/
def greater (x y : Float) : Float :=
  if x.isNaN then y else if y.isNaN then x else if x < y then y else x

/-- The smaller of two numbers; a number wins over not-a-number. -/
def lesser (x y : Float) : Float :=
  if x.isNaN then y else if y.isNaN then x else if y < x then y else x

/-- Not-a-number. -/
def nan : Float := 0.0 / 0.0

/-- The infinite number above all others. -/
def infinity : Float := 1.0 / 0.0

end BrowserLab.Number
