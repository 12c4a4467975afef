import BrowserLab.Number.Text

/-!
# A fixed number of decimal places

The value of a number is rounded exactly; what lies in the middle between two candidates goes to
the even one.
-/

namespace BrowserLab.Number

/-- `num / den` to the nearest whole number, the even one of two equally near. -/
def roundEven (num den : Nat) : Nat :=
  let q := num / den
  let r := num % den
  if 2 * r < den then q
  else if den < 2 * r then q + 1
  else if q % 2 = 0 then q else q + 1

/-- The size of a number in units of the last of `places` decimal places. -/
def Parts.units (p : Parts) (places : Nat) : Nat :=
  let (num, den) := binaryRatio p.mantissa p.exponent
  roundEven (num * Nat.pow 10 places) den

/-- The number with exactly `places` decimal places. -/
def fixed (places : Nat) (x : Float) : String :=
  match shape x with
  | .nan => "NaN"
  | .infinite negative => if negative then "-inf" else "inf"
  | .finite p => withSign p.negative (placePoint (digitChars (p.units places)) places)

end BrowserLab.Number
