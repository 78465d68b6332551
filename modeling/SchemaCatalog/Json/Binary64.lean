/-!
# Binary floating-point numbers, exactly

A real number written in a document is held as the binary64 number nearest to it. Everything
here is exact natural-number arithmetic, so that a statement about a written number is a
statement about integers.

* `Binary64.ofRatio` rounds a positive fraction to the nearest binary64 number, a tie going to
  the even mantissa.
* `Binary64.ofDecimal` does so for a decimal mantissa and a power of ten.
* `Binary64.toInt?` is the integer that a number is, if it is one.
-/

namespace SchemaCatalog

/-- A binary64 number: `mantissa · 2 ^ exponent` with a sign, an infinity, or no number. -/
inductive Binary64
  | finite (negative : Bool) (mantissa : Nat) (exponent : Int)
  | infinite (negative : Bool)
  | nan
  deriving DecidableEq, Repr, Inhabited

namespace Binary64

/-- The smallest exponent of a binary64 mantissa. -/
def minExponent : Int := -1074

/-- The largest exponent of a binary64 mantissa. -/
def maxExponent : Int := 971

/-- The fraction `num / den · base ^ (-shift)`, as a numerator and a denominator. -/
def scale (base num den : Nat) (shift : Int) : Nat × Nat :=
  match shift with
  | .ofNat n => (num, den * base.pow n)
  | .negSucc n => (num * base.pow (n + 1), den)

/-- The integer nearest to `num / den`, a half going to the even neighbour. -/
def roundHalfEven (num den : Nat) : Nat :=
  let q := num / den
  let twice := 2 * (num % den)
  if twice < den then q
  else if den < twice then q + 1
  else if q % 2 = 0 then q else q + 1

/-- The exponent at which the mantissa of `num / den` has 53 binary digits, or the smallest
exponent when the fraction is too small for that. -/
def exponentFor (num den : Nat) : Int :=
  let guess : Int := (num.log2 : Int) - (den.log2 : Int) - 53
  let (n, d) := scale 2 num den guess
  let fitted := if n / d < Nat.pow 2 53 then guess else guess + 1
  max fitted minExponent

/-- The binary64 number nearest to `num / den`, with the given sign. -/
def ofRatio (negative : Bool) (num den : Nat) : Binary64 :=
  if num = 0 then .finite negative 0 minExponent
  else
    let e := exponentFor num den
    let (n, d) := scale 2 num den e
    let m := roundHalfEven n d
    let (m, e) := if m = Nat.pow 2 53 then (Nat.pow 2 52, e + 1) else (m, e)
    if maxExponent < e then .infinite negative else .finite negative m e

/-- How many decimal digits a number has. -/
def decimalWidth (n : Nat) : Nat := (Nat.toDigits 10 n).length

/-- The binary64 number nearest to `digits · 10 ^ exponent`. A number whose leading digit stands
far outside the range is decided by that place alone. -/
def ofDecimal (negative : Bool) (digits : Nat) (exponent : Int) : Binary64 :=
  let place : Int := decimalWidth digits + exponent
  if digits = 0 ∨ place < -400 then .finite negative 0 minExponent
  else if 400 < place then .infinite negative
  else
    let (n, d) := scale 10 digits 1 (-exponent)
    ofRatio negative n d

/-- The integer that a number is, when it has no fractional part. -/
def toInt? : Binary64 → Option Int
  | .finite negative m e =>
    let magnitude : Option Nat :=
      match e with
      | .ofNat n => some (m * Nat.pow 2 n)
      | .negSucc n => if m % Nat.pow 2 (n + 1) = 0 then some (m / Nat.pow 2 (n + 1)) else none
    magnitude.map fun n => if negative then -(n : Int) else n
  | _ => none

end Binary64

end SchemaCatalog
