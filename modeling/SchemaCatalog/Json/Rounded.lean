import SchemaCatalog.Json.Shortest

/-!
# The rounded decimal text of a number

A number that is kept as a text has fifteen significant decimal digits, a half being rounded up.
Zeros at the end are left out, but there is always a digit after the point. Exponents of ten from
-4 to 14 are written positionally.

* `Binary64.rounded` gives the digits, and `Binary64.keptText?` the text. What is no number has no
  text.
-/

namespace SchemaCatalog.Binary64

/-- How many significant digits are kept. -/
def keptDigits : Nat := 15

/-- The integer nearest to `num / den`, a half going up. -/
def roundHalfUp (num den : Nat) : Nat := (2 * num + den) / (2 * den)

/-- A positive fraction rounded to the digits that are kept: a mantissa and a power of ten. -/
def rounded (num den : Nat) : Nat × Int :=
  let unit := leadingPlace num den - keptDigits + 1
  let (n, d) := scale 10 num den unit
  (roundHalfUp n d, unit)

/-- Digits, a point, and more digits, of which there is at least one. -/
def pointed (whole fraction : List Char) : List Char :=
  whole ++ '.' :: (if fraction.isEmpty then ['0'] else fraction)

/-- Digits whose leading one stands at `place`, with a point and perhaps an exponent. -/
def layOutKept (cs : List Char) (place : Int) : List Char :=
  if place < -4 ∨ (keptDigits : Int) ≤ place then
    pointed (cs.take 1) (cs.drop 1) ++ exponentText place
  else if place < 0 then
    pointed ['0'] (List.replicate (place.natAbs - 1) '0' ++ cs)
  else
    let whole := place.toNat + 1
    pointed (cs.take whole ++ List.replicate (whole - cs.length) '0') (cs.drop whole)

/-- The text that is kept of a number. -/
def keptText? : Binary64 → Option String
  | .nan => none
  | .infinite negative => some (if negative then "-Inf" else "Inf")
  | .finite negative m e =>
    if m = 0 then some "0.0"
    else
      let (num, den) := ratio m e
      let (digits, power) := rounded num den
      let (cs, place) := trimmed digits power
      let unsigned := layOutKept cs place
      some (String.ofList (if negative then '-' :: unsigned else unsigned))

end SchemaCatalog.Binary64
