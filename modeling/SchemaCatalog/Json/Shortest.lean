import SchemaCatalog.Json.Binary64

/-!
# The shortest decimal text of a number

A binary64 number is shown with the fewest decimal digits that read back as the same number and,
of two such decimals with equally many digits, with the nearer one. Exponents of ten from -4 to
15 are written positionally, all others with an exponent of at least two digits.
-/

namespace SchemaCatalog.Binary64

/-- The fraction that a finite number is, without its sign. -/
def ratio (m : Nat) (e : Int) : Nat × Nat := scale 2 m 1 (-e)

/-- The place of the leading decimal digit: `10 ^ place ≤ num / den < 10 ^ (place + 1)`. -/
def leadingPlace (num den : Nat) : Int :=
  let guess : Int := (decimalWidth num : Int) - decimalWidth den
  let (n, d) := scale 10 num den guess
  if d ≤ n then guess else guess - 1

/-- The one or two decimals with `count` digits next to `num / den` that read back as `x`, the
nearer one first; each is a mantissa and a power of ten. -/
def candidates (x : Binary64) (num den count : Nat) : List (Nat × Int) :=
  let unit := leadingPlace num den - count + 1
  let (n, d) := scale 10 num den unit
  let low := n / d
  let twice := 2 * (n % d)
  let lowFirst : Bool := twice < d || (twice == d && low % 2 == 0)
  let both := if lowFirst then [(low, unit), (low + 1, unit)] else [(low + 1, unit), (low, unit)]
  both.filter fun (digits, power) => decide (ofDecimal false digits power = x)

/-- The fewest digits that read back; seventeen always do. -/
def shortest (m : Nat) (e : Int) : Nat × Int :=
  let (num, den) := ratio m e
  let x := Binary64.finite false m e
  ((List.range 17).firstM fun count => (candidates x num den (count + 1)).head?).getD (m, 0)

/-- The digits and the place of the leading one, without zeros at the end. -/
def trimmed (digits : Nat) (power : Int) : List Char × Int :=
  let cs := Nat.toDigits 10 digits
  (((cs.reverse.dropWhile (· = '0')).reverse), (cs.length : Int) + power - 1)

/-- The exponent part: a sign and at least two digits. -/
def exponentText (place : Int) : List Char :=
  let cs := Nat.toDigits 10 place.natAbs
  'e' :: (if place < 0 then '-' else '+') :: (if cs.length < 2 then '0' :: cs else cs)

/-- Digits whose leading one stands at `place`, with a point or an exponent. -/
def layOut (cs : List Char) (place : Int) : List Char :=
  if place < -4 ∨ 15 < place then
    match cs with
    | [] => ['0']
    | [c] => c :: exponentText place
    | c :: rest => c :: '.' :: rest ++ exponentText place
  else if place < 0 then
    '0' :: '.' :: List.replicate (place.natAbs - 1) '0' ++ cs
  else
    let whole := place.toNat + 1
    let padded := cs ++ List.replicate (whole - cs.length) '0'
    let fraction := padded.drop whole
    padded.take whole ++ '.' :: (if fraction.isEmpty then ['0'] else fraction)

/-- The shortest text of a number. -/
def text : Binary64 → String
  | .nan => "nan"
  | .infinite negative => if negative then "-inf" else "inf"
  | .finite negative m e =>
    let unsigned :=
      if m = 0 then ['0', '.', '0']
      else
        let (digits, power) := shortest m e
        let (cs, place) := trimmed digits power
        layOut cs place
    String.ofList (if negative then '-' :: unsigned else unsigned)

end SchemaCatalog.Binary64
