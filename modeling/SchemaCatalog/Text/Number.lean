import SchemaCatalog.Text.Blank
import SchemaCatalog.Text.Letter

/-!
# Numbers in settings

Numbers as people write them in settings: with blanks around them, a sign, digits of any script,
and single underscores between the digits.
-/

namespace SchemaCatalog.Text

/-- The values of digits, between which single underscores may stand. -/
def digitValues? : List Char → Option (List Nat)
  | [] => none
  | [c] => (digit? c).map ([·])
  | c :: '_' :: rest =>
    match digit? c, digitValues? rest with
    | some n, some ns => some (n :: ns)
    | _, _ => none
  | c :: rest =>
    match digit? c, digitValues? rest with
    | some n, some ns => some (n :: ns)
    | _, _ => none

/-- Whether a sign is a minus, and what follows the sign, if there is one. -/
def signOf : List Char → Bool × List Char
  | '-' :: rest => (true, rest)
  | '+' :: rest => (false, rest)
  | cs => (false, cs)

/-- How many digits an integer may have. -/
def maxIntegerDigits : Nat := 4300

/-- The integer that a text stands for. -/
def integer? (cs : List Char) : Option Int :=
  let (negative, cs) := signOf (trim cs)
  match digitValues? cs with
  | none => none
  | some ns =>
    if maxIntegerDigits < ns.length then none
    else
      let n : Nat := ns.foldl (fun n d => 10 * n + d) 0
      some (if negative then -(n : Int) else n)

/-- Whether a text is empty or consists of digits. -/
def isDigitsOrEmpty (cs : List Char) : Bool := cs.isEmpty || (digitValues? cs).isSome

/-- Whether a text stands for a number, which may have a fraction and an exponent, or be infinite
or none. -/
def isReal (cs : List Char) : Bool :=
  let (_, cs) := signOf ((trim cs).map Char.toLower)
  let (mantissa, exponent) := cs.span (· != 'e')
  let (whole, fraction) := mantissa.span (· != '.')
  let fraction := fraction.drop 1
  ["inf", "infinity", "nan"].contains (String.ofList cs) ||
    (isDigitsOrEmpty whole && isDigitsOrEmpty fraction && !(whole.isEmpty && fraction.isEmpty) &&
      (exponent.isEmpty || (digitValues? (signOf (exponent.drop 1)).2).isSome))

end SchemaCatalog.Text
