import SchemaCatalog.Json.Rounded

/-!
# Labels

What stands where a name or another text is expected in a request that nobody has checked. As a
rule that is a text (`Label.text`), but it may be anything else, or not be there at all.

A store keeps labels as texts: `Label.stored?` gives the text of those that it can keep. Nothing
is kept of the label `nothing` and of a label that should be a number and is none, which therefore
are the names of nothing.
-/

namespace SchemaCatalog

/-- Why a request makes no sense. -/
inductive Flaw
  /-- Something that is needed is not there. -/
  | absent
  /-- Something is of a type that it cannot have. -/
  | wrongType
  /-- Something has a value that it cannot have. -/
  | wrongValue
  /-- A number does not fit into 64 bits. -/
  | tooLarge
  deriving DecidableEq, Repr

/-- The message for a request that makes no sense. -/
def Flaw.message : Flaw → String
  | .absent => "something is missing"
  | .wrongType => "something is of the wrong type"
  | .wrongValue => "something has a wrong value"
  | .tooLarge => "a number is too large"

/-- What stands where a text is expected. -/
inductive Label
  | text (s : String)
  /-- The value that stands for nothing. -/
  | nothing
  | flag (b : Bool)
  | number (n : Int)
  | real (x : Binary64)
  /-- A value of the given type that consists of other values. Some can be told from others, and are
  equal to none. -/
  | compound (typeName : String) (comparable : Bool)
  /-- Not to be had; to look for it shows that the request makes no sense. -/
  | unreadable (flaw : Flaw)
  deriving DecidableEq, Repr

instance : Inhabited Label := ⟨.nothing⟩

instance : Coe String Label := ⟨.text⟩

/-- Whether an integer fits into 64 bits, the sign included. -/
def fitsInt64 (n : Int) : Bool := -(Int.pow 2 63) ≤ n && n < Int.pow 2 63

namespace Label

/-- A label as messages and prompts show it. -/
def shown : Label → String
  | text s => s
  | nothing => "None"
  | flag b => if b then "True" else "False"
  | number n => toString n
  | real x => x.text
  | compound typeName _ => typeName
  | unreadable flaw => flaw.message

/-- The text as which a store keeps a label; a flag is kept as a number. -/
def stored? : Label → Option String
  | text s => some s
  | flag b => some (if b then "1" else "0")
  | number n => some (toString n)
  | real x => x.keptText?
  | nothing | compound _ _ | unreadable _ => none

/-- The label by which equal labels are told: a flag and a number without fraction count as the
integer that they are. -/
def key : Label → Label
  | flag b => number (if b then 1 else 0)
  | real x => (x.toInt?.map number).getD (real x)
  | label => label

/-- Whether a label is equal to others at all: what consists of other values is not, and neither is
what should be a number and is none. -/
def hasEquals : Label → Bool
  | compound _ _ | real .nan => false
  | _ => true

/-- Whether two labels count as the same name. -/
def agrees (a b : Label) : Bool := a.hasEquals && a.key == b.key

/-- Whether a label counts as nothing where something may be left out. -/
def isHollow (label : Label) : Bool :=
  [nothing, number 0, text ""].contains label.key

/-! ### Numbers -/

/-- The digits with which a text begins, as a number with their count, and the rest. -/
def leadingDigits (cs : List Char) : Nat × Nat × List Char :=
  let digits := cs.takeWhile Char.isDigit
  (digits.foldl (fun n c => 10 * n + (c.toNat - '0'.toNat)) 0, digits.length,
    cs.drop digits.length)

/-- A sign, if there is one, as whether it is a minus, and the rest. -/
def leadingSign : List Char → Bool × List Char
  | '-' :: rest => (true, rest)
  | '+' :: rest => (false, rest)
  | cs => (false, cs)

/-- The exponent at the end of a number. -/
def exponent? : List Char → Option Int
  | [] => some 0
  | e :: rest =>
    let (negative, rest) := leadingSign rest
    match leadingDigits rest with
    | (n, _ + 1, []) =>
      if e = 'e' ∨ e = 'E' then some (if negative then -(n : Int) else n) else none
    | _ => none

/-- The integer that a text stands for, written in decimal, perhaps with a fraction and an exponent,
and with blanks around it. -/
def wholeNumber? (s : String) : Option Int :=
  let isBlank : Char → Bool := fun c => c == ' ' || (9 ≤ c.toNat && c.toNat ≤ 13)
  let cs := ((s.toList.dropWhile isBlank).reverse.dropWhile isBlank).reverse
  let (negative, cs) := leadingSign cs
  let (whole, wholeCount, cs) := leadingDigits cs
  let signed : Int := if negative then -(whole : Int) else whole
  if cs = [] ∧ wholeCount ≠ 0 ∧ fitsInt64 signed then some signed
  else
    let (fraction, fractionCount, cs) :=
      match cs with
      | '.' :: rest => leadingDigits rest
      | cs => (0, 0, cs)
    if wholeCount + fractionCount = 0 then none
    else
      (exponent? cs).bind fun e =>
        (Binary64.ofDecimal negative (whole * Nat.pow 10 fractionCount + fraction)
          (e - fractionCount)).toInt?

/-- The number of a row that a label stands for. What is no integer stands for zero, which is the
number of nothing. -/
def id (label : Label) : Int :=
  match label.key with
  | number n => n
  | text s => (wholeNumber? s).getD 0
  | _ => 0

end Label

end SchemaCatalog
