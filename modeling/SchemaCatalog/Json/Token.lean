import SchemaCatalog.Json.Value

/-!
# Tokens of a JSON document

A document is cut into tokens by a machine that reads one character at a time: brackets, colons
and commas stand for themselves, a string runs to its closing quote, and everything else up to
the next blank, quote or bracket is one literal.

* `Lexer.step` is the machine, `tokens?` runs it over a text.
* `literal?` gives the value of a literal: a number, `true`, `false`, `null`, or one of `NaN`,
  `Infinity` and `-Infinity`.
* A string has no raw control character, and a `\u` escape names a character: a code unit of a
  surrogate pair counts only together with its partner.
-/

namespace SchemaCatalog.Json

/-- A token of a document; a literal is kept as its value. -/
inductive Token
  | openArray
  | closeArray
  | openObject
  | closeObject
  | colon
  | comma
  | str (s : String)
  | literal (v : Value)

/-! ### Literals -/

/-- The longest beginning that consists of decimal digits, and the rest. -/
def digitsOf (cs : List Char) : List Char × List Char := cs.span Char.isDigit

/-- The number that decimal digits stand for. -/
def natOf (digits : List Char) : Nat :=
  digits.foldl (fun n c => 10 * n + (c.toNat - '0'.toNat)) 0

/-- How many digits a number may have before its point. A minus sign is not one of them. -/
def maxDigits : Nat := 4300

/-- The exponent of a number, from the character after its mantissa on. -/
def exponent? : List Char → Option Int
  | [] => some 0
  | c :: rest =>
    if c = 'e' ∨ c = 'E' then
      let (negative, digits) : Bool × List Char :=
        match rest with
        | '-' :: digits => (true, digits)
        | '+' :: digits => (false, digits)
        | digits => (false, digits)
      if digits.isEmpty ∨ ¬ digits.all Char.isDigit then none
      else some (if negative then -(natOf digits : Int) else natOf digits)
    else none

/-- A number without its sign: no superfluous leading zero, not too many digits, digits on both
sides of a point, and an exponent with at least one digit. Without point and exponent it is an
integer. -/
def unsigned? (negative : Bool) (cs : List Char) : Option Value :=
  let (whole, rest) := digitsOf cs
  if whole.isEmpty ∨ (whole.head? = some '0' ∧ 1 < whole.length) ∨ maxDigits < whole.length
  then none
  else
    match rest with
    | [] => some (.int (if negative then -(natOf whole : Int) else natOf whole))
    | '.' :: rest =>
      let (fraction, rest) := digitsOf rest
      if fraction.isEmpty then none
      else (exponent? rest).map fun e =>
        .real (.ofDecimal negative (natOf (whole ++ fraction)) (e - fraction.length))
    | rest => (exponent? rest).map fun e => .real (.ofDecimal negative (natOf whole) e)

/-- A number with its sign. -/
def number? : List Char → Option Value
  | '-' :: cs => unsigned? true cs
  | cs => unsigned? false cs

/-- The value of a literal. -/
def literal? (cs : List Char) : Option Value :=
  match String.ofList cs with
  | "null" => some .null
  | "true" => some (.bool true)
  | "false" => some (.bool false)
  | "NaN" => some (.real .nan)
  | "Infinity" => some (.real (.infinite false))
  | "-Infinity" => some (.real (.infinite true))
  | _ => number? cs

/-! ### The machine -/

/-- What stands before the next character. The characters of the literal or string being read
are kept last one first. -/
inductive Lexer.Place
  | between
  | inLiteral (read : List Char)
  | inString (read : List Char)
  /-- After a backslash. -/
  | inEscape (read : List Char)
  /-- After `count` digits of a `\u` escape with the value `code`. -/
  | inCode (read : List Char) (count code : Nat)
  /-- After the first half of a surrogate pair. -/
  | afterHigh (read : List Char) (high : Nat)
  /-- After the first half of a surrogate pair and a backslash. -/
  | inLowEscape (read : List Char) (high : Nat)
  /-- After `count` digits of the second half of a surrogate pair. -/
  | inLow (read : List Char) (high count code : Nat)

/-- The lexer's state: the tokens so far, last one first, and the place reached. -/
structure Lexer where
  tokens : List Token
  place : Lexer.Place

namespace Lexer

/-- The lexer before the first character. -/
def start : Lexer := ⟨[], .between⟩

/-- Whether a character separates tokens without being one. -/
def isSpace (c : Char) : Bool := c == ' ' || c == '\t' || c == '\n' || c == '\r'

/-- The token that a single character is. -/
def mark? : Char → Option Token
  | '[' => some .openArray
  | ']' => some .closeArray
  | '\x7b' => some .openObject
  | '\x7d' => some .closeObject
  | ':' => some .colon
  | ',' => some .comma
  | _ => none

/-- The character that a one-letter escape stands for. -/
def escaped? : Char → Option Char
  | '\"' => some '\"'
  | '\\' => some '\\'
  | '/' => some '/'
  | 'b' => some '\x08'
  | 'f' => some '\x0c'
  | 'n' => some '\n'
  | 'r' => some '\r'
  | 't' => some '\t'
  | _ => none

/-- The value of a hexadecimal digit, in either case. -/
def hexDigit? (c : Char) : Option Nat :=
  if c.isDigit then some (c.toNat - '0'.toNat)
  else if 'a' ≤ c ∧ c ≤ 'f' then some (c.toNat - 'a'.toNat + 10)
  else if 'A' ≤ c ∧ c ≤ 'F' then some (c.toNat - 'A'.toNat + 10)
  else none

/-- Whether a code unit is the first half of a surrogate pair. -/
def isHigh (code : Nat) : Bool := 0xD800 ≤ code && code < 0xDC00

/-- Whether a code unit is the second half of a surrogate pair. -/
def isLow (code : Nat) : Bool := 0xDC00 ≤ code && code < 0xE000

/-- The character that a surrogate pair stands for. -/
def pairChar (high low : Nat) : Char :=
  Char.ofNat (0x10000 + (high - 0xD800) * 0x400 + (low - 0xDC00))

/-- Reads a character outside strings and literals. -/
def outside (tokens : List Token) (c : Char) : Lexer :=
  if isSpace c then ⟨tokens, .between⟩
  else if c = '\"' then ⟨tokens, .inString []⟩
  else
    match mark? c with
    | some token => ⟨token :: tokens, .between⟩
    | none => ⟨tokens, .inLiteral [c]⟩

/-- Whether a character ends a literal. -/
def endsLiteral (c : Char) : Bool := isSpace c || c == '\"' || (mark? c).isSome

/-- Reads one character. -/
def step (s : Lexer) (c : Char) : Option Lexer :=
  match s.place with
  | .between => some (outside s.tokens c)
  | .inLiteral read =>
    if endsLiteral c then
      (literal? read.reverse).map fun v => outside (.literal v :: s.tokens) c
    else some ⟨s.tokens, .inLiteral (c :: read)⟩
  | .inString read =>
    if c = '\"' then some ⟨.str (.ofList read.reverse) :: s.tokens, .between⟩
    else if c = '\\' then some ⟨s.tokens, .inEscape read⟩
    else if c < ' ' then none
    else some ⟨s.tokens, .inString (c :: read)⟩
  | .inEscape read =>
    if c = 'u' then some ⟨s.tokens, .inCode read 0 0⟩
    else (escaped? c).map fun d => ⟨s.tokens, .inString (d :: read)⟩
  | .inCode read count code => do
    let code := 16 * code + (← hexDigit? c)
    if count < 3 then some ⟨s.tokens, .inCode read (count + 1) code⟩
    else if isHigh code then some ⟨s.tokens, .afterHigh read code⟩
    else if isLow code then none
    else some ⟨s.tokens, .inString (.ofNat code :: read)⟩
  | .afterHigh read high =>
    if c = '\\' then some ⟨s.tokens, .inLowEscape read high⟩ else none
  | .inLowEscape read high =>
    if c = 'u' then some ⟨s.tokens, .inLow read high 0 0⟩ else none
  | .inLow read high count code => do
    let code := 16 * code + (← hexDigit? c)
    if count < 3 then some ⟨s.tokens, .inLow read high (count + 1) code⟩
    else if isLow code then some ⟨s.tokens, .inString (pairChar high code :: read)⟩
    else none

/-- The tokens, when the text may end here. -/
def finish (s : Lexer) : Option (List Token) :=
  match s.place with
  | .between => some s.tokens.reverse
  | .inLiteral read => (literal? read.reverse).map fun v => (.literal v :: s.tokens).reverse
  | _ => none

end Lexer

/-- The tokens of a text. -/
def tokens? (cs : List Char) : Option (List Token) :=
  (cs.foldlM Lexer.step Lexer.start).bind Lexer.finish

end SchemaCatalog.Json
