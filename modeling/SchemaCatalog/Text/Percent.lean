import SchemaCatalog.Text.Utf8

/-!
# Percent encoding

In an address, a character that could be taken for part of its structure stands as its bytes, each
a percent sign and two hexadecimal digits. `percentEncode` and `percentDecode` write and read
that; in options a space may also stand as a plus sign (`formEncode`, `formDecode`).
-/

namespace SchemaCatalog.Text

/-- Whether a character always stands for itself. -/
def isUnreserved (c : Char) : Bool :=
  c.isAlphanum || c == '_' || c == '.' || c == '-' || c == '~'

/-- The digits of hexadecimal numbers. -/
def hexDigits : List Char := "0123456789ABCDEF".toList

/-- A byte as a percent sign and two digits. -/
def percentByte (b : Nat) : List Char :=
  ['%', hexDigits.getD (b / 16) '0', hexDigits.getD (b % 16) '0']

/-- A text in which all characters are encoded but the unreserved ones and those to be kept. -/
def percentEncode (kept : List Char) (cs : List Char) : List Char :=
  cs.flatMap fun c =>
    if isUnreserved c || kept.contains c then [c] else (utf8Bytes c).flatMap percentByte

/-- A text of an option; a space stands as a plus sign. -/
def formEncode (cs : List Char) : List Char :=
  (percentEncode [' '] cs).map fun c => if c = ' ' then '+' else c

/-- The value of a hexadecimal digit, in either case. -/
def hexValue? (c : Char) : Option Nat := hexDigits.idxOf? c.toUpper

/-- The byte that two hexadecimal digits stand for. -/
def hexByte? (c d : Char) : Option Nat :=
  match hexValue? c, hexValue? d with
  | some high, some low => some (16 * high + low)
  | _, _ => none

/-- Reads an encoded text; `bytes` are those just before, last one first. Bytes with a character
outside ASCII between them belong to different characters. -/
def percentDecodeFrom (bytes : List Nat) : List Char → List Char
  | [] => utf8Text bytes.reverse
  | '%' :: c :: d :: rest =>
    match hexByte? c d with
    | some b => percentDecodeFrom (b :: bytes) rest
    | none => percentDecodeFrom ('%'.toNat :: bytes) (c :: d :: rest)
  | c :: rest =>
    if c.toNat < 0x80 then percentDecodeFrom (c.toNat :: bytes) rest
    else utf8Text bytes.reverse ++ c :: percentDecodeFrom [] rest

/-- Reads an encoded text. A percent sign without two digits after it stands for itself. -/
def percentDecode (cs : List Char) : List Char := percentDecodeFrom [] cs

/-- Reads the encoded text of an option, in which a plus sign stands for a space. -/
def formDecode (cs : List Char) : List Char :=
  percentDecode (cs.map fun c => if c = '+' then ' ' else c)

end SchemaCatalog.Text
