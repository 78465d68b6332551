import SchemaCatalog.Json.Value
import SchemaCatalog.Json.Shortest

/-!
# Writing values

`Value.write` gives the compact document text of a value. Characters outside ASCII stand for
themselves; quotes, backslashes and control characters are escaped. A number that is no integer
is written with the fewest digits that read back.
-/

namespace SchemaCatalog.Json

/-- Four hexadecimal digits. -/
def hex4 (n : Nat) : List Char :=
  let cs := Nat.toDigits 16 n
  List.replicate (4 - cs.length) '0' ++ cs

/-- One character of a string, escaped where it has to be. -/
def escape (c : Char) : List Char :=
  if c = '\"' then ['\\', '\"']
  else if c = '\\' then ['\\', '\\']
  else if c < ' ' then '\\' :: 'u' :: hex4 c.toNat
  else [c]

/-- A string in quotes. -/
def quote (s : String) : String :=
  String.ofList ('\"' :: s.toList.flatMap escape ++ ['\"'])

/-- The literal of a binary64 number. -/
def realText : Binary64 → String
  | .nan => "NaN"
  | .infinite negative => if negative then "-Infinity" else "Infinity"
  | x => x.text

mutual

/-- The compact document text of a value. -/
def Value.write : Value → String
  | .null => "null"
  | .bool b => if b then "true" else "false"
  | .int n => toString n
  | .real x => realText x
  | .str s => quote s
  | .arr items => "[" ++ String.intercalate "," (writeItems items) ++ "]"
  | .obj fields => "\x7b" ++ String.intercalate "," (writeFields fields) ++ "\x7d"

/-- The texts of an array's items. -/
def writeItems : List Value → List String
  | [] => []
  | v :: rest => v.write :: writeItems rest

/-- The texts of an object's fields. -/
def writeFields : List (String × Value) → List String
  | [] => []
  | (name, v) :: rest => (quote name ++ ":" ++ v.write) :: writeFields rest

end

end SchemaCatalog.Json
