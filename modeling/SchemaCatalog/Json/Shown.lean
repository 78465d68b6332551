import SchemaCatalog.Json.Written
import SchemaCatalog.Text.Invisible

/-!
# Values as messages show them

A message that quotes a value shows it in a notation of its own: `None`, `True` and `False` for
the constants, numbers with their shortest text, and strings in single quotes, or in double
quotes when they hold a single quote and no double one. A value that is itself a string is shown
bare.
-/

namespace SchemaCatalog.Json

/-- A hexadecimal number with at least `width` digits. -/
def hexPadded (width n : Nat) : List Char :=
  let cs := Nat.toDigits 16 n
  List.replicate (width - cs.length) '0' ++ cs

/-- One character of a shown string between the given quotes. -/
def showChar (mark c : Char) : List Char :=
  if c = mark then ['\\', c]
  else if c = '\\' then ['\\', '\\']
  else if c = '\t' then ['\\', 't']
  else if c = '\n' then ['\\', 'n']
  else if c = '\r' then ['\\', 'r']
  else if Text.isInvisible c then
    if c.toNat < 0x100 then '\\' :: 'x' :: hexPadded 2 c.toNat
    else if c.toNat < 0x10000 then '\\' :: 'u' :: hexPadded 4 c.toNat
    else '\\' :: 'U' :: hexPadded 8 c.toNat
  else [c]

/-- A string inside a shown array or object. -/
def showQuoted (s : String) : String :=
  let cs := s.toList
  let mark : Char := if cs.contains '\'' && !cs.contains '\"' then '\"' else '\''
  String.ofList (mark :: cs.flatMap (showChar mark) ++ [mark])

mutual

/-- A value inside a shown array or object. -/
def Value.shownInside : Value → String
  | .null => "None"
  | .bool b => if b then "True" else "False"
  | .int n => toString n
  | .real x => x.text
  | .str s => showQuoted s
  | .arr items => "[" ++ String.intercalate ", " (shownItems items) ++ "]"
  | .obj fields =>
    let shown := shownFields fields
    let names := (Fields.distinct fields).map (·.1)
    let last (name : String) : Option String :=
      (shown.reverse.find? (·.1 = name)).map fun (key, text) => showQuoted key ++ ": " ++ text
    "\x7b" ++ String.intercalate ", " (names.filterMap last) ++ "\x7d"

/-- The items of a shown array. -/
def shownItems : List Value → List String
  | [] => []
  | v :: rest => v.shownInside :: shownItems rest

/-- The fields of a shown object, with the texts of their values. -/
def shownFields : List (String × Value) → List (String × String)
  | [] => []
  | (name, v) :: rest => (name, v.shownInside) :: shownFields rest

end

/-- A value as a message shows it. -/
def Value.shown : Value → String
  | .str s => s
  | v => v.shownInside

/-- The name of a value's type, as messages give it. -/
def Value.typeName : Value → String
  | .null => "NoneType"
  | .bool _ => "bool"
  | .int _ => "int"
  | .real _ => "float"
  | .str _ => "str"
  | .arr _ => "list"
  | .obj _ => "dict"

end SchemaCatalog.Json
