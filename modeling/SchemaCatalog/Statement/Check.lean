import SchemaCatalog.Json.Document
import SchemaCatalog.Json.Shown
import SchemaCatalog.Label
import SchemaCatalog.Statement.Problem

/-!
# Checking statements

`Statement.check` decides whether a value is a statement and otherwise reports every problem it
has, fields in the order of their declaration and items in their order. A tag chooses among the
kinds of statements and of `ALTER TABLE` operations; a value without a known tag has that problem
alone. `Statement.read` checks the value of a document.

Fields that a shape does not know are ignored. A truth value may be written in several ways
(`truthValue`). In a document, an integer with many digits is kept as its digits and is no number
that a truth value is read from; that is the only rule for which it matters how a value arrives.
-/

namespace SchemaCatalog

open Json

/-! ### Simple values -/

/-- A text that is not empty. -/
def NonemptyString.check : Value → Checked NonemptyString
  | .str s => if h : s = "" then .fault .emptyString else .ok ⟨s, h⟩
  | _ => .fault .notString

/-- The kind of object that a value names. -/
def ObjectKind.check (v : Value) : Checked ObjectKind :=
  match v.text?.bind ObjectKind.ofWord? with
  | some kind => .ok kind
  | none => .fault .notObjectKind

/-- A text with its ASCII letters in lower case. -/
def lowerAscii (s : String) : String := String.ofList (s.toList.map Char.toLower)

/-- The truth value that an integer stands for. -/
def truthOfInt (n : Int) : Checked Bool :=
  if n = 1 then .ok true else if n = 0 then .ok false else .fault .unreadableBool

/-- The truth value that a text stands for; the case of ASCII letters does not matter. -/
def truthOfText (s : String) : Checked Bool :=
  let word := lowerAscii s
  if ["true", "t", "yes", "y", "on", "1"].contains word then .ok true
  else if ["false", "f", "no", "n", "off", "0"].contains word then .ok false
  else .fault .unreadableBool

/-- How many digits an integer in a document may have to be taken for a number. -/
def maxIntDigits : Nat := 18

/-- Whether an integer is taken for a number where a truth value is expected: one that is handed
over as such if it fits into 64 bits, and one in a document if it does not have too many digits. -/
def Form.takesInt (form : Form) (n : Int) : Bool :=
  match form with
  | .value => fitsInt64 n
  | .document => n.natAbs < Nat.pow 10 maxIntDigits

/-- The truth value that a value stands for: a constant, an integer that is taken for a number, a
binary64 number without fraction that is strictly between the ends of the 64-bit range, or a
word. -/
def truthValue (form : Form) : Value → Checked Bool
  | .bool b => .ok b
  | .int n => if form.takesInt n then truthOfInt n else .fault .notBool
  | .real x =>
    match x.toInt? with
    | some n => if -(Int.pow 2 63) < n ∧ n < Int.pow 2 63 then truthOfInt n else .fault .notBool
    | none => .fault .notBool
  | .str s => truthOfText s
  | _ => .fault .notBool

/-! ### Fields -/

section Fields

variable {α : Type}

/-- A field that has to be there. -/
def requiredField (fields : Fields) (name : String) (check : Value → Checked α) : Checked α :=
  Checked.under (.field name) <|
    match Fields.get? fields name with
    | some v => check v
    | none => .fault .missing

/-- A field with a default. -/
def optionalField (fields : Fields) (name : String) (default : α) (check : Value → Checked α) :
    Checked α :=
  match Fields.get? fields name with
  | some v => (check v).under (.field name)
  | none => .ok default

/-- An array, item by item. -/
def checkList (check : Value → Checked α) : Value → Checked (List α)
  | .arr items => Checked.items (items.map check)
  | _ => .fault .notList

/-- An array with at least one item. -/
def checkNonemptyList (check : Value → Checked α) (v : Value) : Checked (NonemptyList α) :=
  match checkList check v with
  | .ok xs => if h : xs = [] then .fault .emptyList else .ok ⟨xs, h⟩
  | .faulty ps => .faulty ps

/-- An object whose shape depends on the tag in the field `name`. -/
def checkTagged (name : String) (tags : List String)
    (check : String → Fields → Option (Checked α)) : Value → Checked α
  | .obj fields =>
    match Fields.get? fields name with
    | none => .fault (.noTag name)
    | some tag =>
      match tag.text?.bind fun word => (check word fields).map (Checked.under (.tag word)) with
      | some checked => checked
      | none => .fault (.unknownTag name tag.shown tags)
  | _ => .fault .notTagged

end Fields

/-! ### The shapes -/

/-- A column definition. -/
def ColumnDef.check (form : Form) : Value → Checked ColumnDef
  | .obj fields =>
    (((requiredField fields "name" NonemptyString.check).map ColumnDef.mk).and
      (requiredField fields "data_type" NonemptyString.check)).and
      (optionalField fields "is_primary_key" false (truthValue form))
  | _ => .fault (.notObject "ColumnDef")

/-- How many queries may be nested in one another. -/
def maxQueryDepth : Nat := 254

/-- A query, with the queries nested in it, when so many queries may be nested in one another. Of
a value that is nested too deep nothing else is said. -/
def Query.checkWithin : Nat → Value → Checked (Query NonemptyString)
  | 0, _ => .fault .tooDeep
  | room + 1, .obj fields =>
    (((requiredField fields "text" NonemptyString.check).map Query.mk).and
      (optionalField fields "relations" [] (checkList NonemptyString.check))).and
      (optionalField fields "subqueries" [] (checkList (Query.checkWithin room)))
  | _ + 1, _ => .fault (.notObject "Query")

/-- A query. -/
def Query.check : Value → Checked (Query NonemptyString) := Query.checkWithin maxQueryDepth

/-- The fields of an `ALTER TABLE` operation. -/
def Alteration.checkFields (form : Form) (fields : Fields) : AlterationKind → Checked Alteration
  | .addColumn => (requiredField fields "column_def" (ColumnDef.check form)).map .addColumn
  | .dropColumn => (requiredField fields "name" NonemptyString.check).map .dropColumn
  | .renameColumn =>
    ((requiredField fields "old_name" NonemptyString.check).map .renameColumn).and
      (requiredField fields "new_name" NonemptyString.check)

/-- An `ALTER TABLE` operation. -/
def Alteration.check (form : Form) : Value → Checked Alteration :=
  checkTagged "op" (AlterationKind.all.map (·.word)) fun tag fields =>
    (AlterationKind.ofWord? tag).map (Alteration.checkFields form fields)

/-- The fields of a statement. -/
def Statement.checkFields (form : Form) (fields : Fields) : StatementKind → Checked Statement
  | .createDatabase => (requiredField fields "name" NonemptyString.check).map .createDatabase
  | .use => (requiredField fields "name" NonemptyString.check).map .use
  | .dropDatabase => (requiredField fields "name" NonemptyString.check).map .dropDatabase
  | .createTable =>
    ((requiredField fields "name" NonemptyString.check).map .createTable).and
      (optionalField fields "columns" [] (checkList (ColumnDef.check form)))
  | .drop =>
    ((requiredField fields "object_kind" ObjectKind.check).map .drop).and
      (requiredField fields "names" (checkNonemptyList NonemptyString.check))
  | .alterTable =>
    ((requiredField fields "name" NonemptyString.check).map .alterTable).and
      (requiredField fields "operations" (checkNonemptyList (Alteration.check form)))
  | .showTables => .ok .showTables
  | .explainTable => (requiredField fields "name" NonemptyString.check).map .explainTable
  | .createView =>
    ((requiredField fields "name" NonemptyString.check).map .createView).and
      (requiredField fields "query" Query.check)

/-- Checks that a value, as it arrives, is a statement. -/
def Statement.checkAs (form : Form) : Value → Checked Statement :=
  checkTagged "kind" (StatementKind.all.map (·.word)) fun tag fields =>
    (StatementKind.ofWord? tag).map (Statement.checkFields form fields)

/-- Checks that a value that is handed over as such is a statement. -/
def Statement.check : Value → Checked Statement := Statement.checkAs .value

/-! ### Documents -/

/-- How many non-empty arrays and objects may be nested in a document. -/
def maxDepth : Nat := 200

/-- Why a document is refused: it is not JSON, or its value is not a statement. -/
inductive Refusal
  | notJson
  | invalid (problems : List Problem)
  deriving DecidableEq, Repr

/-- Checks what a document has been read to. -/
def Statement.ofDocument : Option Value → Except Refusal Statement
  | none => .error .notJson
  | some v =>
    match Statement.checkAs .document v with
    | .ok stmt => .ok stmt
    | .faulty ps => .error (.invalid ps)

/-- Reads a statement from the text of a document. -/
def Statement.read (text : String) : Except Refusal Statement :=
  Statement.ofDocument (Value.read? maxDepth text)

/-- Reads a statement from the bytes of a document. -/
def Statement.readBytes (bytes : ByteArray) : Except Refusal Statement :=
  Statement.ofDocument (Value.readBytes? maxDepth bytes)

end SchemaCatalog
