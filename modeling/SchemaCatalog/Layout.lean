/-!
# The layout of a store

The tables in which a store is kept: their columns, keys and references. `TableLayout.createSql`
and `TableLayout.dropSql` are the statements that create and drop a table, line by line.
-/

namespace SchemaCatalog

/-- The type of a column in a store. -/
inductive SqlType
  | integer
  | text
  | boolean
  | varchar (width : Nat)
  deriving DecidableEq, Repr

/-- The name of a column type. -/
def SqlType.sql : SqlType → String
  | .integer => "INTEGER"
  | .text => "TEXT"
  | .boolean => "BOOLEAN"
  | .varchar width => "VARCHAR(" ++ toString width ++ ")"

/-- What happens to a row when the row it refers to goes or changes. -/
inductive ReferenceAction
  | cascade
  | restrict
  deriving DecidableEq, Repr

/-- The name of an action. -/
def ReferenceAction.sql : ReferenceAction → String
  | .cascade => "CASCADE"
  | .restrict => "RESTRICT"

/-- A column of a table in a store; it never holds nothing. -/
structure ColumnLayout where
  name : String
  type : SqlType
  deriving DecidableEq, Repr

/-- A reference to the rows of another table. -/
structure ReferenceLayout where
  column : String
  table : String
  target : String
  onDelete : Option ReferenceAction
  onUpdate : Option ReferenceAction
  deriving DecidableEq, Repr

/-- How the rows of a table are told apart. -/
inductive KeyLayout
  /-- By a number that is given out. -/
  | numbered (column : String)
  /-- By the values of columns; the key may have a name. -/
  | columns (names : List String) (keyName : Option String)
  deriving DecidableEq, Repr

/-- The columns of a key. -/
def KeyLayout.columnNames : KeyLayout → List String
  | .numbered column => [column]
  | .columns names _ => names

/-- A table in a store. -/
structure TableLayout where
  name : String
  columns : List ColumnLayout
  key : KeyLayout
  references : List ReferenceLayout
  unique : List (List String)
  deriving DecidableEq, Repr

/-! ### The tables of a catalog -/

/-- A reference whose row follows the row it refers to. -/
def ReferenceLayout.following (column table target : String) : ReferenceLayout :=
  ⟨column, table, target, some .cascade, some .cascade⟩

/-- The tables of a catalog, each after those that it refers to. -/
def catalogTables : List TableLayout :=
  [ { name := "catalog_database"
      columns := [⟨"database_id", .integer⟩, ⟨"name", .text⟩]
      key := .numbered "database_id"
      references := []
      unique := [["name"]] },
    { name := "catalog_object"
      columns := [⟨"object_id", .integer⟩, ⟨"kind", .varchar 5⟩, ⟨"name", .text⟩,
        ⟨"database_id", .integer⟩]
      key := .numbered "object_id"
      references := [⟨"database_id", "catalog_database", "database_id", none, none⟩]
      unique := [["database_id", "name"]] },
    { name := "catalog_table"
      columns := [⟨"object_id", .integer⟩]
      key := .columns ["object_id"] none
      references := [.following "object_id" "catalog_object" "object_id"]
      unique := [] },
    { name := "catalog_view"
      columns := [⟨"object_id", .integer⟩, ⟨"definition", .text⟩]
      key := .columns ["object_id"] none
      references := [.following "object_id" "catalog_object" "object_id"]
      unique := [] },
    { name := "catalog_column"
      columns := [⟨"column_id", .integer⟩, ⟨"table_id", .integer⟩, ⟨"name", .text⟩,
        ⟨"data_type", .text⟩, ⟨"is_primary_key", .boolean⟩]
      key := .numbered "column_id"
      references := [.following "table_id" "catalog_table" "object_id"]
      unique := [["table_id", "name"]] },
    { name := "catalog_view_dependency"
      columns := [⟨"view_id", .integer⟩, ⟨"dependent_object_id", .integer⟩]
      key := .columns ["view_id", "dependent_object_id"] none
      references :=
        [.following "view_id" "catalog_view" "object_id",
         ⟨"dependent_object_id", "catalog_object", "object_id", some .restrict, some .cascade⟩]
      unique := [] } ]

/-- The table that records the revision of the others. -/
def versionTable : TableLayout where
  name := "alembic_version"
  columns := [⟨"version_num", .varchar 32⟩]
  key := .columns ["version_num"] (some "alembic_version_pkc")
  references := []
  unique := []

/-! ### Statements -/

/-- Names in parentheses. -/
def inParentheses (names : List String) : String :=
  "(" ++ String.intercalate ", " names ++ ")"

/-- The definition of a column. -/
def ColumnLayout.sql (key : KeyLayout) (c : ColumnLayout) : String :=
  c.name ++ " " ++ c.type.sql ++ " NOT NULL" ++
    (if key = .numbered c.name then " PRIMARY KEY AUTOINCREMENT" else "")

/-- The definition of a key, unless it stands with its column. -/
def KeyLayout.sql : KeyLayout → List String
  | .numbered _ => []
  | .columns names keyName =>
    [((keyName.map fun name => "CONSTRAINT " ++ name ++ " ").getD "") ++
      "PRIMARY KEY " ++ inParentheses names]

/-- The definition of a reference. -/
def ReferenceLayout.sql (r : ReferenceLayout) : String :=
  let action (event : String) (a : Option ReferenceAction) : String :=
    (a.map fun a => " ON " ++ event ++ " " ++ a.sql).getD ""
  "FOREIGN KEY" ++ inParentheses [r.column] ++ " REFERENCES " ++ r.table ++ " " ++
    inParentheses [r.target] ++ action "DELETE" r.onDelete ++ action "UPDATE" r.onUpdate

/-- Lines with a comma after each but the last. -/
def separated : List String → List String
  | [] => []
  | [line] => [line]
  | line :: rest => (line ++ ",") :: separated rest

/-- The lines of the statement that creates a table. -/
def TableLayout.createSql (t : TableLayout) : List String :=
  let parts :=
    t.columns.map (·.sql t.key) ++ t.key.sql ++ t.references.map (·.sql) ++
      t.unique.map fun names => "UNIQUE " ++ inParentheses names
  ["CREATE TABLE " ++ t.name ++ " ("] ++ separated (parts.map ("    " ++ ·)) ++ [");"]

/-- The lines of the statement that drops a table. -/
def TableLayout.dropSql (t : TableLayout) : List String := ["DROP TABLE " ++ t.name ++ ";"]

end SchemaCatalog
