import SchemaCatalog.Json.Value
import SchemaCatalog.Statement.Basic

/-!
# The canonical value of a statement

Every statement has one value that spells it out: its tag, then all its fields in their order,
those with a default included.
-/

namespace SchemaCatalog

open Json

/-- A text as a value. -/
def NonemptyString.toValue (s : NonemptyString) : Value := .str s.text

/-- The value of a column definition. -/
def ColumnDef.toValue (c : ColumnDef) : Value :=
  .obj [("name", c.name.toValue), ("data_type", c.dataType.toValue),
    ("is_primary_key", .bool c.isPrimaryKey)]

mutual

/-- The value of a query. -/
def Query.toValue : Query NonemptyString → Value
  | .mk text relations subqueries =>
    .obj [("text", text.toValue), ("relations", .arr (relations.map (·.toValue))),
      ("subqueries", .arr (Query.toValues subqueries))]

/-- The values of a list of queries. -/
def Query.toValues : List (Query NonemptyString) → List Value
  | [] => []
  | q :: rest => q.toValue :: Query.toValues rest

end

/-- The value of an `ALTER TABLE` operation. -/
def Alteration.toValue (op : Alteration) : Value :=
  let tag := ("op", .str op.kind.word)
  match op with
  | .addColumn column => .obj [tag, ("column_def", column.toValue)]
  | .dropColumn name => .obj [tag, ("name", name.toValue)]
  | .renameColumn oldName newName =>
    .obj [tag, ("old_name", oldName.toValue), ("new_name", newName.toValue)]

/-- The value of a statement. -/
def Statement.toValue (stmt : Statement) : Value :=
  let tag := ("kind", .str stmt.kind.word)
  match stmt with
  | .createDatabase name => .obj [tag, ("name", name.toValue)]
  | .use name => .obj [tag, ("name", name.toValue)]
  | .dropDatabase name => .obj [tag, ("name", name.toValue)]
  | .createTable name columns =>
    .obj [tag, ("name", name.toValue), ("columns", .arr (columns.map (·.toValue)))]
  | .drop objects names =>
    .obj [tag, ("object_kind", .str objects.word), ("names", .arr (names.1.map (·.toValue)))]
  | .alterTable name operations =>
    .obj [tag, ("name", name.toValue), ("operations", .arr (operations.1.map (·.toValue)))]
  | .showTables => .obj [tag]
  | .explainTable name => .obj [tag, ("name", name.toValue)]
  | .createView name query => .obj [tag, ("name", name.toValue), ("query", query.toValue)]

end SchemaCatalog
