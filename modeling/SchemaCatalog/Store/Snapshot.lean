import SchemaCatalog.Json.Document
import SchemaCatalog.Json.Written
import SchemaCatalog.Store.File

/-!
# Snapshots

The contents of a store file as a JSON document: each list of rows is an array, and each row an
array of its fields. `StoreFile.write` makes the document and `StoreFile.read?` reads it back.
-/

namespace SchemaCatalog

open Json

/-! ### Writing -/

/-- The rows of a store as a value. -/
def Store.toValue (s : Store) : Value :=
  .obj [
    ("databases", .arr (s.databases.map fun d => .arr [.int d.id, .str d.name])),
    ("objects", .arr (s.objects.map fun o =>
      .arr [.int o.id, .str o.kind.word, .str o.name, .int o.databaseId])),
    ("tables", .arr (s.tables.map .int)),
    ("views", .arr (s.views.map fun v => .arr [.int v.id, .str v.definition])),
    ("columns", .arr (s.columns.map fun c =>
      .arr [.int c.id, .int c.tableId, .str c.name, .str c.dataType, .bool c.isPrimaryKey])),
    ("dependencies", .arr (s.dependencies.map fun d => .arr [.int d.viewId, .int d.objectId])),
    ("last", .arr [.int s.lastDatabase, .int s.lastObject, .int s.lastColumn])]

/-- The contents of a store file as a value. -/
def StoreFile.toValue (f : StoreFile) : Value :=
  .obj [
    ("catalog", (f.catalog.map (·.toValue)).getD .null),
    ("version",
      match f.version with
      | none => .null
      | some none => .arr []
      | some (some id) => .arr [.str id])]

/-- The document of a store file. -/
def StoreFile.write (f : StoreFile) : String := f.toValue.write

/-! ### Reading -/

/-- A database from its fields. -/
def DatabaseRow.ofValue? : Value → Option DatabaseRow
  | .arr [.int id, .str name] => some ⟨id, name⟩
  | _ => none

/-- An object from its fields. -/
def ObjectRow.ofValue? : Value → Option ObjectRow
  | .arr [.int id, .str kind, .str name, .int databaseId] =>
    (ObjectKind.ofWord? kind).map fun kind => ⟨id, kind, name, databaseId⟩
  | _ => none

/-- The number of a table. -/
def tableOfValue? : Value → Option Id
  | .int id => some id
  | _ => none

/-- A view from its fields. -/
def ViewRow.ofValue? : Value → Option ViewRow
  | .arr [.int id, .str definition] => some ⟨id, definition⟩
  | _ => none

/-- A column from its fields. -/
def ColumnRow.ofValue? : Value → Option ColumnRow
  | .arr [.int id, .int tableId, .str name, .str dataType, .bool isPrimaryKey] =>
    some ⟨id, tableId, name, dataType, isPrimaryKey⟩
  | _ => none

/-- A dependency from its fields. -/
def Dependency.ofValue? : Value → Option Dependency
  | .arr [.int viewId, .int objectId] => some ⟨viewId, objectId⟩
  | _ => none

/-- The rows of one list. -/
def rowsOf? {α : Type} (v : Value) (name : String) (row : Value → Option α) : Option (List α) := do
  let items ← (v.field? name).bind (·.items?)
  items.mapM row

/-- The rows of a store from a value. -/
def Store.ofValue? (v : Value) : Option Store := do
  let databases ← rowsOf? v "databases" DatabaseRow.ofValue?
  let objects ← rowsOf? v "objects" ObjectRow.ofValue?
  let tables ← rowsOf? v "tables" tableOfValue?
  let views ← rowsOf? v "views" ViewRow.ofValue?
  let columns ← rowsOf? v "columns" ColumnRow.ofValue?
  let dependencies ← rowsOf? v "dependencies" Dependency.ofValue?
  match v.field? "last" with
  | some (.arr [.int lastDatabase, .int lastObject, .int lastColumn]) =>
    some ⟨databases, objects, tables, views, columns, dependencies, lastDatabase, lastObject,
      lastColumn⟩
  | _ => none

/-- The contents of a store file from a value. -/
def StoreFile.ofValue? (v : Value) : Option StoreFile := do
  let catalog ←
    match v.field? "catalog" with
    | some .null => some none
    | some s => (Store.ofValue? s).map some
    | none => none
  match v.field? "version" with
  | some .null => some ⟨catalog, none⟩
  | some (.arr []) => some ⟨catalog, some none⟩
  | some (.arr [.str id]) => some ⟨catalog, some (some id)⟩
  | _ => none

/-- Reads the document of a store file. -/
def StoreFile.read? (text : String) : Option StoreFile :=
  (Value.read? 10 text).bind StoreFile.ofValue?

end SchemaCatalog
