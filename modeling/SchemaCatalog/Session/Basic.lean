import SchemaCatalog.Session.Request
import SchemaCatalog.Store.Changes

/-!
# Sessions

A session is one caller's view of a catalog: the database it has selected, and the way it finds
the names that a query reads from. Any number of sessions may share a store.

This module has what sessions look up; nothing here changes a session or a store. A selection holds
on to the number of its database: when that database is dropped, the selection goes stale, even if
another database of the same name is created later.
-/

namespace SchemaCatalog

/-- A selected database, with the name it had when it was selected. -/
structure Selection where
  id : Id
  name : Label
  deriving DecidableEq, Repr

/-- The fields of one line that is shown. -/
abbrev Row := List String

/-- A caller's view of a catalog. -/
structure Session where
  /-- The names of what a query reads from. -/
  visitor : ViewQuery → List Label := (·.relations)
  current : Option Selection := none

namespace Session

/-- The name of the selected database. -/
def databaseName? (x : Session) : Option Label := x.current.map (·.name)

/-- The selected database, which must still exist. -/
def selected (x : Session) (s : Store) : Except Failure Selection :=
  match x.current with
  | none => .error (.of .noDatabaseSelected)
  | some sel =>
    match s.databaseById? sel.id with
    | none => .error (.of (.notFound .database sel.name))
    | some _ => .ok sel

/-- The database of a name. -/
def lookUpDatabase (name : Label) (s : Store) : Except Failure DatabaseRow := do
  requireStorable 1 name
  match name.stored?.bind s.database? with
  | none => .error (.of (.notFound .database name))
  | some row => .ok row

/-- The table of a name in a database. -/
def lookUpTable (databaseId : Id) (name : Label) (s : Store) : Except Failure ObjectRow := do
  requireStorable 2 name
  match name.stored?.bind (s.table? databaseId) with
  | none => .error (.of (.notFound (.object .table) name))
  | some row => .ok row

/-- The column of a name among some columns. -/
def lookUpColumn (name : Label) (columns : List ColumnRow) : Except Failure ColumnRow := do
  requireComparable name
  match columns.find? fun c => name = .text c.name with
  | none => .error (.of (.notFound .column name))
  | some c => .ok c

/-- The objects that names stand for, each the oldest of its name in any database. -/
def resolve (s : Store) : List Label → Except Failure (List Id)
  | [] => .ok []
  | name :: rest => do
    requireStorable 1 name
    match name.stored?.bind s.oldest? with
    | none => .error (.of (.notFound .reference name))
    | some o => (resolve s rest).map (o.id :: ·)

/-- What a view reads from, if a database is selected. -/
def references (x : Session) (query : ViewQuery) : Except Failure (List Label) := do
  if x.current = none then .error (.of .noDatabaseSelected)
  else
    (x.visitor query).forM requireReadable
    .ok (x.visitor query)

/-- The mark of a column in the primary key. -/
def primaryKeyMark : String := "PRI"

/-- The row that shows a column. -/
def columnRow (c : ColumnRow) : Row :=
  [c.name, c.dataType, if c.isPrimaryKey then primaryKeyMark else ""]

end Session

end SchemaCatalog
