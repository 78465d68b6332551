import SchemaCatalog.Statement.Check
import SchemaCatalog.Store.Changes
import SchemaCatalog.Store.Describe

/-!
# Transactions

A caller may use a store directly, inside a transaction that stays open over its calls. When a call
fails, the caller takes back everything that was done since the last commit. Numbers that a caller
gives need not belong to anything, and need not even be numbers; what a store cannot keep fails the
call in which the store is first asked about it.
-/

namespace SchemaCatalog

open Json

/-- A call on a store. -/
inductive Call
  | commit
  | rollback
  | createDatabase (name : Label)
  | database (name : Label)
  | databaseById (id : Label)
  | deleteDatabase (id : Label)
  | object (databaseId name : Label)
  | oldestObject (name : Label)
  | table (databaseId name : Label)
  | objectNames (databaseId : Label) (kind : ObjectKind)
  /-- The columns are values that have not been checked. -/
  | createTable (databaseId name : Label) (columns : List Value)
  | createView (databaseId name definition : Label) (objectIds : List Label)
  | deleteObject (databaseId : Label) (kind : ObjectKind) (name : Label)
  /-- The column is a value that has not been checked. -/
  | createColumn (tableId : Label) (column : Value)
  | columns (tableId : Label)
  | deleteColumn (id : Label)
  /-- A call that makes no sense. -/
  | malformed (flaw : Flaw)

/-- What a call answers. -/
inductive CallResult
  | done
  /-- There is no database to delete. -/
  | absent
  | database (info : Option DatabaseInfo)
  | object (info : Option ObjectInfo)
  | names (names : List String)
  | count (n : Nat)
  /-- A new column, with the number of its table as it was given, and the name of the table. -/
  | column (row : ColumnRow) (tableId : Label) (table : String)
  /-- Columns, each with the name of its table. -/
  | columns (rows : List ColumnRow) (table : String)

/-- Why a call fails. -/
inductive CallError
  | refused (error : CatalogError)
  | invalid (problems : List Problem)

namespace Store

/-- A change, as part of a call. -/
def change {α : Type} (x : Except Failure α) : Except CallError α :=
  x.mapError fun f => .refused f.error

/-- The definition of a column, as part of a call. -/
def checkColumn (v : Value) : Except CallError ColumnSpec :=
  match ColumnDef.check .value v with
  | .ok c => .ok ⟨.text c.name.text, .text c.dataType.text, c.isPrimaryKey⟩
  | .faulty ps => .error (.invalid ps)

/-- The definitions of columns; the first bad one fails the call. -/
def checkColumns : List Value → Except CallError (List ColumnSpec)
  | [] => .ok []
  | v :: rest => do
    let column ← checkColumn v
    let columns ← checkColumns rest
    .ok (column :: columns)

/-- Fails for a number that a store cannot keep. -/
def requireId (id : Label) : Except CallError Unit := change (requireStorable 1 id)

/-- Creates a view. What comes before the first number that a store cannot keep is tried before the
call fails for that number; a number that is given more than once counts once. -/
def callCreateView (s : Store) (databaseId name definition : Label) (objectIds : List Label) :
    Except CallError (CallResult × Store) := do
  requireId databaseId
  change (s.requireNewView databaseId.id name definition)
  change (objectIds.forM requireComparable)
  let distinct := objectIds.eraseDupsBy Label.agrees
  let fitting := distinct.takeWhile fun id => (requireStorable 2 id).toBool
  let (row, s) ← change (s.createView databaseId.id name definition (fitting.map (·.id)))
  change ((distinct.drop fitting.length).forM (requireStorable 2))
  .ok (.object (some (s.infoAs row ⟨name, definition, databaseId, distinct⟩)), s)

/-- Carries out a call other than the end of a transaction. -/
def call (s : Store) : Call → Except CallError (CallResult × Store)
  | .commit | .rollback => .ok (.done, s)
  | .createDatabase name => do
    let (row, s) ← change (s.createDatabase name)
    .ok (.database (some ⟨row.id, name⟩), s)
  | .database name => do
    change (requireStorable 1 name)
    .ok (.database ((name.stored?.bind s.database?).map (·.info)), s)
  | .databaseById id => do
    requireId id
    .ok (.database ((s.databaseById? id.id).map (·.info)), s)
  | .deleteDatabase id => do
    requireId id
    match s.databaseById? id.id with
    | none => .ok (.absent, s)
    | some row =>
      let s ← change (s.dropDatabase row)
      .ok (.done, s)
  | .object databaseId name => do
    requireId databaseId
    change (requireStorable 2 name)
    .ok (.object ((name.stored?.bind (s.object? databaseId.id)).map s.info), s)
  | .oldestObject name => do
    change (requireStorable 1 name)
    .ok (.object ((name.stored?.bind s.oldest?).map s.info), s)
  | .table databaseId name => do
    requireId databaseId
    change (requireStorable 2 name)
    .ok (.object ((name.stored?.bind (s.table? databaseId.id)).map s.info), s)
  | .objectNames databaseId kind => do
    requireId databaseId
    .ok (.names (s.names databaseId.id kind), s)
  | .createTable databaseId name columns => do
    let columns ← checkColumns columns
    requireId databaseId
    let (row, s) ← change (s.createTable databaseId.id name columns)
    .ok (.object (some (s.infoAs row ⟨name, .nothing, databaseId, []⟩)), s)
  | .createView databaseId name definition objectIds =>
    s.callCreateView databaseId name definition objectIds
  | .deleteObject databaseId kind name => do
    requireId databaseId
    let (n, s) ← change (s.dropObject databaseId.id kind name)
    .ok (.count n, s)
  | .createColumn tableId column => do
    let column ← checkColumn column
    requireId tableId
    let (row, s) ← change (s.addColumn tableId.id column)
    .ok (.column row tableId (s.objectName tableId.id), s)
  | .columns tableId => do
    requireId tableId
    .ok (.columns (s.columnsOf tableId.id) (s.objectName tableId.id), s)
  | .deleteColumn id => do
    requireId id
    let (n, s) := s.dropColumn id.id
    .ok (.count n, s)
  | .malformed flaw => .error (.refused (.malformed flaw))

end Store

namespace Transaction

/-- Carries out a call, for a caller who rolls back whenever a call fails. Where the store refuses a
change there is nothing else to be done. A call that fails before any change leaves the transaction
as it was, so that another caller might go on. -/
def call (t : Transaction) (c : Call) : Except CallError CallResult × Transaction :=
  match c with
  | .commit => (.ok .done, t.commit)
  | .rollback => (.ok .done, t.rollback)
  | c =>
    match t.working.call c with
    | .ok (result, s) => (.ok result, { t with working := s })
    | .error e => (.error e, t.rollback)

end Transaction

end SchemaCatalog
