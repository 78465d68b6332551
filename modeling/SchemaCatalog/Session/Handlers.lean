import SchemaCatalog.Session.Basic

/-!
# Handlers

A handler does what one kind of request asks for. It works on a scene: the session and the store,
both of which it changes in place. So nothing in a handler's type keeps it from failing when half of
its work is done.

Changes of the store are made in transactions, which `Handler.transaction` ends: it keeps all that
has been done inside if nothing has failed, and otherwise takes it back. Nobody takes back what
becomes of the session. A handler therefore selects a database, or gives its selection up, when the
transaction is over and nothing can fail any more.
-/

namespace SchemaCatalog

/-- What a handler works on: a session, and the store in a transaction. -/
structure Scene where
  session : Session
  store : Transaction

/-- What a handler tells of its success: the rows to show, if the request shows any, and the note of
the work done. -/
structure Response where
  rows : Option (List Row) := none
  note : Option Note := none

/-- Work of a session on itself and on the store. -/
abbrev Handler (α : Type) : Type := Work Scene α

namespace Handler

open Session (lookUpDatabase lookUpTable lookUpColumn resolve columnRow)

variable {α : Type}

/-! ### Transactions -/

/-- Does all of some work in a transaction of its own, or none of it. -/
def transaction (body : Handler α) : Handler α := do
  modify fun scene => { scene with store := .begin scene.store.committed }
  tryCatch
    (do
      let a ← body
      modify fun scene => { scene with store := scene.store.commit }
      return a)
    fun failure => do
      modify fun scene => { scene with store := scene.store.rollback }
      throw failure

/-- Works on the store as it is seen inside the transaction. -/
def inStore (work : Work Store α) : Handler α := fun scene =>
  match work scene.store.working with
  | .ok a s => .ok a { scene with store := { scene.store with working := s } }
  | .error failure s => .error failure { scene with store := { scene.store with working := s } }

/-- Works in the selected database, which must still exist, in a transaction. -/
def inSelected (work : Selection → Work Store α) : Handler α :=
  transaction do
    let scene ← get
    let sel ← .check (scene.session.selected scene.store.working)
    inStore (work sel)

/-- Selects a database, or none. -/
def select (current : Option Selection) : Handler Unit :=
  modify fun scene => { scene with session := { scene.session with current } }

/-! ### Databases -/

/-- `CREATE DATABASE`. The new database is selected if none was. -/
def createDatabase (name : Label) : Handler Response := do
  let row ← transaction (inStore (.createDatabase name))
  let x := (← get).session
  select (some (x.current.getD ⟨row.id, name⟩))
  return { note := some (.createdDatabase name row.id) }

/-- `USE`. -/
def use (name : Label) : Handler Response := do
  let row ← transaction (inStore (.look (lookUpDatabase name)))
  select (some ⟨row.id, row.name⟩)
  return {}

/-- `DROP DATABASE`. A selection of the dropped database is given up. -/
def dropDatabase (name : Label) : Handler Response := do
  let (row, objects) ← transaction <| inStore do
    let row ← .look (lookUpDatabase name)
    let objects := (← get).objectsOf row.id
    Work.dropDatabase row
    return (row, objects)
  let x := (← get).session
  select (x.current.filter (·.id ≠ row.id))
  return { note := some (.droppedDatabase row.name objects.length) }

/-! ### Tables and views of the selected database -/

/-- `CREATE TABLE`. -/
def createTable (name : Label) (columns : List ColumnSpec) : Handler Response := do
  let _ ← inSelected fun sel => .createTable sel.id name columns
  return { note := some (.createdTable name columns.length) }

/-- Drops objects by name, one by one. -/
def dropNames (databaseId : Id) (kind : ObjectKind) : List Label → Work Store Unit
  | [] => pure ()
  | name :: rest => do
    let count ← .dropObject databaseId kind name
    if count = 0 then throw (.of (.notFound (.object kind) name))
    else dropNames databaseId kind rest

/-- `DROP TABLE` and `DROP VIEW`. -/
def drop (kind : ObjectKind) (names : List Label) : Handler Response := do
  inSelected fun sel => dropNames sel.id kind names
  return {}

/-- Applies operations to a table that had the given columns when the statement began. A column
is dropped by what the table had then: a column that an earlier operation added is not seen. -/
def alter (tableId : Id) (before : List ColumnRow) : List AlterRequest → Work Store Unit
  | [] => pure ()
  | .addColumn column :: rest => do
    let _ ← .addColumn tableId column
    alter tableId before rest
  | .dropColumn name :: rest => do
    let c ← .check (lookUpColumn name before)
    let _ ← .dropColumn c.id
    alter tableId before rest
  | .other label :: _ => throw (.of (.unsupported (.alteration label)))
  | .unreadable flaw :: _ => throw (.of (.malformed flaw))

/-- `ALTER TABLE`. -/
def alterTable (name : Label) (operations : List AlterRequest) : Handler Response := do
  inSelected fun sel => do
    let table ← .look (lookUpTable sel.id name)
    let before := (← get).columnsOf table.id
    alter table.id before operations
  return {}

/-- `SHOW TABLES`. -/
def showTables : Handler Response := do
  let names ← inSelected fun sel => return (← get).names sel.id .table
  return { rows := some (names.map fun name => [name]) }

/-- `EXPLAIN TABLE`. -/
def explainTable (name : Label) : Handler Response := do
  let columns ← inSelected fun sel => do
    let table ← .look (lookUpTable sel.id name)
    return (← get).columnsOf table.id
  return { rows := some (columns.map columnRow) }

/-- `CREATE VIEW`. -/
def createView (name : Label) (query : ViewQuery) : Handler Response := do
  let x := (← get).session
  let references ← .check (x.references query)
  let objectIds ← inSelected fun sel => do
    let objectIds := (← .look (resolve · references)).eraseDups
    let _ ← Work.createView sel.id name query.definition objectIds
    return objectIds
  return { note := some (.createdView name objectIds.length) }

/-! ### Requests -/

/-- Does what a request asks for. -/
def perform : Request → Handler Response
  | .createDatabase name => createDatabase name
  | .use name => use name
  | .dropDatabase name => dropDatabase name
  | .createTable name columns => createTable name columns
  | .drop kind names => drop kind names
  | .alterTable name operations => alterTable name operations
  | .showTables => showTables
  | .explainTable name => explainTable name
  | .createView name query => createView name query
  | .other typeName => throw (.of (.unsupported (.statement typeName)))
  | .malformed flaw => throw (.of (.malformed flaw))

end Handler

end SchemaCatalog
