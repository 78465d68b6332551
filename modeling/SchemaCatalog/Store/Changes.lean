import SchemaCatalog.Store.Labels
import SchemaCatalog.Store.Rows
import SchemaCatalog.Store.Work

/-!
# Changes to a store

What a catalog can do to its store: create and drop databases, tables, views and columns. Each
change is work in place (`Work`), and most are made row by row: a table is there before its columns
are, and of several objects the first is gone before the last is looked at. So a change that fails
half-way leaves a store behind that nobody asked for.

`Store.createTable` and the others of these names are the same changes as seen from outside: they
give the new store, or only the reason for a failure. What they come to is said by equations
(`Store.createTable_eq_bind`).

Some collisions are looked for beforehand, so that the reason can name what is in the way;
everything else that the store refuses is reported as a collision of the thing being created.
-/

namespace SchemaCatalog

/-! ### Checks -/

namespace Store

/-- Fails when a database has an object of the given name. -/
def requireFree (s : Store) (databaseId : Id) (name : Label) : Except Failure Unit := do
  requireStorable 2 name
  match name.stored?.bind (s.object? databaseId) with
  | some o => .error (.of (.alreadyExists (.object o.kind) name))
  | none => .ok ()

/-- The name that stands first among those that occur more than once. -/
def repeated? (names : List Label) : Option Label :=
  names.find? fun name => decide (1 < names.countP name.agrees)

/-- Fails when a table with the given columns cannot be asked for: its name is taken, two columns
have the same name, or something about a column is not to be had. -/
def requireNewTable (s : Store) (databaseId : Id) (name : Label) (columns : List ColumnSpec) :
    Except Failure Unit := do
  s.requireFree databaseId name
  columns.forM (requireComparable ·.name)
  match repeated? (columns.map (·.name)) with
  | some column => .error (.of (.alreadyExists .column column))
  | none => columns.forM (requireReadable ·.dataType)

/-- Fails when a view with the given definition cannot be asked for. -/
def requireNewView (s : Store) (databaseId : Id) (name definition : Label) :
    Except Failure Unit := do
  requireReadable definition
  s.requireFree databaseId name

/-- Fails for a column that no table can have. -/
def requireNewColumn (spec : ColumnSpec) : Except Failure Unit := do
  requireReadable spec.name
  requireReadable spec.dataType
  requireStorableColumn spec

/-- Drops a column by its number; the answer is how many there were. -/
def dropColumn (s : Store) (columnId : Id) : Nat × Store :=
  ((s.columns.filter (·.id = columnId)).length, s.removeColumn columnId)

end Store

/-! ### Changes in place -/

namespace Work

/-- Creates a database. -/
def createDatabase (name : Label) : Work Store DatabaseRow := do
  check (requireStorable 1 name)
  insert ⟨some (.databaseRefused name), .alreadyExists .database name⟩ fun s =>
    name.stored?.bind s.insertDatabase?

/-- Drops the given objects of a database one by one. -/
def dropObjects (database : String) : List ObjectRow → Work Store Unit
  | [] => pure ()
  | o :: rest => do
    update ⟨some (.dropRefused o.kind o.name),
      .constraintViolation (.dropDatabase database o.kind o.name)⟩ (·.removeObject? o.id)
    dropObjects database rest

/-- Drops a database with all its objects. The newest object goes first: a view is created after
everything it reads from, so its dependencies are gone before what they point to is removed. -/
def dropDatabase (database : DatabaseRow) : Work Store Unit := do
  let objects := (← get).objectsOf database.id
  dropObjects database.name objects.reverse
  update ⟨some (.integrityFailed .dropDatabase), .constraintViolation .foreignKey⟩
    (·.removeDatabase? database.id)

/-- Adds columns to a table in their order; `refusal` is the reason when the store refuses one. -/
def insertColumns (tableId : Id) (refusal : Failure) : List ColumnSpec → Work Store Unit
  | [] => pure ()
  | spec :: rest => do
    check (requireStorableColumn spec)
    let _ ← insert refusal (·.insertColumn? tableId spec)
    insertColumns tableId refusal rest

/-- Creates a table with its columns. -/
def createTable (databaseId : Id) (name : Label) (columns : List ColumnSpec) :
    Work Store ObjectRow := do
  let refusal : Failure := ⟨some (.tableRefused name), .alreadyExists (.object .table) name⟩
  look (·.requireNewTable databaseId name columns)
  let row ← insert refusal fun s => name.stored?.bind (s.insertObject? .table databaseId)
  modify (·.insertTable row.id)
  insertColumns row.id refusal columns
  return row

/-- Notes that a view reads from each of some objects, one by one. -/
def insertDependencies (viewId : Id) (refusal : Failure) : List Id → Work Store Unit
  | [] => pure ()
  | objectId :: rest => do
    update refusal (·.insertDependency? ⟨viewId, objectId⟩)
    insertDependencies viewId refusal rest

/-- Creates a view that reads from each of the given objects, none of which may be given more than
once. The view itself exists by the time its dependencies are added. -/
def createView (databaseId : Id) (name definition : Label) (objectIds : List Id) :
    Work Store ObjectRow := do
  let refusal : Failure := ⟨some (.viewRefused name), .alreadyExists (.object .view) name⟩
  look (·.requireNewView databaseId name definition)
  let row ← insert refusal fun s => name.stored?.bind (s.insertObject? .view databaseId)
  check (requireStorable 2 definition)
  update refusal fun s => definition.stored?.map (s.insertView row.id)
  insertDependencies row.id refusal objectIds
  return row

/-- Drops the object of the given kind and name; the answer is how many there were. -/
def dropObject (databaseId : Id) (kind : ObjectKind) (name : Label) : Work Store Nat := do
  check (requireStorable 3 name)
  match name.stored?.bind ((← get).objectOfKind? databaseId kind) with
  | none => return 0
  | some o =>
    update ⟨some (.dropRefused kind name), .constraintViolation (.dropObject kind name)⟩
      (·.removeObject? o.id)
    return 1

/-- Adds a column to a table. -/
def addColumn (tableId : Id) (spec : ColumnSpec) : Work Store ColumnRow := do
  check (Store.requireNewColumn spec)
  insert ⟨some (.columnRefused spec.name), .alreadyExists .column spec.name⟩
    (·.insertColumn? tableId spec)

/-- Drops a column by its number; the answer is how many there were. -/
def dropColumn (columnId : Id) : Work Store Nat := modifyGet (·.dropColumn columnId)

end Work

/-! ### Changes as seen from outside -/

namespace Store

variable {s : Store}

/-- Creates a database, or tells why not. -/
def createDatabase (s : Store) (name : Label) : Except Failure (DatabaseRow × Store) :=
  Work.outcome (.createDatabase name) s

theorem createDatabase_eq_bind {name : Label} :
    s.createDatabase name = (do
      requireStorable 1 name
      match name.stored?.bind s.insertDatabase? with
      | some result => .ok result
      | none => .error ⟨some (.databaseRefused name), .alreadyExists .database name⟩) := by
  rw [createDatabase, Work.createDatabase, Work.outcome_check_bind]
  refine bind_congr fun _ => ?_
  rw [Work.outcome_insert]
  cases name.stored?.bind s.insertDatabase? <;> rfl

/-- Drops the given objects of a database, or tells why not. -/
def dropObjects (s : Store) (database : String) (objects : List ObjectRow) : Except Failure Store :=
  Work.finish (.dropObjects database objects) s

@[simp] theorem dropObjects_nil {database : String} : s.dropObjects database [] = .ok s := rfl

theorem dropObjects_cons {database : String} {o : ObjectRow} {rest : List ObjectRow} :
    s.dropObjects database (o :: rest) =
      match s.removeObject? o.id with
      | some s => s.dropObjects database rest
      | none =>
        .error ⟨some (.dropRefused o.kind o.name),
          .constraintViolation (.dropDatabase database o.kind o.name)⟩ := by
  rw [dropObjects, Work.dropObjects, Work.finish_unit_bind, Work.finish_update]
  cases s.removeObject? o.id <;> rfl

/-- Drops a database with all its objects, or tells why not. -/
def dropDatabase (s : Store) (database : DatabaseRow) : Except Failure Store :=
  Work.finish (.dropDatabase database) s

theorem dropDatabase_eq_bind {database : DatabaseRow} :
    s.dropDatabase database = (do
      let s ← s.dropObjects database.name (s.objectsOf database.id).reverse
      match s.removeDatabase? database.id with
      | some s => .ok s
      | none =>
        .error ⟨some (.integrityFailed .dropDatabase), .constraintViolation .foreignKey⟩) := by
  change Work.finish (Work.dropObjects database.name (s.objectsOf database.id).reverse >>=
    fun _ => Work.update _ _) s = _
  rw [Work.finish_unit_bind]
  refine bind_congr fun s' => ?_
  rw [Work.finish_update]
  cases s'.removeDatabase? database.id <;> rfl

/-- Adds columns to a table, or tells why not. -/
def insertColumns (s : Store) (tableId : Id) (refusal : Failure) (columns : List ColumnSpec) :
    Except Failure Store :=
  Work.finish (.insertColumns tableId refusal columns) s

@[simp] theorem insertColumns_nil {tableId : Id} {refusal : Failure} :
    s.insertColumns tableId refusal [] = .ok s := rfl

theorem insertColumns_cons {tableId : Id} {refusal : Failure} {spec : ColumnSpec}
    {rest : List ColumnSpec} :
    s.insertColumns tableId refusal (spec :: rest) = (do
      requireStorableColumn spec
      match s.insertColumn? tableId spec with
      | some (_, s) => s.insertColumns tableId refusal rest
      | none => .error refusal) := by
  rw [insertColumns, Work.finish, Work.insertColumns, Work.outcome_check_bind, Work.outcome_bind,
    Work.outcome_insert]
  cases requireStorableColumn spec with
  | error f => rfl
  | ok _ => cases s.insertColumn? tableId spec <;> rfl

/-- Creates a table with its columns, or tells why not. -/
def createTable (s : Store) (databaseId : Id) (name : Label) (columns : List ColumnSpec) :
    Except Failure (ObjectRow × Store) :=
  Work.outcome (.createTable databaseId name columns) s

theorem createTable_eq_bind {databaseId : Id} {name : Label} {columns : List ColumnSpec} :
    s.createTable databaseId name columns = (do
      let refusal : Failure := ⟨some (.tableRefused name), .alreadyExists (.object .table) name⟩
      s.requireNewTable databaseId name columns
      match name.stored?.bind (s.insertObject? .table databaseId) with
      | none => .error refusal
      | some (row, s) => do
        let s ← (s.insertTable row.id).insertColumns row.id refusal columns
        .ok (row, s)) := by
  rw [createTable, Work.createTable, Work.outcome_look_bind]
  refine bind_congr fun _ => ?_
  rw [Work.outcome_bind, Work.outcome_insert]
  cases name.stored?.bind (s.insertObject? .table databaseId) with
  | none => rfl
  | some p => exact @Work.outcome_unit_bind _ _ (.insertColumns p.1.id _ columns) _ _

/-- Creates a view, or tells why not. -/
def createView (s : Store) (databaseId : Id) (name definition : Label) (objectIds : List Id) :
    Except Failure (ObjectRow × Store) :=
  Work.outcome (.createView databaseId name definition objectIds) s

/-- Notes that a view reads from each of some objects, or tells why not. -/
theorem finish_insertDependencies {viewId : Id} {refusal : Failure} {objectIds : List Id} :
    Work.finish (.insertDependencies viewId refusal objectIds) s =
      match s.insertDependencies? viewId objectIds with
      | some s => .ok s
      | none => .error refusal := by
  induction objectIds generalizing s with
  | nil => rfl
  | cons objectId rest ih =>
    rw [Work.insertDependencies, Work.finish_unit_bind, Work.finish_update, insertDependencies?]
    cases s.insertDependency? ⟨viewId, objectId⟩ with
    | none => rfl
    | some s' => exact ih

theorem createView_eq_bind {databaseId : Id} {name definition : Label} {objectIds : List Id} :
    s.createView databaseId name definition objectIds = (do
      let refusal : Failure := ⟨some (.viewRefused name), .alreadyExists (.object .view) name⟩
      s.requireNewView databaseId name definition
      match name.stored?.bind (s.insertObject? .view databaseId) with
      | none => .error refusal
      | some (row, s) => do
        requireStorable 2 definition
        match definition.stored?.bind fun definition =>
            (s.insertView row.id definition).insertDependencies? row.id objectIds with
        | some s => .ok (row, s)
        | none => .error refusal) := by
  rw [createView, Work.createView, Work.outcome_look_bind]
  refine bind_congr fun _ => ?_
  rw [Work.outcome_bind, Work.outcome_insert]
  cases name.stored?.bind (s.insertObject? .view databaseId) with
  | none => rfl
  | some p =>
    change Work.outcome (Work.check _ >>= _) p.2 = _
    rw [Work.outcome_check_bind]
    refine bind_congr fun _ => ?_
    rw [Work.outcome_unit_bind, Work.finish_update]
    cases definition.stored? with
    | none => rfl
    | some text =>
      change Work.outcome (Work.insertDependencies _ _ _ >>= _) _ = _
      rw [Work.outcome_unit_bind, finish_insertDependencies]
      simp only [Option.bind_some]
      cases (p.2.insertView p.1.id text).insertDependencies? p.1.id objectIds <;> rfl

/-- Drops an object by its name, or tells why not; the answer is how many there were. -/
def dropObject (s : Store) (databaseId : Id) (kind : ObjectKind) (name : Label) :
    Except Failure (Nat × Store) :=
  Work.outcome (.dropObject databaseId kind name) s

theorem dropObject_eq_bind {databaseId : Id} {kind : ObjectKind} {name : Label} :
    s.dropObject databaseId kind name = (do
      let refusal : Failure :=
        ⟨some (.dropRefused kind name), .constraintViolation (.dropObject kind name)⟩
      requireStorable 3 name
      match name.stored?.bind (s.objectOfKind? databaseId kind) with
      | none => .ok (0, s)
      | some o =>
        match s.removeObject? o.id with
        | some s => .ok (1, s)
        | none => .error refusal) := by
  rw [dropObject, Work.dropObject, Work.outcome_check_bind]
  refine bind_congr fun _ => ?_
  rw [Work.outcome_get_bind]
  cases name.stored?.bind (s.objectOfKind? databaseId kind) with
  | none => rfl
  | some o =>
    change Work.outcome (Work.update _ _ >>= _) s = _
    rw [Work.outcome_unit_bind, Work.finish_update]
    dsimp only
    cases s.removeObject? o.id <;> rfl

/-- Adds a column to a table, or tells why not. -/
def addColumn (s : Store) (tableId : Id) (spec : ColumnSpec) : Except Failure (ColumnRow × Store) :=
  Work.outcome (.addColumn tableId spec) s

theorem addColumn_eq_bind {tableId : Id} {spec : ColumnSpec} :
    s.addColumn tableId spec = (do
      requireNewColumn spec
      match s.insertColumn? tableId spec with
      | some result => .ok result
      | none => .error ⟨some (.columnRefused spec.name), .alreadyExists .column spec.name⟩) := by
  rw [addColumn, Work.addColumn, Work.outcome_check_bind]
  refine bind_congr fun _ => ?_
  rw [Work.outcome_insert]
  cases s.insertColumn? tableId spec <;> rfl

end Store

end SchemaCatalog
