import SchemaCatalog.Store.Basic

/-!
# Adding and removing rows

The single changes that a store accepts or refuses. A refused insertion is `none`: a name is
taken, what the row belongs to does not exist, or there is nothing to keep as a name or a data
type. An object that a view reads from cannot be removed; when an object goes, everything that
belongs to it goes along. A database with objects in it cannot be removed.
-/

namespace SchemaCatalog.Store

/-! ### Insertions -/

/-- Adds a database under a new name. -/
def insertDatabase? (s : Store) (name : String) : Option (DatabaseRow × Store) :=
  if s.databases.any (·.name = name) then none
  else
    let row : DatabaseRow := ⟨s.lastDatabase + 1, name⟩
    some (row, { s with databases := s.databases ++ [row], lastDatabase := row.id })

/-- Adds an object under a new name to an existing database. -/
def insertObject? (s : Store) (kind : ObjectKind) (databaseId : Id) (name : String) :
    Option (ObjectRow × Store) :=
  if s.databases.any (·.id = databaseId) ∧
      ¬ s.objects.any fun o => o.databaseId = databaseId ∧ o.name = name then
    let row : ObjectRow := ⟨s.lastObject + 1, kind, name, databaseId⟩
    some (row, { s with objects := s.objects ++ [row], lastObject := row.id })
  else none

/-- Adds a column under a new name to an existing table. -/
def insertColumn? (s : Store) (tableId : Id) (spec : ColumnSpec) :
    Option (ColumnRow × Store) :=
  match spec.name.stored?, spec.dataType.stored? with
  | some name, some dataType =>
    if tableId ∈ s.tables ∧ ¬ s.columns.any fun c => c.tableId = tableId ∧ c.name = name then
      let row : ColumnRow := ⟨s.lastColumn + 1, tableId, name, dataType, spec.isPrimaryKey⟩
      some (row, { s with columns := s.columns ++ [row], lastColumn := row.id })
    else none
  | _, _ => none

/-- Adds the row of a table to that of its object. -/
def insertTable (s : Store) (objectId : Id) : Store := { s with tables := s.tables ++ [objectId] }

/-- Adds the row of a view to that of its object. -/
def insertView (s : Store) (objectId : Id) (definition : String) : Store :=
  { s with views := s.views ++ [(⟨objectId, definition⟩ : ViewRow)] }

/-- Notes that a view reads from an existing object. -/
def insertDependency? (s : Store) (d : Dependency) : Option Store :=
  if s.objects.any (·.id = d.objectId) ∧ d ∉ s.dependencies then
    some { s with dependencies := s.dependencies ++ [d] }
  else none

/-- Notes that a view reads from each of some objects. -/
def insertDependencies? (s : Store) (viewId : Id) : List Id → Option Store
  | [] => some s
  | objectId :: rest =>
    match s.insertDependency? ⟨viewId, objectId⟩ with
    | none => none
    | some s => s.insertDependencies? viewId rest

/-! ### Removals -/

/-- Removes an object and what belongs to it, unless a view reads from it. -/
def removeObject? (s : Store) (objectId : Id) : Option Store :=
  if s.isReferenced objectId then none
  else some { s with
    objects := s.objects.filter (·.id ≠ objectId)
    tables := s.tables.filter (· ≠ objectId)
    views := s.views.filter (·.id ≠ objectId)
    columns := s.columns.filter (·.tableId ≠ objectId)
    dependencies := s.dependencies.filter (·.viewId ≠ objectId) }

/-- Removes a column, if it exists. -/
def removeColumn (s : Store) (columnId : Id) : Store :=
  { s with columns := s.columns.filter (·.id ≠ columnId) }

/-- Removes the row of a database. -/
def removeDatabase (s : Store) (databaseId : Id) : Store :=
  { s with databases := s.databases.filter (·.id ≠ databaseId) }

/-- Removes the row of a database, unless an object is in it. -/
def removeDatabase? (s : Store) (databaseId : Id) : Option Store :=
  if s.objects.any (·.databaseId = databaseId) then none
  else some (s.removeDatabase databaseId)

end SchemaCatalog.Store
