import SchemaCatalog.Store.Basic

/-!
# Descriptions of rows

How single rows are described to a caller of the store: a short text for each, and what belongs to
a table or a view. Who creates something is told the labels that were given; whoever looks it up
later finds the texts that the store keeps.
-/

namespace SchemaCatalog

/-- A database as a caller sees it. -/
structure DatabaseInfo where
  id : Id
  name : Label
  deriving DecidableEq, Repr

/-- The short text of a database. -/
def DatabaseInfo.describe (d : DatabaseInfo) : String := "Database(name=" ++ d.name.shown ++ ")"

/-- A database as it is found. -/
def DatabaseRow.info (d : DatabaseRow) : DatabaseInfo := ⟨d.id, .text d.name⟩

/-- The short text of a column. -/
def ColumnRow.describe (c : ColumnRow) : String :=
  "DataColumn(name=" ++ c.name ++ ", data_type=" ++ c.dataType ++ ", is_primary_key=" ++
    (if c.isPrimaryKey then "True" else "False") ++ ")"

/-- What a view reads from: an object, by number and name, and the name of the view. -/
structure DependencyInfo where
  objectId : Label
  objectName : Label
  viewName : Label
  deriving DecidableEq, Repr

/-- What a table or view consists of beside its object row. -/
inductive ObjectDetails
  | table (columns : List ColumnRow)
  | view (definition : Label) (dependencies : List DependencyInfo)
  deriving DecidableEq, Repr

/-- An object with all that belongs to it. -/
structure ObjectInfo where
  id : Id
  kind : ObjectKind
  name : Label
  databaseId : Label
  databaseName : String
  details : ObjectDetails
  deriving DecidableEq, Repr

/-- The short text of a table or a view. -/
def ObjectInfo.describe (o : ObjectInfo) : String :=
  (match o.kind with
    | .table => "DataTable"
    | .view => "DataView") ++
    "(name=" ++ o.name.shown ++ ", database_id=" ++ o.databaseId.shown ++ ")"

/-- What the creator of a table or a view gave for it. -/
structure Given where
  name : Label
  definition : Label
  databaseId : Label
  /-- What a view reads from. -/
  objectIds : List Label

namespace Store

/-- The name of an object, by its number. -/
def objectName (s : Store) (id : Id) : String :=
  ((s.objects.find? (·.id = id)).map (·.name)).getD ""

/-- The text of a view's query, by its number. -/
def definition (s : Store) (id : Id) : String :=
  ((s.views.find? (·.id = id)).map (·.definition)).getD ""

/-- The dependencies of a view, in the order of the objects' numbers. -/
def dependenciesOf (s : Store) (viewId : Id) : List Dependency :=
  (s.dependencies.filter (·.viewId = viewId)).mergeSort fun a b => a.objectId ≤ b.objectId

/-- Everything about an object, with what its creator gave for it. -/
def infoAs (s : Store) (o : ObjectRow) (given : Given) : ObjectInfo where
  id := o.id
  kind := o.kind
  name := given.name
  databaseId := given.databaseId
  databaseName := ((s.databaseById? o.databaseId).map (·.name)).getD ""
  details :=
    match o.kind with
    | .table => .table (s.columnsOf o.id)
    | .view =>
      .view given.definition ((s.dependenciesOf o.id).map fun d =>
        ⟨(given.objectIds.find? (·.id = d.objectId)).getD (.number d.objectId),
          if d.objectId = o.id then given.name else .text (s.objectName d.objectId), given.name⟩)

/-- Everything about an object as it is found. -/
def info (s : Store) (o : ObjectRow) : ObjectInfo :=
  s.infoAs o ⟨.text o.name, .text (s.definition o.id), .number o.databaseId, []⟩

/-- All dependencies, in the order of the views' and then of the objects' numbers. -/
def sortedDependencies (s : Store) : List Dependency :=
  s.dependencies.mergeSort fun a b =>
    decide (a.viewId < b.viewId ∨ (a.viewId = b.viewId ∧ a.objectId ≤ b.objectId))

/-- How many rows each list has: databases, objects, tables, views, columns, dependencies. -/
def rowCounts (s : Store) : List Nat :=
  [s.databases.length, s.objects.length, s.tables.length, s.views.length, s.columns.length,
   s.dependencies.length]

end Store

end SchemaCatalog
