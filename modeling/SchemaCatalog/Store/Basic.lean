import SchemaCatalog.Label
import SchemaCatalog.Statement.Basic

/-!
# The store of a catalog

A store holds the rows of six lists: databases, objects (tables and views), the tables and the
views among the objects, columns, and the dependencies of views on what they read from. Databases,
objects and columns are numbered from 1 on, each from a counter of their own; a number is not
given out twice.

New rows go to the end of their list, so that a list is in the order of creation.
-/

namespace SchemaCatalog

/-- The number of a database, an object or a column. -/
abbrev Id := Int

/-- A database. -/
structure DatabaseRow where
  id : Id
  name : String
  deriving DecidableEq, Repr

/-- A table or a view, in its database. -/
structure ObjectRow where
  id : Id
  kind : ObjectKind
  name : String
  databaseId : Id
  deriving DecidableEq, Repr

/-- What a view adds to its object: the text of its query. -/
structure ViewRow where
  id : Id
  definition : String
  deriving DecidableEq, Repr

/-- A column of a table. -/
structure ColumnRow where
  id : Id
  tableId : Id
  name : String
  dataType : String
  isPrimaryKey : Bool
  deriving DecidableEq, Repr

/-- A view reads from an object. -/
structure Dependency where
  viewId : Id
  objectId : Id
  deriving DecidableEq, Repr

/-- A column to be added. -/
structure ColumnSpec where
  name : Label
  dataType : Label
  isPrimaryKey : Bool
  deriving DecidableEq, Repr

/-- The rows of a catalog, and the last number given out to a database, an object and a
column. -/
structure Store where
  databases : List DatabaseRow
  objects : List ObjectRow
  tables : List Id
  views : List ViewRow
  columns : List ColumnRow
  dependencies : List Dependency
  lastDatabase : Id
  lastObject : Id
  lastColumn : Id
  deriving DecidableEq, Repr

namespace Store

/-- A store without rows. -/
def empty : Store := ⟨[], [], [], [], [], [], 0, 0, 0⟩

instance : Inhabited Store := ⟨empty⟩

/-! ### Looking up -/

/-- The database called `name`. -/
def database? (s : Store) (name : String) : Option DatabaseRow :=
  s.databases.find? (·.name = name)

/-- The database numbered `id`. -/
def databaseById? (s : Store) (id : Id) : Option DatabaseRow :=
  s.databases.find? (·.id = id)

/-- The object called `name` in a database. -/
def object? (s : Store) (databaseId : Id) (name : String) : Option ObjectRow :=
  s.objects.find? fun o => o.databaseId = databaseId ∧ o.name = name

/-- The oldest object called `name` in any database. -/
def oldest? (s : Store) (name : String) : Option ObjectRow :=
  s.objects.find? (·.name = name)

/-- The object of the given kind called `name` in a database. -/
def objectOfKind? (s : Store) (databaseId : Id) (kind : ObjectKind) (name : String) :
    Option ObjectRow :=
  s.objects.find? fun o => o.databaseId = databaseId ∧ o.kind = kind ∧ o.name = name

/-- The table called `name` in a database. -/
def table? (s : Store) (databaseId : Id) (name : String) : Option ObjectRow :=
  s.objectOfKind? databaseId .table name

/-- The objects of a database, oldest first. -/
def objectsOf (s : Store) (databaseId : Id) : List ObjectRow :=
  s.objects.filter (·.databaseId = databaseId)

/-- The names of the objects of one kind in a database, in the order of their characters. -/
def names (s : Store) (databaseId : Id) (kind : ObjectKind) : List String :=
  (((s.objectsOf databaseId).filter (·.kind = kind)).map (·.name)).mergeSort
    fun a b => decide (a ≤ b)

/-- The columns of a table, oldest first. -/
def columnsOf (s : Store) (tableId : Id) : List ColumnRow :=
  s.columns.filter (·.tableId = tableId)

/-- Whether some view, the object itself included, reads from an object. -/
def isReferenced (s : Store) (objectId : Id) : Bool :=
  s.dependencies.any (·.objectId = objectId)

end Store

end SchemaCatalog
