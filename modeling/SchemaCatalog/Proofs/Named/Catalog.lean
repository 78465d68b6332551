import Mathlib.Data.Finset.Basic
import SchemaCatalog.Catalog

/-!
# A catalog of names

A catalog as its users think of it: databases and objects go by their names, there are no numbers,
a table has its columns and a view what it reads from. `Named.Catalog.run` says what each of a list
of validated statements answers.

The objects of all databases stand in one list, the oldest first, since a view reads from the
oldest object of a name. A session that has selected a database keeps its name; when another session
drops the database, the selection is `stale`, and stays so if the name is used again.
-/

namespace SchemaCatalog.Named

/-! ### Databases and objects -/

/-- Where an object is: in which database, and under which name. -/
@[ext]
structure Place where
  database : String
  name : String
  deriving DecidableEq, Repr

/-- A column of a table. -/
structure Column where
  name : String
  dataType : String
  isPrimaryKey : Bool
  deriving DecidableEq, Repr

/-- What a table or a view consists of. -/
inductive Content
  | table (columns : List Column)
  | view (definition : String) (references : Finset Place)
  deriving DecidableEq

/-- A table or a view. -/
structure Object where
  place : Place
  content : Content
  deriving DecidableEq

/-- The databases, and the objects in them with the oldest first. -/
@[ext]
structure Store where
  databases : Finset String
  objects : List Object
  deriving DecidableEq

/-- The column that a definition describes. -/
def Column.ofDef (c : ColumnDef) : Column := ⟨c.name.text, c.dataType.text, c.isPrimaryKey⟩

/-- The row that shows a column. -/
def Column.row (c : Column) : Row :=
  [c.name, c.dataType, if c.isPrimaryKey then Session.primaryKeyMark else ""]

/-- Columns are told apart by the rows that show them. -/
theorem Column.row_injective : Function.Injective Column.row := by
  rintro ⟨name, dataType, isKey⟩ ⟨name', dataType', isKey'⟩ h
  obtain ⟨rfl, h⟩ := List.cons.inj h
  obtain ⟨rfl, h⟩ := List.cons.inj h
  have hmarks : ∀ b b' : Bool, (if b then Session.primaryKeyMark else "") =
      (if b' then Session.primaryKeyMark else "") → b = b' := by decide
  rw [hmarks isKey isKey' (List.cons.inj h).1]

namespace Object

/-- The kind of an object. -/
def kind (o : Object) : ObjectKind :=
  match o.content with
  | .table _ => .table
  | .view _ _ => .view

/-- The columns of an object; a view has none. -/
def columns (o : Object) : List Column :=
  match o.content with
  | .table columns => columns
  | .view _ _ => []

/-- What an object reads from; a table reads from nothing. -/
def references (o : Object) : Finset Place :=
  match o.content with
  | .table _ => ∅
  | .view _ references => references

end Object

namespace Store

/-- The object at a place. -/
def object? (s : Store) (p : Place) : Option Object := s.objects.find? (·.place = p)

/-- The object of a kind at a place. -/
def objectOfKind? (s : Store) (kind : ObjectKind) (p : Place) : Option Object :=
  s.objects.find? fun o => o.place = p ∧ o.kind = kind

/-- The oldest object of a name, in any database. -/
def oldest? (s : Store) (name : String) : Option Object := s.objects.find? (·.place.name = name)

/-- Whether a view reads from what is at a place. -/
def isReferenced (s : Store) (p : Place) : Bool := s.objects.any (p ∈ ·.references)

/-- Whether a view of another database reads from what is at a place. -/
def isReferencedFromOutside (s : Store) (p : Place) : Bool :=
  s.objects.any fun o => o.place.database ≠ p.database ∧ p ∈ o.references

/-- The newest object of a database that a view of another database reads from. -/
def held? (s : Store) (database : String) : Option Object :=
  (s.objects.filter (·.place.database = database)).reverse.find? (s.isReferencedFromOutside ·.place)

/-- The names of the tables of a database, in the order of their characters. -/
def tableNames (s : Store) (database : String) : List String :=
  ((s.objects.filter fun o => o.place.database = database ∧ o.kind = .table).map
    (·.place.name)).mergeSort fun a b => decide (a ≤ b)

/-- Adds an object as the newest. -/
def add (s : Store) (o : Object) : Store := { s with objects := s.objects ++ [o] }

/-- Removes what is at a place. -/
def remove (s : Store) (p : Place) : Store := { s with objects := s.objects.filter (·.place ≠ p) }

/-- Removes a database with all that is in it. -/
def removeDatabase (s : Store) (database : String) : Store where
  databases := s.databases.erase database
  objects := s.objects.filter (·.place.database ≠ database)

/-- Gives other columns to the table at a place. -/
def setColumns (s : Store) (p : Place) (columns : List Column) : Store :=
  { s with objects := s.objects.map fun o => if o.place = p then ⟨p, .table columns⟩ else o }

end Store

/-! ### Sessions -/

/-- What a session has selected. -/
inductive Pointer
  | nothing
  | selected (database : String)
  /-- The database has been dropped by another session. -/
  | stale (database : String)
  deriving DecidableEq, Repr

/-- A session: the names that it takes a query to read from, and what it has selected. -/
structure Client where
  names : Query NonemptyString → List String
  pointer : Pointer := .nothing

/-- What a successful statement does: the new store and selection, and the rows to show, if it
shows any. -/
structure Effect where
  store : Store
  pointer : Pointer
  rows : Option (List Row)

namespace Pointer

/-- The name of the selected database, which must not have been dropped. -/
def database : Pointer → Except CatalogError String
  | nothing => .error .noDatabaseSelected
  | selected database => .ok database
  | stale database => .error (.notFound .database database)

/-- The selection of who creates a database. -/
def created (database : String) : Pointer → Pointer
  | nothing => selected database
  | p => p

/-- The selection of who drops a database. -/
def givenUp (database : String) (p : Pointer) : Pointer :=
  if p = selected database then nothing else p

/-- The selection of everyone else when a database has been dropped. -/
def lost (database : String) (p : Pointer) : Pointer :=
  if p = selected database then stale database else p

end Pointer

/-! ### Changes -/

/-- The name that stands first among those that occur more than once. -/
def repeated? (names : List String) : Option String :=
  names.find? fun name => decide (1 < names.count name)

/-- Applies operations to a table, of whose columns some are kept and others have been added since
the statement began. Only a column that the table had before can be dropped; to drop it again does
nothing. -/
def alter (before kept added : List Column) : List Alteration → Except CatalogError (List Column)
  | [] => .ok (kept ++ added)
  | .addColumn column :: rest =>
    if column.name.text ∈ (kept ++ added).map (·.name) then
      .error (.alreadyExists .column column.name.text)
    else alter before kept (added ++ [.ofDef column]) rest
  | .dropColumn name :: rest =>
    if name.text ∈ before.map (·.name) then
      alter before (kept.filter (·.name ≠ name.text)) added rest
    else .error (.notFound .column name.text)
  | .renameColumn _ _ :: _ =>
    .error (.unsupported (.alteration AlterationKind.renameColumn.word))

namespace Store

/-- Creates a database. -/
def createDatabase (s : Store) (name : String) : Except CatalogError Store :=
  if name ∈ s.databases then .error (.alreadyExists .database name)
  else .ok { s with databases := insert name s.databases }

/-- Fails when there is no database of a name. -/
def requireDatabase (s : Store) (name : String) : Except CatalogError Unit :=
  if name ∈ s.databases then .ok () else .error (.notFound .database name)

/-- Drops a database with all that is in it, unless a view of another database reads from that. -/
def dropDatabase (s : Store) (name : String) : Except CatalogError Store :=
  match s.held? name with
  | some o => .error (.constraintViolation (.dropDatabase name o.kind o.place.name))
  | none => .ok (s.removeDatabase name)

/-- Fails when something is at a place. -/
def requireFree (s : Store) (p : Place) : Except CatalogError Unit :=
  match s.object? p with
  | some o => .error (.alreadyExists (.object o.kind) p.name)
  | none => .ok ()

/-- Fails when a place is not free, or when two columns have the same name. -/
def requireNewTable (s : Store) (p : Place) (columns : List String) : Except CatalogError Unit := do
  s.requireFree p
  match repeated? columns with
  | some column => .error (.alreadyExists .column column)
  | none => .ok ()

/-- Creates a table. -/
def createTable (s : Store) (p : Place) (columns : List ColumnDef) :
    Except CatalogError Store := do
  s.requireNewTable p (columns.map (·.name.text))
  .ok (s.add ⟨p, .table (columns.map .ofDef)⟩)

/-- The table at a place. -/
def lookUpTable (s : Store) (p : Place) : Except CatalogError Object :=
  match s.objectOfKind? .table p with
  | some o => .ok o
  | none => .error (.notFound (.object .table) p.name)

/-- Drops objects of a database by name, one by one. -/
def dropNames (s : Store) (database : String) (kind : ObjectKind) :
    List String → Except CatalogError Store
  | [] => .ok s
  | name :: rest =>
    match s.objectOfKind? kind ⟨database, name⟩ with
    | none => .error (.notFound (.object kind) name)
    | some o =>
      if s.isReferenced o.place then .error (.constraintViolation (.dropObject kind name))
      else (s.remove o.place).dropNames database kind rest

/-- The places that names stand for, each that of the oldest object of its name. -/
def resolve (s : Store) : List String → Except CatalogError (Finset Place)
  | [] => .ok ∅
  | name :: rest =>
    match s.oldest? name with
    | none => .error (.notFound .reference name)
    | some o => (s.resolve rest).map (insert o.place)

/-- Creates a view. -/
def createView (s : Store) (p : Place) (definition : String) (references : Finset Place) :
    Except CatalogError Store := do
  s.requireFree p
  .ok (s.add ⟨p, .view definition references⟩)

end Store

/-! ### Statements -/

/-- Does what a statement says. -/
def Client.execute (x : Client) (s : Store) : Statement → Except CatalogError Effect
  | .createDatabase name => do
    let s ← s.createDatabase name.text
    .ok ⟨s, x.pointer.created name.text, none⟩
  | .use name => do
    s.requireDatabase name.text
    .ok ⟨s, .selected name.text, none⟩
  | .dropDatabase name => do
    s.requireDatabase name.text
    let s ← s.dropDatabase name.text
    .ok ⟨s, x.pointer.givenUp name.text, none⟩
  | .createTable name columns => do
    let database ← x.pointer.database
    let s ← s.createTable ⟨database, name.text⟩ columns
    .ok ⟨s, x.pointer, none⟩
  | .drop kind names => do
    let database ← x.pointer.database
    let s ← s.dropNames database kind (names.1.map (·.text))
    .ok ⟨s, x.pointer, none⟩
  | .alterTable name operations => do
    let database ← x.pointer.database
    let table ← s.lookUpTable ⟨database, name.text⟩
    let columns ← alter table.columns table.columns [] operations.1
    .ok ⟨s.setColumns table.place columns, x.pointer, none⟩
  | .showTables => do
    let database ← x.pointer.database
    .ok ⟨s, x.pointer, some ((s.tableNames database).map fun name => [name])⟩
  | .explainTable name => do
    let database ← x.pointer.database
    let table ← s.lookUpTable ⟨database, name.text⟩
    .ok ⟨s, x.pointer, some (table.columns.map (·.row))⟩
  | .createView name query => do
    let database ← x.pointer.database
    let references ← s.resolve (x.names query)
    let s ← s.createView ⟨database, name.text⟩ query.text.text references
    .ok ⟨s, x.pointer, none⟩

/-! ### Runs -/

/-- What all other sessions have selected after a statement that succeeds. -/
def Pointer.after (p : Pointer) : Statement → Pointer
  | .dropDatabase name => p.lost name.text
  | _ => p

/-- A store and the sessions on it. -/
structure Catalog where
  store : Store
  clients : List Client

namespace Catalog

/-- A catalog without databases. -/
def start (clients : List Client) : Catalog := ⟨⟨∅, []⟩, clients⟩

/-- Lets a session execute a statement. -/
def step (c : Catalog) (i : Nat) (stmt : Statement) : Reply × Catalog :=
  match c.clients[i]? with
  | none => (.nobody, c)
  | some x =>
    match x.execute c.store stmt with
    | .error e => (.answer (.error e), c)
    | .ok e =>
      let others := c.clients.map fun y => { y with pointer := y.pointer.after stmt }
      (.answer (.ok e.rows), ⟨e.store, others.set i { x with pointer := e.pointer }⟩)

/-- The replies to statements, each of which is executed by one of the sessions. -/
def replies (c : Catalog) : List (Nat × Statement) → List Reply
  | [] => []
  | (i, stmt) :: rest =>
    let (reply, c) := c.step i stmt
    reply :: c.replies rest

end Catalog

end SchemaCatalog.Named
