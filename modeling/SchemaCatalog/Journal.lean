import SchemaCatalog.Error

/-!
# The journal

What a catalog notes down while it works. Notes of level `debug` tell of work done, notes of
level `error` of work refused: first, where there is one, the note of the change that the store
itself refused, and last the message of the error.
-/

namespace SchemaCatalog

/-- How important a note is. -/
inductive Level
  | debug
  | error
  deriving DecidableEq, Repr

/-- The word for a level. -/
def Level.word : Level → String
  | .debug => "DEBUG"
  | .error => "ERROR"

/-- A note in the journal. -/
inductive Note
  /-- The catalog tables are in place at an address. -/
  | catalogReady (address : String)
  | createdDatabase (name : Label) (id : Int)
  | createdTable (name : Label) (columns : Nat)
  | createdView (name : Label) (edges : Nat)
  | droppedDatabase (name : Label) (objects : Nat)
  /-- The store refused the new row of a database. -/
  | databaseRefused (name : Label)
  /-- The store refused the new rows of a table. -/
  | tableRefused (name : Label)
  /-- The store refused the new rows of a view. -/
  | viewRefused (name : Label)
  /-- The store refused the new row of a column. -/
  | columnRefused (name : Label)
  /-- The store refused to delete an object. -/
  | dropRefused (kind : ObjectKind) (name : Label)
  /-- The store refused some other change that a statement needs. -/
  | integrityFailed (kind : StatementKind)
  /-- The store could not be used for a statement. -/
  | storeFailed (kind : StatementKind)
  /-- A request was refused. -/
  | refused (error : CatalogError)
  /-- A line held no statement. -/
  | notAStatement
  deriving DecidableEq, Repr

namespace Note

/-- How important a note is. -/
def level : Note → Level
  | catalogReady _ | createdDatabase _ _ | createdTable _ _ | createdView _ _
  | droppedDatabase _ _ => .debug
  | databaseRefused _ | tableRefused _ | viewRefused _ | columnRefused _ | dropRefused _ _
  | integrityFailed _ | storeFailed _ | refused _ | notAStatement => .error

/-- A name in single quotes, with a full stop. -/
def named (name : Label) : String := "'" ++ name.shown ++ "'."

/-- The text of a note. -/
def text : Note → String
  | catalogReady address => "Catalog schema initialized on " ++ address
  | createdDatabase name id => "Created database '" ++ name.shown ++ "' (id=" ++ toString id ++ ")."
  | createdTable name columns =>
    "Created table '" ++ name.shown ++ "' with " ++ toString columns ++ " column(s)."
  | createdView name edges =>
    "Created view '" ++ name.shown ++ "' with " ++ toString edges ++ " dependency edge(s)."
  | droppedDatabase name objects =>
    "Dropped database '" ++ name.shown ++ "' (" ++ toString objects ++ " objects)."
  | databaseRefused name => "Failed to create database " ++ named name
  | tableRefused name => "Failed to create table " ++ named name
  | viewRefused name => "Failed to create view " ++ named name
  | columnRefused name => "Failed to add column " ++ named name
  | dropRefused kind name => "Failed to drop " ++ kind.word ++ " " ++ named name
  | integrityFailed kind => "Integrity error while handling " ++ kind.word ++ "."
  | storeFailed kind => "Metadata store error while handling " ++ kind.word ++ "."
  | refused error => error.message
  | notAStatement => "Invalid statement"

end Note

/-- A refusal: its cause and, when the store itself refused a change, the note of that. -/
structure Failure where
  note : Option Note
  error : CatalogError
  deriving DecidableEq, Repr

/-- A refusal that was found before the store was asked for a change. -/
def Failure.of (error : CatalogError) : Failure := ⟨none, error⟩

end SchemaCatalog
