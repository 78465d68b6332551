import SchemaCatalog.Label
import SchemaCatalog.Statement.Basic

/-!
# Why a catalog refuses a request

The causes for which a statement or a call on the store fails, and their messages.
-/

namespace SchemaCatalog

/-- What a name was meant to be the name of. -/
inductive Subject
  | database
  | object (kind : ObjectKind)
  | column
  /-- Something that a view reads from. -/
  | reference
  deriving DecidableEq, Repr

/-- The word for what a name was meant to be the name of. -/
def Subject.word : Subject → String
  | .database => "database"
  | .object kind => kind.word
  | .column => "column"
  | .reference => "referenced object"

/-- A request that no session can handle. -/
inductive Unhandled
  /-- A request of the given type that is none of the known statements. -/
  | statement (typeName : String)
  /-- An operation of `ALTER TABLE`, by its tag or type. -/
  | alteration (label : String)
  deriving DecidableEq, Repr

/-- What is not supported. -/
def Unhandled.what : Unhandled → String
  | .statement typeName => "statement " ++ typeName
  | .alteration label => "ALTER TABLE operation " ++ label

/-- Why a store cannot be used. -/
inductive Outage
  /-- The catalog tables have not been created. -/
  | noTables
  /-- The file of the store cannot be opened. -/
  | unopenable
  /-- All connections to the store are taken, which the pool that hands them out reports in its
  own words. -/
  | exhausted (report : String)
  /-- Nothing in the store can be changed. -/
  | readOnly
  deriving DecidableEq, Repr

/-- The message for a store that cannot be used. -/
def Outage.message : Outage → String
  | .noTables => "no such table: catalog_database"
  | .unopenable => "unable to open database file"
  | .exhausted report => report
  | .readOnly => "attempt to write a readonly database"

/-- A deletion that other rows stand in the way of. -/
inductive Restriction
  /-- A view reads from the object. -/
  | dropObject (kind : ObjectKind) (name : Label)
  /-- A view reads from an object of the database. -/
  | dropDatabase (database : String) (kind : ObjectKind) (name : String)
  /-- Rows refer to the row that is to be deleted, in a way that nobody has looked for. -/
  | foreignKey
  deriving DecidableEq, Repr

/-- A name in back quotes. -/
def inBackquotes (name : Label) : String := "`" ++ name.shown ++ "`"

/-- The message for a deletion that other rows stand in the way of. -/
def Restriction.message : Restriction → String
  | .dropObject kind name =>
    "cannot drop " ++ kind.word ++ " " ++ inBackquotes name ++ ": a view depends on it"
  | .dropDatabase database kind name =>
    "cannot drop database " ++ inBackquotes database ++ ": " ++ kind.word ++ " " ++
      inBackquotes name ++ " is referenced by a view in another database"
  | .foreignKey => "FOREIGN KEY constraint failed"

/-- Why a request is refused. -/
inductive CatalogError
  | noDatabaseSelected
  | notFound (subject : Subject) (name : Label)
  | alreadyExists (subject : Subject) (name : Label)
  | unsupported (request : Unhandled)
  | storeUnavailable (outage : Outage)
  | constraintViolation (restriction : Restriction)
  /-- The store has no way to keep a value of the given type, which stands at a place of its own
  among those handed to the store together. -/
  | unstorable (place : Nat) (typeName : String)
  /-- The request makes no sense. -/
  | malformed (flaw : Flaw)
  deriving DecidableEq, Repr

/-- The message of an error. -/
def CatalogError.message : CatalogError → String
  | .noDatabaseSelected => "no database selected"
  | .notFound subject name => subject.word ++ " " ++ inBackquotes name ++ " not found"
  | .alreadyExists subject name => subject.word ++ " " ++ inBackquotes name ++ " already exists"
  | .unsupported request => "unsupported: " ++ request.what
  | .storeUnavailable outage => outage.message
  | .constraintViolation restriction => restriction.message
  | .unstorable place typeName =>
    "Error binding parameter " ++ toString place ++ ": type '" ++ typeName ++ "' is not supported"
  | .malformed flaw => flaw.message

end SchemaCatalog
