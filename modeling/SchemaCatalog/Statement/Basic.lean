/-!
# Statements

The statements that a catalog understands, as a parser of the data definition language hands them
over: nine kinds, over databases, tables, views and columns. Names, data types and query texts
are never empty, and a `DROP` or `ALTER TABLE` always has something to do.

`Query.relationNames` lists what a query reads from: its own relations, then those of each
subquery, depth first, with repetitions.
-/

namespace SchemaCatalog

/-- A text with at least one character. -/
structure NonemptyString where
  text : String
  nonempty : text ≠ ""
  deriving DecidableEq, Repr

/-- The two kinds of named objects in a database. -/
inductive ObjectKind
  | table
  | view
  deriving DecidableEq, Repr, Inhabited

/-- The word for a kind of object. -/
def ObjectKind.word : ObjectKind → String
  | .table => "table"
  | .view => "view"

/-- The kind of object that a word stands for. -/
def ObjectKind.ofWord? : String → Option ObjectKind
  | "table" => some .table
  | "view" => some .view
  | _ => none

/-- The kinds of statements. -/
inductive StatementKind
  | createDatabase
  | use
  | dropDatabase
  | createTable
  | drop
  | alterTable
  | showTables
  | explainTable
  | createView
  deriving DecidableEq, Repr, Inhabited

namespace StatementKind

/-- Every kind of statement, in the order in which messages list them. -/
def all : List StatementKind :=
  [createDatabase, use, dropDatabase, createTable, drop, alterTable, showTables, explainTable,
   createView]

/-- The tag of a kind of statement. -/
def word : StatementKind → String
  | createDatabase => "create_database"
  | use => "use"
  | dropDatabase => "drop_database"
  | createTable => "create_table"
  | drop => "drop"
  | alterTable => "alter_table"
  | showTables => "show_tables"
  | explainTable => "explain_table"
  | createView => "create_view"

/-- The kind of statement that has a tag. -/
def ofWord? (tag : String) : Option StatementKind := all.find? (·.word = tag)

end StatementKind

/-- The kinds of `ALTER TABLE` operations. -/
inductive AlterationKind
  | addColumn
  | dropColumn
  | renameColumn
  deriving DecidableEq, Repr, Inhabited

namespace AlterationKind

/-- Every kind of operation, in the order in which messages list them. -/
def all : List AlterationKind := [addColumn, dropColumn, renameColumn]

/-- The tag of a kind of operation. -/
def word : AlterationKind → String
  | addColumn => "add_column"
  | dropColumn => "drop_column"
  | renameColumn => "rename_column"

/-- The kind of operation that has a tag. -/
def ofWord? (tag : String) : Option AlterationKind := all.find? (·.word = tag)

end AlterationKind

/-- The definition of a column. -/
structure ColumnDef where
  name : NonemptyString
  dataType : NonemptyString
  isPrimaryKey : Bool
  deriving DecidableEq, Repr

/-- A query: its text, the relations it reads from directly, and the queries nested in it. Texts
and names are of type `α`. -/
inductive Query (α : Type)
  | mk (text : α) (relations : List α) (subqueries : List (Query α))
  deriving Inhabited

namespace Query

variable {α : Type}

/-- The text of a query. -/
def text : Query α → α
  | .mk text _ _ => text

mutual

/-- Everything a query reads from: its own relations, then those of each subquery. -/
def relationNames : Query α → List α
  | .mk _ relations subqueries => relations ++ relationNamesOfAll subqueries

/-- Everything that a list of queries reads from. -/
def relationNamesOfAll : List (Query α) → List α
  | [] => []
  | q :: rest => relationNames q ++ relationNamesOfAll rest

end

end Query

/-- An operation of `ALTER TABLE`. -/
inductive Alteration
  | addColumn (column : ColumnDef)
  | dropColumn (name : NonemptyString)
  | renameColumn (oldName newName : NonemptyString)

/-- The kind of an operation. -/
def Alteration.kind : Alteration → AlterationKind
  | .addColumn _ => .addColumn
  | .dropColumn _ => .dropColumn
  | .renameColumn _ _ => .renameColumn

/-- A list with at least one element. -/
abbrev NonemptyList (α : Type) := { xs : List α // xs ≠ [] }

/-- A statement of the data definition language. -/
inductive Statement
  | createDatabase (name : NonemptyString)
  | use (name : NonemptyString)
  | dropDatabase (name : NonemptyString)
  | createTable (name : NonemptyString) (columns : List ColumnDef)
  | drop (objects : ObjectKind) (names : NonemptyList NonemptyString)
  | alterTable (name : NonemptyString) (operations : NonemptyList Alteration)
  | showTables
  | explainTable (name : NonemptyString)
  | createView (name : NonemptyString) (query : Query NonemptyString)

/-- The kind of a statement. -/
def Statement.kind : Statement → StatementKind
  | .createDatabase _ => .createDatabase
  | .use _ => .use
  | .dropDatabase _ => .dropDatabase
  | .createTable _ _ => .createTable
  | .drop _ _ => .drop
  | .alterTable _ _ => .alterTable
  | .showTables => .showTables
  | .explainTable _ => .explainTable
  | .createView _ _ => .createView

end SchemaCatalog
