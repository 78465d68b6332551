import SchemaCatalog.Statement.Basic
import SchemaCatalog.Store.Basic

/-!
# Requests

What a session can be asked to do. A request has the content of a statement, but nobody has
checked it: lists may have nothing in them, labels stand for names and texts, and the request or
an operation of `ALTER TABLE` may be of a kind that no session handles.

Every statement is a request (`Statement.request`).
-/

namespace SchemaCatalog

/-- An operation of `ALTER TABLE` that is asked for. -/
inductive AlterRequest
  | addColumn (column : ColumnSpec)
  | dropColumn (name : Label)
  /-- An operation that no session handles, by its tag or type. -/
  | other (label : String)
  /-- Not to be had; to look for it shows that the request makes no sense. -/
  | unreadable (flaw : Flaw)
  deriving DecidableEq, Repr

/-- What a session sees of the query of a view. -/
structure ViewQuery where
  /-- What is kept as the definition of the view. -/
  definition : Label
  /-- The text of the query itself. -/
  text : Label
  /-- Everything the query reads from: its own relations, then those of each subquery. -/
  relations : List Label

/-- What a session is asked to do. -/
inductive Request
  | createDatabase (name : Label)
  | use (name : Label)
  | dropDatabase (name : Label)
  | createTable (name : Label) (columns : List ColumnSpec)
  | drop (objects : ObjectKind) (names : List Label)
  | alterTable (name : Label) (operations : List AlterRequest)
  | showTables
  | explainTable (name : Label)
  | createView (name : Label) (query : ViewQuery)
  /-- A request that no session handles, of the given type. -/
  | other (typeName : String)
  /-- A request that lacks what its kind needs, or has something that makes no sense. -/
  | malformed (flaw : Flaw)

/-- The kind of statement that a request asks for. -/
def Request.kind? : Request → Option StatementKind
  | .createDatabase _ => some .createDatabase
  | .use _ => some .use
  | .dropDatabase _ => some .dropDatabase
  | .createTable _ _ => some .createTable
  | .drop _ _ => some .drop
  | .alterTable _ _ => some .alterTable
  | .showTables => some .showTables
  | .explainTable _ => some .explainTable
  | .createView _ _ => some .createView
  | .other _ | .malformed _ => none

/-- Whether a kind of statement is about the selected database. -/
def StatementKind.isScoped : StatementKind → Bool
  | createDatabase | use | dropDatabase => false
  | createTable | drop | alterTable | showTables | explainTable | createView => true

/-! ### Statements as requests -/

/-- A text as a label. -/
def NonemptyString.label (s : NonemptyString) : Label := .text s.text

/-- The column that a definition asks for. -/
def ColumnDef.spec (c : ColumnDef) : ColumnSpec :=
  ⟨c.name.label, c.dataType.label, c.isPrimaryKey⟩

/-- The operation that is asked for. Columns cannot be renamed. -/
def Alteration.request : Alteration → AlterRequest
  | .addColumn column => .addColumn column.spec
  | .dropColumn name => .dropColumn name.label
  | .renameColumn _ _ => .other AlterationKind.renameColumn.word

/-- What a session sees of a query. -/
def Query.view (q : Query NonemptyString) : ViewQuery :=
  ⟨q.text.label, q.text.label, q.relationNames.map (·.label)⟩

/-- The request that a statement makes. -/
def Statement.request : Statement → Request
  | .createDatabase name => .createDatabase name.label
  | .use name => .use name.label
  | .dropDatabase name => .dropDatabase name.label
  | .createTable name columns => .createTable name.label (columns.map (·.spec))
  | .drop objects names => .drop objects (names.1.map (·.label))
  | .alterTable name operations => .alterTable name.label (operations.1.map (·.request))
  | .showTables => .showTables
  | .explainTable name => .explainTable name.label
  | .createView name query => .createView name.label query.view

end SchemaCatalog
