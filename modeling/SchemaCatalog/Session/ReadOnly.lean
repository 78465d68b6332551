import SchemaCatalog.Session.Handlers

/-!
# Requests on a store that cannot be changed

A store may be there to be read only. Requests that change nothing are then handled as always. Any
other request is refused at the moment at which it would make its first change: what is wrong with
it before that is found out first, and what would be wrong later is not found out at all.
-/

namespace SchemaCatalog

namespace Session

/-- The refusal of a request at its first change. -/
def changeRefused (r : Request) : Failure :=
  ⟨r.kind?.map .storeFailed, .storeUnavailable .readOnly⟩

/-- Looks at an operation on a table with the given columns, up to the first change. -/
def requireAlteration (columns : List ColumnRow) : AlterRequest → Except Failure Unit
  | .addColumn column => Store.requireNewColumn column
  | .dropColumn name => discard (lookUpColumn name columns)
  | .other label => .error (.of (.unsupported (.alteration label)))
  | .unreadable flaw => .error (.of (.malformed flaw))

/-- Looks at a request up to its first change, and tells whether it makes any. -/
def inspect (x : Session) (s : Store) : Request → Except Failure Bool
  | .createDatabase name => do
    requireStorable 1 name
    .ok true
  | .dropDatabase name => do
    discard (lookUpDatabase name s)
    .ok true
  | .createTable name columns => do
    let sel ← x.selected s
    s.requireNewTable sel.id name columns
    .ok true
  | .drop _ names => do
    discard (x.selected s)
    names.head?.forM (requireStorable 3)
    .ok !names.isEmpty
  | .alterTable name operations => do
    let sel ← x.selected s
    let table ← lookUpTable sel.id name s
    operations.head?.forM (requireAlteration (s.columnsOf table.id))
    .ok !operations.isEmpty
  | .createView name query => do
    let references ← x.references query
    let sel ← x.selected s
    discard (resolve s references)
    s.requireNewView sel.id name query.definition
    .ok true
  | _ => .ok false

end Session

/-- Does what a request asks for on a store that cannot be changed. -/
def Handler.performReadOnly (r : Request) : Handler Response := do
  let scene ← get
  if ← .check (scene.session.inspect scene.store.committed r) then throw (Session.changeRefused r)
  else perform r

end SchemaCatalog
