import SchemaCatalog.Proofs.Session.InPlace

/-!
# What requests come to

Seen from outside, a request has an effect or is refused: what its handler did before a failure is
taken back. `Session.run` tells the effect of a request on a store that can be read and changed, and
there is an equation for each kind of request (`Session.run_createTable`). So does `Session.attempt`
for every access, and the whole outcome follows from it (`Session.handle_eq`).
-/

namespace SchemaCatalog

/-- What a successful request does: the new store and selection, the rows to show, if the request
shows any, and the note of the work done. -/
structure Effect where
  store : Store
  current : Option Selection
  rows : Option (List Row)
  note : Option Note

namespace Session

open Work (finish outcome)

variable {x : Session} {s : Store}

/-! ### Loops -/

/-- Drops objects by name, or tells why not. -/
def dropNames (databaseId : Id) (kind : ObjectKind) (s : Store) (names : List Label) :
    Except Failure Store :=
  finish (Handler.dropNames databaseId kind names) s

@[simp] theorem dropNames_nil {databaseId : Id} {kind : ObjectKind} :
    dropNames databaseId kind s [] = .ok s := rfl

theorem dropNames_cons {databaseId : Id} {kind : ObjectKind} {name : Label} {rest : List Label} :
    dropNames databaseId kind s (name :: rest) = (do
      let (count, s) ← s.dropObject databaseId kind name
      if count = 0 then .error (.of (.notFound (.object kind) name))
      else dropNames databaseId kind s rest) := by
  rw [dropNames, Handler.dropNames, Work.finish_bind]
  refine bind_congr fun ⟨count, s'⟩ => ?_
  by_cases hcount : count = 0
  · simp only [hcount]
    rfl
  · simp only [hcount]
    rfl

/-- Applies operations to a table, or tells why not. -/
def alter (tableId : Id) (before : List ColumnRow) (s : Store) (operations : List AlterRequest) :
    Except Failure Store :=
  finish (Handler.alter tableId before operations) s

section Alter

variable {tableId : Id} {before : List ColumnRow} {rest : List AlterRequest}

@[simp] theorem alter_nil : alter tableId before s [] = .ok s := rfl

theorem alter_addColumn {column : ColumnSpec} :
    alter tableId before s (.addColumn column :: rest) = (do
      let (_, s) ← s.addColumn tableId column
      alter tableId before s rest) := by
  rw [alter, Handler.alter, Work.finish_bind]
  rfl

theorem alter_dropColumn {name : Label} :
    alter tableId before s (.dropColumn name :: rest) = (do
      let c ← lookUpColumn name before
      alter tableId before (s.removeColumn c.id) rest) := by
  rw [alter, Handler.alter, Work.finish_check_bind]
  rfl

@[simp] theorem alter_other {label : String} :
    alter tableId before s (.other label :: rest) =
      .error (.of (.unsupported (.alteration label))) := rfl

@[simp] theorem alter_unreadable {flaw : Flaw} :
    alter tableId before s (.unreadable flaw :: rest) = .error (.of (.malformed flaw)) := rfl

end Alter

/-! ### Requests -/

/-- What a request does on a store that can be read and changed, or why it is refused. -/
def run (x : Session) (s : Store) (r : Request) : Except Failure Effect :=
  (outcome (Handler.perform r) ⟨x, .begin s⟩).map fun (response, scene) =>
    ⟨scene.store.committed, scene.session.current, response.rows, response.note⟩

section Transactions

variable {α : Type} {r : Request} {response : α → Response}

/-- What a transaction comes to is committed. -/
theorem outcome_transaction {body : Handler α} :
    outcome (Handler.transaction body) ⟨x, .begin s⟩ =
      (outcome body ⟨x, .begin s⟩).map fun (a, scene) =>
        (a, { scene with store := scene.store.commit }) := by
  rw [outcome, outcome, Handler.transaction_apply]
  dsimp only [Transaction.begin]
  cases body ⟨x, ⟨s, s⟩⟩ <;> rfl

theorem outcome_inStore {work : Work Store α} :
    outcome (Handler.inStore work) ⟨x, .begin s⟩ =
      (outcome work s).map fun (a, s') => (a, ⟨x, ⟨s, s'⟩⟩) := by
  rw [outcome, outcome, Handler.inStore]
  dsimp only [Transaction.begin]
  cases work s <;> rfl

/-- What work comes to in a transaction of its own. -/
theorem outcome_transaction_inStore {work : Work Store α} :
    outcome (Handler.transaction (Handler.inStore work)) ⟨x, .begin s⟩ =
      (outcome work s).map fun (a, s) => (a, ⟨x, .begin s⟩) := by
  rw [outcome_transaction, outcome_inStore]
  cases outcome work s <;> rfl

/-- What work comes to in the selected database. -/
theorem outcome_inSelected {work : Selection → Work Store α} :
    outcome (Handler.inSelected work) ⟨x, .begin s⟩ = (do
      let sel ← x.selected s
      let (a, s) ← outcome (work sel) s
      .ok (a, ⟨x, .begin s⟩)) := by
  rw [Handler.inSelected, outcome_transaction, Work.outcome_get_bind, Work.outcome_check_bind]
  change Except.map _ (x.selected s >>= _) = _
  cases x.selected s with
  | error failure => rfl
  | ok sel =>
    change Except.map _ (outcome (Handler.inStore (work sel)) ⟨x, .begin s⟩) = _
    rw [outcome_inStore]
    change _ = (outcome (work sel) s >>= _)
    cases outcome (work sel) s <;> rfl

/-- What a handler comes to that does its work in the selected database, and tells of it. -/
theorem map_outcome_inSelected {β : Type} {work : Selection → Work Store α}
    {f : Response × Scene → β} :
    (outcome (Handler.inSelected work >>= fun a => pure (response a)) ⟨x, .begin s⟩).map f = (do
      let sel ← x.selected s
      let (a, s) ← outcome (work sel) s
      .ok (f (response a, ⟨x, .begin s⟩))) := by
  rw [Work.outcome_bind, outcome_inSelected]
  cases x.selected s with
  | error failure => rfl
  | ok sel =>
    change Except.map f ((outcome (work sel) s >>= _) >>= _) = (outcome (work sel) s >>= _)
    cases outcome (work sel) s <;> rfl

/-- What a request comes to that does its work in a transaction in the selected database. -/
theorem run_eq_of_inSelected {work : Selection → Work Store α}
    (h : Handler.perform r = Handler.inSelected work >>= fun a => pure (response a)) :
    x.run s r = (do
      let sel ← x.selected s
      let (a, s) ← outcome (work sel) s
      .ok ⟨s, x.current, (response a).rows, (response a).note⟩) := by
  rw [run, h]
  exact map_outcome_inSelected

end Transactions

variable {name : Label}

theorem run_createDatabase :
    x.run s (.createDatabase name) = (do
      let (row, s) ← s.createDatabase name
      .ok ⟨s, some (x.current.getD ⟨row.id, name⟩), none,
        some (.createdDatabase name row.id)⟩) := by
  rw [run, Handler.perform, Handler.createDatabase, Work.outcome_bind, outcome_transaction_inStore]
  change Except.map _ ((s.createDatabase name).map _ >>= _) = s.createDatabase name >>= _
  cases s.createDatabase name <;> rfl

theorem run_use :
    x.run s (.use name) = (do
      let row ← lookUpDatabase name s
      .ok ⟨s, some ⟨row.id, row.name⟩, none, none⟩) := by
  rw [run, Handler.perform, Handler.use, Work.outcome_bind, outcome_transaction_inStore,
    Work.outcome_look]
  cases lookUpDatabase name s <;> rfl

theorem run_dropDatabase :
    x.run s (.dropDatabase name) = (do
      let row ← lookUpDatabase name s
      let s' ← s.dropDatabase row
      .ok ⟨s', x.current.filter (·.id ≠ row.id), none,
        some (.droppedDatabase row.name (s.objectsOf row.id).length)⟩) := by
  rw [run, Handler.perform, Handler.dropDatabase, Work.outcome_bind, outcome_transaction_inStore,
    Work.outcome_look_bind]
  cases lookUpDatabase name s with
  | error failure => rfl
  | ok row =>
    change Except.map _ ((outcome (Work.dropDatabase row >>= _) s).map _ >>= _) = _
    rw [Work.outcome_unit_bind]
    change _ = (s.dropDatabase row >>= _)
    rw [Store.dropDatabase]
    cases finish (Work.dropDatabase row) s <;> rfl

theorem run_createTable {columns : List ColumnSpec} :
    x.run s (.createTable name columns) = (do
      let sel ← x.selected s
      let (_, s) ← s.createTable sel.id name columns
      .ok ⟨s, x.current, none, some (.createdTable name columns.length)⟩) := by
  rw [run_eq_of_inSelected rfl]
  rfl

theorem run_drop {kind : ObjectKind} {names : List Label} :
    x.run s (.drop kind names) = (do
      let sel ← x.selected s
      let s ← dropNames sel.id kind s names
      .ok ⟨s, x.current, none, none⟩) := by
  rw [run_eq_of_inSelected rfl]
  refine bind_congr fun sel => ?_
  rw [dropNames, finish]
  cases outcome (Handler.dropNames sel.id kind names) s <;> rfl

theorem run_alterTable {operations : List AlterRequest} :
    x.run s (.alterTable name operations) = (do
      let sel ← x.selected s
      let table ← lookUpTable sel.id name s
      let s ← alter table.id (s.columnsOf table.id) s operations
      .ok ⟨s, x.current, none, none⟩) := by
  rw [run_eq_of_inSelected rfl]
  refine bind_congr fun sel => ?_
  rw [Work.outcome_look_bind]
  cases lookUpTable sel.id name s with
  | error failure => rfl
  | ok table =>
    change (outcome (Handler.alter table.id (s.columnsOf table.id) operations) s >>= _) =
      (finish (Handler.alter table.id (s.columnsOf table.id) operations) s >>= _)
    rw [finish]
    cases outcome (Handler.alter table.id (s.columnsOf table.id) operations) s <;> rfl

theorem run_showTables :
    x.run s .showTables = (do
      let sel ← x.selected s
      .ok ⟨s, x.current, some ((s.names sel.id .table).map fun name => [name]), none⟩) := by
  rw [run_eq_of_inSelected rfl]
  rfl

theorem run_explainTable :
    x.run s (.explainTable name) = (do
      let sel ← x.selected s
      let table ← lookUpTable sel.id name s
      .ok ⟨s, x.current, some ((s.columnsOf table.id).map columnRow), none⟩) := by
  rw [run_eq_of_inSelected rfl]
  refine bind_congr fun sel => ?_
  rw [Work.outcome_look_bind]
  cases lookUpTable sel.id name s <;> rfl

theorem run_createView {query : ViewQuery} :
    x.run s (.createView name query) = (do
      let references ← x.references query
      let sel ← x.selected s
      let objectIds := (← resolve s references).eraseDups
      let (_, s) ← s.createView sel.id name query.definition objectIds
      .ok ⟨s, x.current, none, some (.createdView name objectIds.length)⟩) := by
  rw [run, Handler.perform, Handler.createView, Work.outcome_get_bind, Work.outcome_check_bind]
  change Except.map _ (x.references query >>= _) = _
  cases x.references query with
  | error failure => rfl
  | ok references =>
    change Except.map _ (outcome (Handler.inSelected _ >>= fun ids => pure _) ⟨x, .begin s⟩) = _
    rw [map_outcome_inSelected]
    refine bind_congr fun sel => ?_
    rw [Work.outcome_look_bind]
    cases resolve s references with
    | error failure => rfl
    | ok ids =>
      change (outcome (Work.createView sel.id name query.definition ids.eraseDups >>= _) s >>= _) =
        (s.createView sel.id name query.definition ids.eraseDups >>= _)
      rw [Work.outcome_bind, Store.createView]
      cases outcome (Work.createView sel.id name query.definition ids.eraseDups) s <;> rfl

@[simp] theorem run_other {typeName : String} :
    x.run s (.other typeName) = .error (.of (.unsupported (.statement typeName))) := rfl

@[simp] theorem run_malformed {flaw : Flaw} :
    x.run s (.malformed flaw) = .error (.of (.malformed flaw)) := rfl

/-! ### Every access -/

/-- What a request does on a store that cannot be changed, or why it is refused. -/
def runReadOnly (x : Session) (s : Store) (r : Request) : Except Failure Effect := do
  if ← x.inspect s r then .error (changeRefused r) else x.run s r

/-- What a request does if the store can be reached, or why it is refused. -/
def attempt (x : Session) (r : Request) : Access → Except Failure Effect
  | .ready s => x.run s r
  | .readOnly s => x.runReadOnly s r
  | .broken outage => .error (x.refusal outage r)

variable {r : Request} {a : Access}

/-- The outcome of a handler that leaves no trace when it fails, and never touches the visitor. -/
theorem ofResult_eq {handler : Handler Response} (hkeeps : Work.KeepsOnError Scene.lasting handler)
    (hvisitor : Work.Keeps (fun scene => scene.session.visitor) handler) :
    Outcome.ofResult a (handler ⟨x, .begin s⟩) =
      match outcome handler ⟨x, .begin s⟩ with
      | .ok (response, scene) => ⟨.ok response.rows, response.note.toList,
          { x with current := scene.session.current }, a.after scene.store.committed⟩
      | .error f => ⟨.error f.error, f.note.toList, x, a.after s⟩ := by
  have hvisitor := hvisitor ⟨x, .begin s⟩
  rw [Work.left] at hvisitor
  rw [outcome]
  cases hresult : handler ⟨x, .begin s⟩ with
  | ok response scene =>
    rw [hresult] at hvisitor
    obtain ⟨⟨visitor, current⟩, store⟩ := scene
    obtain rfl : visitor = x.visitor := hvisitor
    rfl
  | error f scene => exact ofResult_eq_of_error hkeeps hresult

theorem outcome_performReadOnly :
    outcome (Handler.performReadOnly r) ⟨x, .begin s⟩ = (do
      if ← x.inspect s r then .error (changeRefused r)
      else outcome (Handler.perform r) ⟨x, .begin s⟩) := by
  rw [Handler.performReadOnly, Work.outcome_get_bind, Work.outcome_check_bind]
  refine bind_congr fun changes => ?_
  cases changes <;> rfl

/-- What comes of a request is told by its effect, or by the reason why it is refused. -/
theorem handle_eq :
    x.handle r a =
      match x.attempt r a with
      | .ok e => ⟨.ok e.rows, e.note.toList, { x with current := e.current }, a.after e.store⟩
      | .error f => ⟨.error f.error, f.note.toList, x, a⟩ := by
  cases a with
  | ready s =>
    rw [handle, ofResult_eq (Handler.keepsOnError_perform r) (Handler.keeps_visitor_perform r),
      attempt, run]
    cases outcome (Handler.perform r) ⟨x, .begin s⟩ <;> rfl
  | readOnly s =>
    rw [handle, ofResult_eq (Handler.keepsOnError_performReadOnly r)
      (Handler.keeps_visitor_performReadOnly r), outcome_performReadOnly, attempt, runReadOnly]
    cases x.inspect s r with
    | error f => rfl
    | ok changes =>
      cases changes with
      | true => rfl
      | false =>
        simp only [run]
        cases outcome (Handler.perform r) ⟨x, .begin s⟩ <;> rfl
  | broken outage => rfl

end Session

end SchemaCatalog
