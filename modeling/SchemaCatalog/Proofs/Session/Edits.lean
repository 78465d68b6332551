import SchemaCatalog.Proofs.Session.Effects
import SchemaCatalog.Proofs.Store.Edits

/-!
# Requests as chains of edits

What a request comes to if it succeeds is said once and for all (`Session.CarriesOut`). It takes the
store through a chain of edits (`Session.run_edits`), of which those that add a view look up
beforehand what the view reads from.
Hence handling a request takes a store that can be read and changed to another such store along a
chain of edits, whether the request succeeds or fails (`Session.handle_ready`).
-/

namespace SchemaCatalog

namespace Session

open Store (ViewSource)

variable {source : ViewSource} {x : Session} {s s' : Store}

/-! ### The parts of a request -/

theorem eq_of_references {query : ViewQuery} {names : List Label}
    (h : x.references query = .ok names) : names = x.visitor query := by
  rw [references] at h
  split_ifs at h
  obtain ⟨-, -, h⟩ := bind_eq_ok_iff.mp h
  exact (Except.ok.inj h).symm

/-- What names are resolved to exists. -/
theorem mem_of_resolve {names : List Label} {ids : List Id} (h : resolve s names = .ok ids) :
    ∀ id ∈ ids, id ∈ s.objects.map (·.id) := by
  induction names generalizing ids with
  | nil =>
    obtain rfl := Except.ok.inj h
    simp
  | cons name rest ih =>
    obtain ⟨-, -, h⟩ := bind_eq_ok_iff.mp h
    split at h
    · simp at h
    · rename_i o ho
      cases hrest : resolve s rest with
      | error f => rw [hrest] at h; simp [Except.map] at h
      | ok rest' =>
        rw [hrest] at h
        obtain rfl := Except.ok.inj h
        obtain ⟨text, -, ho⟩ := Option.bind_eq_some_iff.mp ho
        rw [List.forall_mem_cons]
        exact ⟨List.mem_map_of_mem (List.mem_of_find?_eq_some ho), ih hrest⟩

theorem dropNames_edits {databaseId : Id} {kind : ObjectKind} {names : List Label}
    (h : dropNames databaseId kind s names = .ok s') : Store.Edits source s s' := by
  induction names generalizing s with
  | nil =>
    obtain rfl := Except.ok.inj h
    exact .refl
  | cons name rest ih =>
    rw [dropNames_cons] at h
    obtain ⟨⟨n, s₁⟩, hdrop, h⟩ := bind_eq_ok_iff.mp h
    dsimp only at h
    split at h
    · simp at h
    · exact (Store.dropObject_edits hdrop).trans (ih h)

theorem alter_edits {tableId : Id} {before : List ColumnRow} {operations : List AlterRequest}
    (h : alter tableId before s operations = .ok s') : Store.Edits source s s' := by
  induction operations generalizing s with
  | nil =>
    obtain rfl := Except.ok.inj h
    exact .refl
  | cons operation rest ih =>
    cases operation with
    | addColumn column =>
      rw [alter_addColumn] at h
      obtain ⟨⟨row, s₁⟩, hadd, h⟩ := bind_eq_ok_iff.mp h
      exact (Store.addColumn_edits hadd).trans (ih h)
    | dropColumn name =>
      rw [alter_dropColumn] at h
      obtain ⟨c, -, h⟩ := bind_eq_ok_iff.mp h
      exact .head (.removeColumn c.id) (ih h)
    | other label => simp at h
    | unreadable flaw => simp at h

/-! ### Requests -/

/-- A session carries out a request: all that has to succeed for this, and what comes of it. -/
inductive CarriesOut (x : Session) (s : Store) : Request → Effect → Prop
  | createDatabase {name : Label} {row : DatabaseRow} {s' : Store}
      (hcreate : s.createDatabase name = .ok (row, s')) :
      CarriesOut x s (.createDatabase name)
        ⟨s', some (x.current.getD ⟨row.id, name⟩), none, some (.createdDatabase name row.id)⟩
  | use {name : Label} {row : DatabaseRow} (hrow : lookUpDatabase name s = .ok row) :
      CarriesOut x s (.use name) ⟨s, some ⟨row.id, row.name⟩, none, none⟩
  | dropDatabase {name : Label} {row : DatabaseRow} {s' : Store}
      (hrow : lookUpDatabase name s = .ok row) (hdrop : s.dropDatabase row = .ok s') :
      CarriesOut x s (.dropDatabase name)
        ⟨s', x.current.filter (·.id ≠ row.id), none,
          some (.droppedDatabase row.name (s.objectsOf row.id).length)⟩
  | createTable {name : Label} {columns : List ColumnSpec} {sel : Selection} {row : ObjectRow}
      {s' : Store} (hsel : x.selected s = .ok sel)
      (hcreate : s.createTable sel.id name columns = .ok (row, s')) :
      CarriesOut x s (.createTable name columns)
        ⟨s', x.current, none, some (.createdTable name columns.length)⟩
  | drop {kind : ObjectKind} {names : List Label} {sel : Selection} {s' : Store}
      (hsel : x.selected s = .ok sel) (hdrop : dropNames sel.id kind s names = .ok s') :
      CarriesOut x s (.drop kind names) ⟨s', x.current, none, none⟩
  | alterTable {name : Label} {operations : List AlterRequest} {sel : Selection}
      {table : ObjectRow} {s' : Store} (hsel : x.selected s = .ok sel)
      (htable : lookUpTable sel.id name s = .ok table)
      (halter : alter table.id (s.columnsOf table.id) s operations = .ok s') :
      CarriesOut x s (.alterTable name operations) ⟨s', x.current, none, none⟩
  | showTables {sel : Selection} (hsel : x.selected s = .ok sel) :
      CarriesOut x s .showTables
        ⟨s, x.current, some ((s.names sel.id .table).map fun name => [name]), none⟩
  | explainTable {name : Label} {sel : Selection} {table : ObjectRow}
      (hsel : x.selected s = .ok sel) (htable : lookUpTable sel.id name s = .ok table) :
      CarriesOut x s (.explainTable name)
        ⟨s, x.current, some ((s.columnsOf table.id).map columnRow), none⟩
  | createView {name : Label} {query : ViewQuery} {sel : Selection} {ids : List Id}
      {row : ObjectRow} {s' : Store} (hsel : x.selected s = .ok sel)
      (hids : resolve s (x.visitor query) = .ok ids)
      (hcreate : s.createView sel.id name query.definition ids.eraseDups = .ok (row, s')) :
      CarriesOut x s (.createView name query)
        ⟨s', x.current, none, some (.createdView name ids.eraseDups.length)⟩

/-- A request that succeeds has been carried out. -/
theorem carriesOut_of_run {r : Request} {e : Effect} (h : x.run s r = .ok e) :
    x.CarriesOut s r e := by
  cases r with
  | createDatabase name =>
    rw [run_createDatabase] at h
    obtain ⟨⟨row, s₁⟩, hcreate, h⟩ := bind_eq_ok_iff.mp h
    obtain rfl := Except.ok.inj h
    exact .createDatabase hcreate
  | use name =>
    rw [run_use] at h
    obtain ⟨row, hrow, h⟩ := bind_eq_ok_iff.mp h
    obtain rfl := Except.ok.inj h
    exact .use hrow
  | dropDatabase name =>
    rw [run_dropDatabase] at h
    obtain ⟨row, hrow, h⟩ := bind_eq_ok_iff.mp h
    obtain ⟨s₁, hdrop, h⟩ := bind_eq_ok_iff.mp h
    obtain rfl := Except.ok.inj h
    exact .dropDatabase hrow hdrop
  | createTable name columns =>
    rw [run_createTable] at h
    obtain ⟨sel, hsel, h⟩ := bind_eq_ok_iff.mp h
    obtain ⟨⟨row, s₁⟩, hcreate, h⟩ := bind_eq_ok_iff.mp h
    obtain rfl := Except.ok.inj h
    exact .createTable hsel hcreate
  | drop kind names =>
    rw [run_drop] at h
    obtain ⟨sel, hsel, h⟩ := bind_eq_ok_iff.mp h
    obtain ⟨s₁, hdrop, h⟩ := bind_eq_ok_iff.mp h
    obtain rfl := Except.ok.inj h
    exact .drop hsel hdrop
  | alterTable name operations =>
    rw [run_alterTable] at h
    obtain ⟨sel, hsel, h⟩ := bind_eq_ok_iff.mp h
    obtain ⟨table, htable, h⟩ := bind_eq_ok_iff.mp h
    obtain ⟨s₁, halter, h⟩ := bind_eq_ok_iff.mp h
    obtain rfl := Except.ok.inj h
    exact .alterTable hsel htable halter
  | showTables =>
    rw [run_showTables] at h
    obtain ⟨sel, hsel, h⟩ := bind_eq_ok_iff.mp h
    obtain rfl := Except.ok.inj h
    exact .showTables hsel
  | explainTable name =>
    rw [run_explainTable] at h
    obtain ⟨sel, hsel, h⟩ := bind_eq_ok_iff.mp h
    obtain ⟨table, htable, h⟩ := bind_eq_ok_iff.mp h
    obtain rfl := Except.ok.inj h
    exact .explainTable hsel htable
  | createView name query =>
    rw [run_createView] at h
    obtain ⟨names, hnames, h⟩ := bind_eq_ok_iff.mp h
    obtain rfl := eq_of_references hnames
    obtain ⟨sel, hsel, h⟩ := bind_eq_ok_iff.mp h
    obtain ⟨ids, hids, h⟩ := bind_eq_ok_iff.mp h
    obtain ⟨⟨row, s₁⟩, hcreate, h⟩ := bind_eq_ok_iff.mp h
    obtain rfl := Except.ok.inj h
    exact .createView hsel hids hcreate
  | other typeName => simp at h
  | malformed flaw => simp at h

/-- A request that succeeds is a chain of edits. Only `CREATE VIEW` adds a view. -/
theorem run_edits {r : Request} {e : Effect} (h : x.run s r = .ok e)
    (hsource : r.kind? = some .createView → source = .resolved) :
    Store.Edits source s e.store := by
  cases carriesOut_of_run h with
  | createDatabase hcreate => exact Store.createDatabase_edits hcreate
  | dropDatabase _ hdrop => exact Store.dropDatabase_edits hdrop
  | createTable _ hcreate => exact Store.createTable_edits hcreate
  | drop _ hdrop => exact dropNames_edits hdrop
  | alterTable _ _ halter => exact alter_edits halter
  | use | showTables | explainTable => exact .refl
  | createView _ hids hcreate =>
    obtain rfl := hsource rfl
    refine Store.createView_edits hcreate fun id hid => ?_
    exact mem_of_resolve hids id (List.mem_eraseDups.mp hid)

/-- Handling a request takes a store that can be read and changed to another one, through a chain
of edits. -/
theorem handle_ready (x : Session) (r : Request) (s : Store)
    (hsource : r.kind? = some .createView → source = .resolved) :
    ∃ s', (x.handle r (.ready s)).access = .ready s' ∧ Store.Edits source s s' := by
  rw [handle_eq, attempt]
  cases hrun : x.run s r with
  | error f => exact ⟨s, rfl, .refl⟩
  | ok e => exact ⟨e.store, rfl, run_edits hrun hsource⟩

end Session

end SchemaCatalog
