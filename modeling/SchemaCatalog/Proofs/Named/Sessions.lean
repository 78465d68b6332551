import SchemaCatalog.Proofs.Named.Parts
import SchemaCatalog.Proofs.Named.Refinement

/-!
# What a session sees of a store

A session that has selected a database that exists works in it (`Session.WorksIn`). Of the store it
sees the part that this database is: on any other store with the same part, its statements are
answered in the same way, and make the same of that part (`Session.handle_alike`). For `CREATE VIEW`
the names that the view refers to must in addition stand for the same places, since they are looked
up in all databases (`Session.RefersAlike`).

Statements about tables leave the parts of all other databases as they are
(`Session.handle_part_other`).
-/

namespace SchemaCatalog

open Named (Agree Alike Client Pointer)

/-- What a store holds of a database, if it can be read. -/
def Access.part? (a : Access) (database : String) : Option Named.Part :=
  a.store?.map (·.named.part database)

@[simp] theorem Access.part?_ready (s : Store) (database : String) :
    (Access.ready s).part? database = some (s.named.part database) := rfl

theorem Statement.isScoped_of_isAboutTables {stmt : Statement} (h : stmt.isAboutTables = true) :
    stmt.kind.isScoped = true := by
  cases stmt with
  | createDatabase | use | dropDatabase | createView => exact absurd h Bool.false_ne_true
  | createTable | alterTable | drop | showTables | explainTable => rfl

/-- The named form of a valid store has no two objects at the same place. -/
theorem Store.Valid.named_separate {s : Store} (hs : s.Valid) : s.named.Separate := by
  intro o ho o' ho' hplace
  obtain ⟨r, hr, rfl⟩ := List.mem_map.mp ho
  obtain ⟨r', hr', rfl⟩ := List.mem_map.mp ho'
  exact congrArg s.namedObject (hs.place_injective hr hr' hplace)

namespace Session

variable {x : Session} {s t : Store} {d : DatabaseRow} {stmt : Statement}

/-- A session has selected a database that exists. -/
structure WorksIn (x : Session) (s : Store) (d : DatabaseRow) : Prop where
  mem : d ∈ s.databases
  current : ∃ sel, x.current = some sel ∧ d.id = sel.id

/-- A session works in a database as long as databases are what they are. -/
theorem WorksIn.of_databases_eq (h : x.WorksIn s d) (hdatabases : t.databases = s.databases) :
    x.WorksIn t d := ⟨hdatabases ▸ h.mem, h.current⟩

/-- A session that works in a database has it selected. -/
theorem WorksIn.selected (h : x.WorksIn s d) (hs : s.Valid) :
    ∃ sel, x.selected s = .ok sel ∧ sel.id = d.id := by
  obtain ⟨hd, sel, hx, hid⟩ := h
  exact ⟨sel, selected_of_mem hx hs hd hid, hid.symm⟩

theorem WorksIn.selected_agree (h : x.WorksIn s d) (hs : s.Valid) :
    Agree (fun sel name => (⟨sel.id, name⟩ : DatabaseRow) ∈ s.databases) (x.selected s)
      (Pointer.selected d.name).database := by
  obtain ⟨hd, sel, hx, hid⟩ := h
  rw [selected_of_mem hx hs hd hid]
  refine .ok ?_
  rw [← hid]
  exact hd

/-- What a new view refers to are names, which stand for the same places in two stores. -/
def RefersAlike (x : Session) (s t : Store) : Statement → Prop
  | .createView _ query =>
    ∃ names : List String, x.visitor query.view = names.map .text ∧
      ∀ name ∈ names, (s.oldest? name).map s.place = (t.oldest? name).map t.place
  | _ => True

/-- For one statement, a session can be represented by a client that lists the same names. -/
theorem RefersAlike.exists_client (h : x.RefersAlike s t stmt) (p : Pointer) :
    ∃ y : Client, y.pointer = p ∧ ∀ view query, stmt = .createView view query →
      x.visitor query.view = (y.names query).map .text ∧
      ∀ name ∈ y.names query,
        (s.named.oldest? name).map (·.place) = (t.named.oldest? name).map (·.place) := by
  cases stmt with
  | createView view query =>
    obtain ⟨names, hvisitor, hplaces⟩ := h
    refine ⟨⟨fun _ => names, p⟩, rfl, fun _ query' heq => ?_⟩
    obtain ⟨-, rfl⟩ := Statement.createView.inj heq
    refine ⟨hvisitor, fun name hname => ?_⟩
    rw [Store.named_oldest?, Store.named_oldest?, Option.map_map, Option.map_map]
    exact hplaces name hname
  | _ => exact ⟨⟨fun _ => [], p⟩, rfl, fun _ _ heq => nomatch heq⟩

/-- A statement about the selected database does to the store what it does on names. -/
theorem handle_eq_execute (hs : s.Valid) (hx : x.WorksIn s d) {y : Client}
    (hy : y.pointer = .selected d.name) (hscoped : stmt.kind.isScoped = true)
    (hnames : ∀ view query, stmt = .createView view query →
      x.visitor query.view = (y.names query).map .text) :
    (x.handle stmt.request (.ready s)).answer = (y.execute s.named stmt).map (·.rows) ∧
      ∃ s', (x.handle stmt.request (.ready s)).access = .ready s' ∧
        s'.named = y.after s.named stmt := by
  have hagree := run_scoped_agree hs (y := y) (hy ▸ hx.selected_agree hs) hscoped hnames
  rw [handle_eq, attempt, Client.after]
  generalize x.run s stmt.request = a at hagree ⊢
  generalize y.execute s.named stmt = b at hagree ⊢
  cases hagree with
  | error f => exact ⟨rfl, s, rfl, rfl⟩
  | @ok e e' h =>
    obtain ⟨hstore, hrows, -⟩ := h
    exact ⟨congrArg Except.ok hrows.symm, e.store, rfl, hstore.symm⟩

/-- How a statement about the selected database is answered, and what becomes of that database,
shows nothing but what the store holds of it. -/
theorem handle_alike (hs : s.Valid) (ht : t.Valid) (hxs : x.WorksIn s d) (hxt : x.WorksIn t d)
    (hpart : s.named.part d.name = t.named.part d.name) (hscoped : stmt.kind.isScoped = true)
    (hrefers : x.RefersAlike s t stmt) :
    (x.handle stmt.request (.ready s)).answer = (x.handle stmt.request (.ready t)).answer ∧
      (x.handle stmt.request (.ready s)).access.part? d.name =
        (x.handle stmt.request (.ready t)).access.part? d.name := by
  obtain ⟨y, hy, hnames⟩ := hrefers.exists_client (.selected d.name)
  obtain ⟨hanswer, s', hs', hafter⟩ :=
    handle_eq_execute hs hxs hy hscoped fun view query heq => (hnames view query heq).1
  obtain ⟨hanswer', t', ht', hafter'⟩ :=
    handle_eq_execute ht hxt hy hscoped fun view query heq => (hnames view query heq).1
  obtain ⟨hrows, hpart'⟩ :=
    Client.execute_part hy hpart hscoped fun view query heq => (hnames view query heq).2
  refine ⟨hanswer.trans (hrows.trans hanswer'.symm), ?_⟩
  rw [hs', ht', Access.part?_ready, Access.part?_ready, hafter, hafter', hpart']

/-- A statement about the tables of the selected database leaves the parts of all others. -/
theorem handle_part_other (hs : s.Valid) (hx : x.WorksIn s d) {d' : DatabaseRow}
    (hd' : d' ∈ s.databases) (hne : d.id ≠ d'.id) (htables : stmt.isAboutTables = true) :
    (x.handle stmt.request (.ready s)).access.part? d'.name = some (s.named.part d'.name) := by
  have hother : d.name ≠ d'.name := fun hname =>
    hne (congrArg (·.id) (List.inj_on_of_nodup_map hs.database_names hx.mem hd' hname))
  obtain ⟨-, s', hs', hafter⟩ := handle_eq_execute (y := ⟨fun _ => [], .selected d.name⟩) hs hx rfl
    (Statement.isScoped_of_isAboutTables htables)
    (by rintro view query rfl; exact absurd htables Bool.false_ne_true)
  rw [hs', Access.part?_ready, hafter]
  exact congrArg some (Client.after_part_other rfl hother hs.named_separate htables)

end Session

end SchemaCatalog
