import SchemaCatalog.Proofs.Catalog.Alterations
import SchemaCatalog.Proofs.Catalog.Selection
import SchemaCatalog.Proofs.Catalog.Views
import SchemaCatalog.Proofs.Session.Frame
import SchemaCatalog.Proofs.Session.Refusals

/-!
# New tables

`Catalog.tables_created_as_defined` says of any store when a `CREATE TABLE` is refused, and what it
adds otherwise: the object of the table, and one column for each definition, numbered in their
order. `EXPLAIN TABLE` shows the definitions from then on, whatever else happens, until the table is
altered or dropped or its database is dropped (`Catalog.Disturbs`).

That a table stays as it is follows from what every request keeps (`Session.run_keeps_object`): the
columns of other tables come from the same counter, and other databases may have tables of the same
name, but neither makes a difference to the rows of the table.
-/

namespace SchemaCatalog

/-! ### Repeated names -/

/-- Of the names that occur more than once, `name` is the one that occurs first. -/
def IsFirstRepeated (names : List String) (name : String) : Prop :=
  ∃ before after, names = before ++ name :: after ∧ name ∈ after ∧
    ∀ other ∈ before, names.count other = 1

theorem repeated?_eq_some_iff {names : List String} {name : String} :
    Named.repeated? names = some name ↔ IsFirstRepeated names name := by
  rw [Named.repeated?, List.find?_eq_some_iff_append]
  constructor
  · rintro ⟨hcount, before, after, hnames, hbefore⟩
    have hcount : 1 < names.count name := of_decide_eq_true hcount
    have honce : ∀ other ∈ before, names.count other = 1 := by
      intro other hother
      have hle : ¬ 1 < names.count other := by simpa using hbefore other hother
      have hpos : 0 < names.count other :=
        List.count_pos_iff.mpr (hnames ▸ List.mem_append_left _ hother)
      omega
    refine ⟨before, after, hnames, ?_, honce⟩
    -- before its first occurrence there is none, so the second one comes afterwards
    have hfirst : before.count name = 0 := by
      refine List.count_eq_zero.mpr fun hmem => ?_
      have hone := honce name hmem
      omega
    have hsplit : names.count name = before.count name + (after.count name + 1) := by
      rw [hnames, List.count_append, List.count_cons_self]
    refine List.count_pos_iff.mp ?_
    omega
  · rintro ⟨before, after, hnames, hafter, honce⟩
    have hpos : 0 < after.count name := List.count_pos_iff.mpr hafter
    have hsplit : names.count name = before.count name + (after.count name + 1) := by
      rw [hnames, List.count_append, List.count_cons_self]
    refine ⟨decide_eq_true (by omega), before, after, hnames, fun other hother => ?_⟩
    rw [honce other hother]
    rfl

namespace Store

variable {s : Store} {d : DatabaseRow} {name : String} {columns : List ColumnDef}

/-! ### Tables that are not created -/

/-- A `CREATE TABLE` in a database is refused. -/
inductive TableFails (s : Store) (databaseId : Id) (name : String) (columns : List ColumnDef) :
    CatalogError → Prop
  /-- An object of the database has the name. -/
  | taken {o : ObjectRow} (ho : o ∈ s.objects) (hdb : o.databaseId = databaseId)
      (hname : o.name = name) :
      TableFails s databaseId name columns (.alreadyExists (.object o.kind) name)
  /-- No object of the database has the name, but columns have the same name. -/
  | repeated {column : String} (hfree : ∀ o ∈ s.objects, o.databaseId = databaseId → o.name ≠ name)
      (hrepeated : IsFirstRepeated (columns.map (·.name.text)) column) :
      TableFails s databaseId name columns (.alreadyExists .column column)

/-- No object of a database has a name that is not found there. -/
theorem object?_eq_none_iff {databaseId : Id} :
    s.object? databaseId name = none ↔
      ∀ o ∈ s.objects, o.databaseId = databaseId → o.name ≠ name := by
  rw [object?, List.find?_eq_none]
  simp only [decide_eq_true_eq, not_and]

/-- A table cannot be asked for exactly if it fails. -/
theorem Valid.requireNewTable_eq_error_iff (hs : s.Valid) {databaseId : Id} {f : Failure} :
    s.requireNewTable databaseId (.text name) (columns.map (·.spec)) = .error f ↔
      ∃ e, s.TableFails databaseId name columns e ∧ f = .of e := by
  constructor
  · intro h
    rw [requireNewTable_eq_bind, bind_eq_error_iff] at h
    rcases h with htaken | ⟨⟨⟩, hfree, hrepeated⟩
    · obtain ⟨o, ho, hdb, hname, rfl⟩ := requireFree_eq_error htaken
      exact ⟨_, .taken ho hdb hname, rfl⟩
    · cases hcolumn : Named.repeated? (columns.map (·.name.text)) with
      | none => simp [hcolumn] at hrepeated
      | some column =>
        rw [hcolumn] at hrepeated
        refine ⟨_, .repeated (fun o ho hdb hname => ?_) (repeated?_eq_some_iff.mp hcolumn),
          (Except.error.inj hrepeated).symm⟩
        rw [← hdb, ← hname, hs.requireFree_of_mem ho] at hfree
        cases hfree
  · rintro ⟨e, hfails, rfl⟩
    rw [requireNewTable_eq_bind]
    cases hfails with
    | taken ho hdb hname => rw [← hdb, ← hname, hs.requireFree_of_mem ho, error_bind]
    | repeated hfree hrepeated =>
      rw [requireFree, requireStorable_text, ok_bind, Label.stored?, Option.bind_some,
        object?_eq_none_iff.mpr hfree, ok_bind, repeated?_eq_some_iff.mpr hrepeated]

/-- A table that does not fail is created. -/
theorem Valid.createTable_of_not_tableFails (hs : s.Valid) (hd : d ∈ s.databases)
    (h : ∀ e, ¬ s.TableFails d.id name columns e) :
    s.createTable d.id (.text name) (columns.map (·.spec)) =
        .ok (s.nextObject .table d.id name,
          s.withTable (s.nextObject .table d.id name) columns) ∧
      Edits .noView s (s.withTable (s.nextObject .table d.id name) columns) := by
  cases hrequire : s.requireNewTable d.id (.text name) (columns.map (·.spec)) with
  | error f =>
    obtain ⟨e, hfails, -⟩ := hs.requireNewTable_eq_error_iff.mp hrequire
    exact absurd hfails (h e)
  | ok u =>
    obtain ⟨hfree, hnodup⟩ := requireNewTable_eq_ok_iff.mp hrequire
    exact createTable_of_free hs hd hfree hnodup

end Store

namespace Session

variable {x : Session} {s : Store} {d : DatabaseRow} {o : ObjectRow} {name : String}
  {columns : List ColumnDef} {r : Request} {e : Effect}

/-! ### The request -/

section

variable (hs : s.Valid) (hx : x.WorksIn s d)

include hs hx

/-- A `CREATE TABLE` in the selected database comes down to the change of the store. -/
theorem run_createTable_of_worksIn (name : Label) (columns : List ColumnSpec) :
    x.run s (.createTable name columns) = (s.createTable d.id name columns).map
      fun r => ⟨r.2, x.current, none, some (.createdTable name columns.length)⟩ := by
  obtain ⟨sel, hselected, hid⟩ := hx.selected hs
  rw [run_createTable, hselected, ok_bind, hid]
  cases s.createTable d.id name columns <;> rfl

/-- Why a `CREATE TABLE` is refused. -/
theorem answer_createTable_eq_error_iff {err : CatalogError} :
    (x.handle (.createTable name (columns.map (·.spec))) (.ready s)).answer = .error err ↔
      s.TableFails d.id name columns err := by
  rw [answer_eq_error_iff (run_createTable_of_worksIn hs hx _ _)]
  simp only [Store.createTable_eq_error_iff hs hx.mem, hs.requireNewTable_eq_error_iff]
  constructor
  · rintro ⟨-, ⟨e, hfails, rfl⟩, rfl⟩
    exact hfails
  · intro hfails
    exact ⟨_, ⟨err, hfails, rfl⟩, rfl⟩

/-- A table that does not fail is created. -/
theorem handle_createTable (h : ∀ err, ¬ s.TableFails d.id name columns err) :
    x.handle (.createTable name (columns.map (·.spec))) (.ready s) =
      ⟨.ok none, [.createdTable name columns.length], x,
        .ready (s.withTable (s.nextObject .table d.id name) columns)⟩ := by
  obtain ⟨hcreate, -⟩ := hs.createTable_of_not_tableFails hx.mem h
  rw [handle_of_eq_ok (run_createTable_of_worksIn hs hx _ _) hcreate, List.length_map]
  rfl

end

/-! ### Tables that stay as they are -/

/-- A request drops a database, or in that database drops or alters an object of the kind and name
of the given one. -/
def Disturbs (x : Session) (d : DatabaseRow) (o : ObjectRow) : Request → Prop
  | .dropDatabase name => name.stored? = some d.name
  | r => r.AimsAt o ∧ ∃ sel ∈ x.current, sel.id = d.id

instance : Decidable (x.Disturbs d o r) :=
  match r with
  | .dropDatabase _ => inferInstanceAs (Decidable (_ = _))
  | .createDatabase _ | .use _ | .createTable _ _ | .drop _ _ | .alterTable _ _ | .showTables
  | .explainTable _ | .createView _ _ | .other _ | .malformed _ =>
    inferInstanceAs (Decidable (_ ∧ _))

/-- A request that does not disturb an object keeps it, its rows, and its database. -/
theorem run_keeps_object (hs : s.Valid) (h : x.run s r = .ok e) (hd : d ∈ s.databases)
    (ho : o ∈ s.objects) (hdb : o.databaseId = d.id) (hnot : ¬ x.Disturbs d o r) :
    d ∈ e.store.databases ∧ o ∈ e.store.objects ∧ e.store.rowsOf o.id = s.rowsOf o.id := by
  by_cases hscoped : r.isScoped = true
  · obtain ⟨sel, hsel, -, hkeeps⟩ := run_keeps hs hscoped h
    have hkeeps : s.Keeps e.store (· = o) := by
      refine hkeeps _ ?_
      rintro o' hin hmeant rfl
      rcases hmeant with ⟨-, hnext⟩ | ⟨haims, -⟩
      · exact hs.succ_lastObject_ne ho hnext.symm
      · refine hnot ?_
        have hcurrent : ∃ sel ∈ x.current, sel.id = d.id :=
          ⟨sel, current_of_selected hsel, hin.symm.trans hdb⟩
        cases r with
        | drop | alterTable => exact ⟨haims, hcurrent⟩
        | _ => exact haims.elim
    exact ⟨hkeeps.databases ▸ hd, (hkeeps.mem_objects_iff rfl).mpr ho, hkeeps.rows o ho rfl⟩
  · cases carriesOut_of_run h with
    | createDatabase hcreate =>
      obtain ⟨text, -, hrow⟩ := Store.createDatabase_eq_ok hcreate
      obtain ⟨-, rfl, rfl⟩ := Store.insertDatabase?_eq_some_iff.mp hrow
      exact ⟨List.mem_append_left _ hd, ho, rfl⟩
    | use => exact ⟨hd, ho, rfl⟩
    | dropDatabase =>
      have hother := run_untouched (d := d) hs h hnot
      have hin : o ∈ s.objectsOf d.id := List.mem_filter.mpr ⟨ho, decide_eq_true hdb⟩
      have hin' := hother.objects hd ▸ hin
      exact ⟨hother.row.mpr hd, (List.mem_filter.mp hin').1, hother.rows hd o hin⟩
    | _ => exact absurd rfl hscoped

end Session

namespace Catalog

variable {c : Catalog} {s : Store} {d : DatabaseRow} {o : ObjectRow} {columns : List ColumnRow}
  {e : Event}

/-- A session drops a database, or in that database drops or alters an object of the kind and name
of the given one, and succeeds. -/
def Disturbs (c : Catalog) (d : DatabaseRow) (o : ObjectRow) (e : Event) : Prop :=
  (∃ p ∈ e.request?, ∃ x ∈ c.sessions[p.1]?, x.Disturbs d o p.2) ∧ (c.step e).1.isFailure = false

instance : Decidable (c.Disturbs d o e) := inferInstanceAs (Decidable (_ ∧ _))

/-- In a run, an object and its database are never disturbed. -/
def NeverDisturbs (c : Catalog) (d : DatabaseRow) (o : ObjectRow) : List Event → Prop
  | [] => True
  | e :: rest => ¬ c.Disturbs d o e ∧ (c.step e).2.NeverDisturbs d o rest

instance instDecidableNeverDisturbs (c : Catalog) :
    (es : List Event) → Decidable (c.NeverDisturbs d o es)
  | [] => .isTrue trivial
  | e :: rest =>
    have := instDecidableNeverDisturbs (c.step e).2 rest
    inferInstanceAs (Decidable (_ ∧ _))

/-- A catalog has a database with an object that has the given columns. -/
structure Holds (c : Catalog) (d : DatabaseRow) (o : ObjectRow) (columns : List ColumnRow)
    (s : Store) : Prop where
  access : c.access = .ready s
  valid : s.Valid
  database : d ∈ s.databases
  object : o ∈ s.objects
  inside : o.databaseId = d.id
  columns : s.columnsOf o.id = columns

theorem Holds.step (h : c.Holds d o columns s) (he : e ≠ .clear)
    (hnot : ¬ c.Disturbs d o e) : ∃ s', (c.step e).2.Holds d o columns s' := by
  rcases step_eq_or_run h.access he with heq | ⟨j, x, r, effect, hr, hfailure, hx, hrun, heq⟩
  · exact ⟨s, heq.symm ▸ h⟩
  · have hedits : Store.Edits .resolved s effect.store := Session.run_edits hrun fun _ => rfl
    have hspared : ¬ x.Disturbs d o r := fun hdisturbs =>
      hnot ⟨⟨(j, r), hr, x, hx, hdisturbs⟩, hfailure⟩
    obtain ⟨hd, ho, hrows⟩ :=
      Session.run_keeps_object h.valid hrun h.database h.object h.inside hspared
    have hcolumns : effect.store.columnsOf o.id = s.columnsOf o.id :=
      congrArg (fun rows => rows.2.2.1) hrows
    exact ⟨effect.store, heq ▸
      ⟨rfl, hedits.valid h.valid, hd, ho, h.inside, hcolumns.trans h.columns⟩⟩

theorem Holds.run {es : List Event} (h : c.Holds d o columns s) (hes : .clear ∉ es)
    (hnever : c.NeverDisturbs d o es) : ∃ s', (c.run es).2.Holds d o columns s' := by
  induction es generalizing c s with
  | nil => exact ⟨s, h⟩
  | cons e rest ih =>
    rw [List.mem_cons, not_or] at hes
    obtain ⟨s₁, h₁⟩ := h.step (fun he => hes.1 he.symm) hnever.1
    exact ih h₁ hes.2 hnever.2

/-- `EXPLAIN TABLE` shows the definitions of the columns that a catalog holds of a table. -/
theorem Holds.answer_explainTable {definitions : List ColumnDef} (h : c.Holds d o columns s)
    (hkind : o.kind = .table) (hdefined : columns.map (·.named) = definitions.map .ofDef)
    {y : Session} (hy : y.WorksIn s d) :
    (y.handle (.explainTable o.name) (.ready s)).answer =
      .ok (some (definitions.map fun column =>
        [column.name.text, column.dataType.text, if column.isPrimaryKey then "PRI" else ""])) := by
  rw [Session.answer_explainTable h.valid hy h.object hkind h.inside, h.columns]
  rw [← map_row_named, hdefined, List.map_map]
  rfl

/-- **Creating a table.** However a catalog has been used, whichever session has selected the
database: a `CREATE TABLE` is refused because an object of the database has the name, or else
because of the first name of a column that comes again, and then nothing changes. Otherwise the
table is added with its columns, which are numbered in their order. From then on `EXPLAIN TABLE`
shows the columns as they are defined, whatever any sessions do, until one of them alters or drops
the table or drops its database. -/
theorem tables_created_as_defined (sessions : List Session) (us : List Usage) :
    ∃ s, ((start sessions).useAll us).access = .ready s ∧
      ∀ (x : Session) (d : DatabaseRow) (name : String) (columns : List ColumnDef),
        x.WorksIn s d →
        let outcome := x.handle (.createTable name (columns.map (·.spec))) (.ready s)
        let fails := s.TableFails d.id name columns
        let o : ObjectRow := ⟨s.lastObject + 1, .table, name, d.id⟩
        (∀ e, outcome.answer = .error e ↔ fails e) ∧
        (∀ e, outcome.answer = .error e → outcome.session = x ∧ outcome.access = .ready s) ∧
        ((∀ e, ¬ fails e) → outcome.answer = .ok none ∧ outcome.session = x ∧
          outcome.access = .ready (s.withTable o columns) ∧
          ∀ (clients : List Session) (es : List Event), .clear ∉ es →
            Catalog.NeverDisturbs ⟨outcome.access, clients⟩ d o es →
            ∃ s', (Catalog.run ⟨outcome.access, clients⟩ es).2.access = .ready s' ∧
              d ∈ s'.databases ∧ ∀ y : Session, y.WorksIn s' d →
                (y.handle (.explainTable name) (.ready s')).answer =
                  .ok (some (columns.map fun column => [column.name.text, column.dataType.text,
                    if column.isPrimaryKey then "PRI" else ""]))) := by
  obtain ⟨s, hs, hvalid⟩ := useAll_ready (c := start sessions) rfl Store.valid_empty us
  refine ⟨s, hs, fun x d name columns hx => ?_⟩
  intro outcome fails o
  refine ⟨fun e => Session.answer_createTable_eq_error_iff hvalid hx,
    fun e he => Session.handle_of_error he, fun hnone => ?_⟩
  have heq := Session.handle_createTable hvalid hx hnone
  have haccess : outcome.access = .ready (s.withTable o columns) := congrArg Outcome.access heq
  refine ⟨congrArg Outcome.answer heq, congrArg Outcome.session heq, haccess,
    fun clients es hes hnever => ?_⟩
  obtain ⟨-, hedits⟩ := hvalid.createTable_of_not_tableFails hx.mem hnone
  have hholds : Catalog.Holds ⟨outcome.access, clients⟩ d o (s.nextColumns o.id columns)
      (s.withTable o columns) :=
    ⟨haccess, hedits.valid hvalid, hx.mem, List.mem_append_right _ List.mem_cons_self, rfl,
      Store.columnsOf_withTable hvalid (Int.lt_succ _) columns⟩
  obtain ⟨s', h'⟩ := hholds.run hes hnever
  exact ⟨s', h'.access, h'.database, fun y hy =>
    h'.answer_explainTable rfl (Store.map_named_nextColumns columns) hy⟩

/-- While a table is there, another session alters a table of the same name in its own database,
drops that database, and does not succeed in dropping the table, since a view reads from it. -/
theorem tables_created_as_defined_namesakes :
    let us : List Usage := [.event (.request 0 (.createDatabase "d")),
      .event (.request 1 (.createDatabase "e")),
      .event (.request 1 (.createTable "t" [⟨"x", "INT", false⟩]))]
    let columns : List ColumnDef := [⟨⟨"b", by decide⟩, ⟨"TEXT", by decide⟩, false⟩,
      ⟨⟨"a", by decide⟩, ⟨"INT", by decide⟩, true⟩]
    let clients : List Session := [{ current := some ⟨1, "d"⟩ }, { current := some ⟨2, "e"⟩ }]
    let es : List Event :=
      [.request 1 (.alterTable "t" [.addColumn ⟨"y", "INT", false⟩, .dropColumn "x"]),
        .request 1 (.dropDatabase "e"), .request 1 (.use "d"),
        .request 1 (.createView "v" ⟨"SELECT", "SELECT", ["t"]⟩), .request 1 (.drop .table ["t"])]
    let x : Session := { current := some ⟨1, "d"⟩ }
    ∃ s s', ((start [{}, {}]).useAll us).access = .ready s ∧
      (x.handle (.createTable "t" (columns.map (·.spec))) (.ready s)).access =
        .ready (s.withTable ⟨2, .table, "t", 1⟩ columns) ∧
      (Catalog.run ⟨.ready (s.withTable ⟨2, .table, "t", 1⟩ columns), clients⟩ es).2.access =
        .ready s' ∧
      (x.handle (.explainTable "t") (.ready s')).answer =
        .ok (some [["b", "TEXT", ""], ["a", "INT", "PRI"]]) := by
  intro us columns clients es x
  let s₀ : Store := ⟨[⟨1, "d"⟩, ⟨2, "e"⟩], [⟨1, .table, "t", 2⟩], [1], [],
    [⟨1, 1, "x", "INT", false⟩], [], 2, 1, 1⟩
  have hs₀ : ((start [{}, {}]).useAll us).access = .ready s₀ := by decide +kernel
  obtain ⟨s, hs, h⟩ := tables_created_as_defined [{}, {}] us
  obtain rfl : s₀ = s := Access.ready.inj (hs₀.symm.trans hs)
  obtain ⟨-, -, hcreated⟩ := h x ⟨1, "d"⟩ "t" columns ⟨by decide, _, rfl, rfl⟩
  have hnone : ∀ e, ¬ s₀.TableFails 1 "t" columns e := by
    intro e hfails
    cases hfails with
    | taken ho hdb =>
      obtain rfl := List.mem_singleton.mp ho
      exact absurd hdb (by decide)
    | repeated _ hrepeated =>
      have hnodup : Named.repeated? (columns.map (·.name.text)) = none := by decide
      rw [repeated?_eq_some_iff.mpr hrepeated] at hnodup
      cases hnodup
  obtain ⟨-, -, haccess, hkept⟩ := hcreated hnone
  rw [haccess] at hkept
  have hnever : Catalog.NeverDisturbs ⟨.ready (s₀.withTable ⟨2, .table, "t", 1⟩ columns), clients⟩
      ⟨1, "d"⟩ ⟨2, .table, "t", 1⟩ es := by decide +kernel
  obtain ⟨s', hs', hd, hexplain⟩ := hkept clients es (by simp [es]) hnever
  exact ⟨s₀, s', hs₀, haccess, hs', hexplain x ⟨hd, _, rfl, rfl⟩⟩

end Catalog

end SchemaCatalog
