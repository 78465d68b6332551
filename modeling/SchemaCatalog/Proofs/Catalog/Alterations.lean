import SchemaCatalog.Proofs.Catalog.Atomicity
import SchemaCatalog.Proofs.Catalog.Consistency
import SchemaCatalog.Proofs.Catalog.Emptying
import SchemaCatalog.Proofs.Named.Sessions
import SchemaCatalog.Proofs.Session.Alterations

/-!
# Altered tables

`Catalog.tables_altered_in_order` says of any store which operations an `ALTER TABLE` is refused
for, and which columns the table has otherwise. A column that is dropped, added and dropped again is
there in the end, since only columns that were there at the beginning are dropped.

What the operations come to is said of the list alone (`Alteration.Fails`, `FirstFails`), not of the
stores in between. The loop keeps to it by `Session.alter_rounds`; here it is carried over to
requests.

A column can be dropped more than once. All drops but the first leave everything as it is
(`Catalog.columns_dropped_once`), so the number of columns does not always follow from how many
are added and how many are dropped.
-/

namespace SchemaCatalog

open Alteration (addedBy droppedBy)

namespace Session

variable {x : Session} {s : Store} {d : DatabaseRow} {table : ObjectRow}
  {operations : List Alteration}

/-! ### The requests -/

theorem lookUpTable_of_mem (hs : s.Valid) (ho : table ∈ s.objects) (hkind : table.kind = .table)
    (hdb : table.databaseId = d.id) : lookUpTable d.id (.text table.name) s = .ok table := by
  have hfind : s.table? d.id table.name = some table := by
    rw [Store.table?, ← hdb, ← hkind, hs.objectOfKind?_eq_some ho]
  rw [lookUpTable, requireStorable_text, ok_bind, Label.stored?, Option.bind_some, hfind]

section

variable (hs : s.Valid) (hx : x.WorksIn s d) (ho : table ∈ s.objects) (hkind : table.kind = .table)
  (hdb : table.databaseId = d.id)

include hs hx ho hkind hdb

/-- `ALTER TABLE` for a table of the selected database comes down to the loop. -/
theorem run_alterTable_of_mem (operations : List AlterRequest) :
    x.run s (.alterTable table.name operations) =
      (alter table.id (s.columnsOf table.id) s operations).map
        fun s' => ⟨s', x.current, none, none⟩ := by
  obtain ⟨sel, hselected, hid⟩ := hx.selected hs
  rw [run_alterTable, hselected, ok_bind, hid, lookUpTable_of_mem hs ho hkind hdb, ok_bind]
  cases alter table.id (s.columnsOf table.id) s operations <;> rfl

/-- `EXPLAIN TABLE` for a table of the selected database shows its columns. -/
theorem answer_explainTable :
    (x.handle (.explainTable table.name) (.ready s)).answer =
      .ok (some ((s.columnsOf table.id).map columnRow)) := by
  obtain ⟨sel, hselected, hid⟩ := hx.selected hs
  rw [handle_eq, attempt, run_explainTable, hselected, ok_bind, hid,
    lookUpTable_of_mem hs ho hkind hdb, ok_bind]

/-- An `ALTER TABLE` is refused because of its first failing operation. -/
theorem answer_alterTable_eq_error_iff {e : CatalogError} :
    (x.handle (.alterTable table.name (operations.map (·.request))) (.ready s)).answer = .error e ↔
      FirstFails (Alteration.Fails ((s.columnsOf table.id).map (·.name))) operations e := by
  rw [answer_eq_error_iff (run_alterTable_of_mem hs hx ho hkind hdb _)]
  exact (alter_rounds hs (hs.mem_tables ho hkind)).error_iff (Store.alteredBy_nil hs)

/-- An `ALTER TABLE` of which no operation fails alters the table. -/
theorem handle_alterTable
    (hnone : NoneFails (Alteration.Fails ((s.columnsOf table.id).map (·.name))) operations) :
    ∃ s', alter table.id (s.columnsOf table.id) s (operations.map (·.request)) = .ok s' ∧
      s.AlteredBy table.id operations s' ∧
      x.handle (.alterTable table.name (operations.map (·.request))) (.ready s) =
        ⟨.ok none, [], x, .ready s'⟩ := by
  obtain ⟨s', hall, haltered⟩ :=
    (alter_rounds hs (hs.mem_tables ho hkind)).exists_ok (Store.alteredBy_nil hs) hnone
  exact ⟨s', hall, haltered, handle_of_eq_ok (run_alterTable_of_mem hs hx ho hkind hdb _) hall⟩

/-- If an `ALTER TABLE` succeeds, no operation fails. -/
theorem noneFails_of_answer {rows : Option (List Row)}
    (h : (x.handle (.alterTable table.name (operations.map (·.request))) (.ready s)).answer =
      .ok rows) :
    NoneFails (Alteration.Fails ((s.columnsOf table.id).map (·.name))) operations := by
  refine (noneFails_or_exists_firstFails _ operations).resolve_right fun ⟨e, he⟩ => ?_
  rw [(answer_alterTable_eq_error_iff hs hx ho hkind hdb).mpr he] at h
  cases h

end

end Session

open Session

namespace Catalog

/-- **Altering a table.** However a catalog has been used, and for every table of the database that
a session has selected: an `ALTER TABLE` is refused because of its first failing operation, and then
nothing changes. If no operation fails, the table has the columns that it had, in their order and
with their numbers, without those that have been dropped, and after them those that have been added,
as they are defined; `EXPLAIN TABLE` shows them. -/
theorem tables_altered_in_order (sessions : List Session) (us : List Usage) :
    ∃ s, ((start sessions).useAll us).access = .ready s ∧
      ∀ (x : Session) (d : DatabaseRow) (table : ObjectRow) (operations : List Alteration),
        x.WorksIn s d → table ∈ s.objects → table.kind = .table → table.databaseId = d.id →
        let o := x.handle (.alterTable table.name (operations.map (·.request))) (.ready s)
        let fails := Alteration.Fails ((s.columnsOf table.id).map (·.name))
        (∀ e, o.answer = .error e ↔ FirstFails fails operations e) ∧
        (∀ e, o.answer = .error e → o.session = x ∧ o.access = .ready s) ∧
        (NoneFails fails operations →
          o.answer = .ok none ∧ o.session = x ∧ ∃ s' added, o.access = .ready s' ∧
            Store.OnlyColumns s s' table.id ∧
            s'.columnsOf table.id =
              (s.columnsOf table.id).filter (·.name ∉ droppedBy operations) ++ added ∧
            added.map (·.named) = (addedBy operations).map .ofDef ∧
            (x.handle (.explainTable table.name) (.ready s')).answer =
              .ok (some ((s'.columnsOf table.id).map columnRow))) := by
  obtain ⟨s, hs, hvalid⟩ := useAll_ready (c := start sessions) rfl Store.valid_empty us
  refine ⟨s, hs, fun x d table operations hx ho hkind hdb => ?_⟩
  intro o fails
  refine ⟨fun e => answer_alterTable_eq_error_iff hvalid hx ho hkind hdb,
    fun e he => handle_of_error he, fun hnone => ?_⟩
  obtain ⟨s', -, ⟨added, haltering, hadded⟩, heq⟩ :=
    handle_alterTable hvalid hx ho hkind hdb hnone
  refine ⟨congrArg Outcome.answer heq, congrArg Outcome.session heq, s', added,
    congrArg Outcome.access heq, haltering.only, haltering.columns, hadded, ?_⟩
  exact answer_explainTable haltering.valid (hx.of_databases_eq haltering.only.databases)
    (haltering.only.objects ▸ ho) hkind hdb

/-- A column is dropped, added with another type and dropped again, and stays. One that is added
cannot be dropped. -/
theorem tables_altered_in_order_again :
    let us : List Usage := [.event (.request 0 (.createDatabase "d")),
      .event (.request 0 (.createTable "t" [⟨"a", "INT", true⟩, ⟨"b", "INT", false⟩]))]
    let a : NonemptyString := ⟨"a", by decide⟩
    let c : NonemptyString := ⟨"c", by decide⟩
    let text : NonemptyString := ⟨"TEXT", by decide⟩
    let operations : List Alteration := [.dropColumn a, .addColumn ⟨a, text, false⟩,
      .dropColumn a, .addColumn ⟨c, text, true⟩]
    let operations' : List Alteration := operations ++ [.dropColumn c]
    let x : Session := { current := some ⟨1, "d"⟩ }
    ∃ s, ((start [{}]).useAll us).access = .ready s ∧
      (∃ s', (x.handle (.alterTable "t" (operations.map (·.request))) (.ready s)).access =
          .ready s' ∧
        (x.handle (.explainTable "t") (.ready s')).answer =
          .ok (some [["b", "INT", ""], ["a", "TEXT", ""], ["c", "TEXT", "PRI"]])) ∧
      (x.handle (.alterTable "t" (operations'.map (·.request))) (.ready s)).answer =
        .error (.notFound .column "c") := by
  intro us a c text operations operations' x
  have hnone : NoneFails (Alteration.Fails ["a", "b"]) operations := by
    simp only [operations, noneFails_cons_iff]
    refine ⟨fun _ h => ?_, fun _ h => ?_, fun _ h => ?_, fun _ h => ?_, noneFails_nil⟩
    all_goals
      cases h
      all_goals simp_all [a, c, addedBy, Alteration.added?, droppedBy, Alteration.dropped?]
  have hstore : ((start [{}]).useAll us).access =
      .ready ⟨[⟨1, "d"⟩], [⟨1, .table, "t", 1⟩], [1], [],
        [⟨1, 1, "a", "INT", true⟩, ⟨2, 1, "b", "INT", false⟩], [], 1, 1, 2⟩ := by
    decide +kernel
  obtain ⟨s, hs, h⟩ := tables_altered_in_order [{}] us
  refine ⟨s, hs, ?_⟩
  obtain rfl := Access.ready.inj (hs.symm.trans hstore)
  have halter := fun operations => h x ⟨1, "d"⟩ ⟨1, .table, "t", 1⟩ operations
    ⟨by decide, _, rfl, rfl⟩ (by decide) rfl rfl
  constructor
  · obtain ⟨-, -, s', added, hs', -, hcolumns, hadded, hexplain⟩ :=
      (halter operations).2.2 hnone
    refine ⟨s', hs', hexplain.trans ?_⟩
    have hrows : (s'.columnsOf 1).map columnRow =
        ((s'.columnsOf 1).map (·.named)).map Named.Column.row := by
      rw [List.map_map]
      rfl
    rw [hrows, hcolumns, List.map_append, hadded]
    rfl
  · exact ((halter operations').1 _).mpr
      ⟨operations, _, [], rfl, hnone, .dropAbsent (by decide)⟩

/-- **Repeated drops.** However a catalog has been used, and for every table of the database that a
session has selected: of an `ALTER TABLE` that succeeds, each operation that drops a column leaves
the table with one column fewer exactly if no column is dropped twice, and exactly then the number
of columns follows from how many are added and dropped. Each column that is dropped again makes no
difference to what becomes of the request. -/
theorem columns_dropped_once (sessions : List Session) (us : List Usage) :
    ∃ s, ((start sessions).useAll us).access = .ready s ∧
      ∀ (x : Session) (d : DatabaseRow) (table : ObjectRow) (operations : List Alteration),
        x.WorksIn s d → table ∈ s.objects → table.kind = .table → table.databaseId = d.id →
        let outcome (operations : List Alteration) :=
          x.handle (.alterTable table.name (operations.map (·.request))) (.ready s)
        (outcome operations).answer = .ok none →
        (EachDropCounts s table.id operations ↔ (droppedBy operations).Nodup) ∧
        (∀ s', (outcome operations).access = .ready s' →
          ((s'.columnsOf table.id).length + (droppedBy operations).length =
              (s.columnsOf table.id).length + (addedBy operations).length ↔
            (droppedBy operations).Nodup)) ∧
        ∀ name, name.text ∈ droppedBy operations →
          outcome (operations ++ [.dropColumn name]) = outcome operations := by
  obtain ⟨s, hs, hvalid⟩ := useAll_ready (c := start sessions) rfl Store.valid_empty us
  refine ⟨s, hs, fun x d table operations hx ho hkind hdb => ?_⟩
  intro outcome hanswer
  have htable := hvalid.mem_tables ho hkind
  have hnone := noneFails_of_answer hvalid hx ho hkind hdb hanswer
  have hhad := Alteration.mem_of_mem_droppedBy hnone
  obtain ⟨s', hall, haltered, houtcome⟩ := handle_alterTable hvalid hx ho hkind hdb hnone
  refine ⟨eachDropCounts_iff hvalid htable hnone, fun s'' hs'' => ?_, fun name hname => ?_⟩
  · obtain rfl := Access.ready.inj ((congrArg Outcome.access houtcome).symm.trans hs'')
    exact haltered.length_columnsOf_iff hvalid hhad
  · refine Eq.trans (handle_of_eq_ok (run_alterTable_of_mem hvalid hx ho hkind hdb _) (a := s') ?_)
      houtcome.symm
    rw [List.map_append, (alter_isLoop _ _).append, hall]
    exact alter_dropColumn_of_mem_droppedBy hvalid haltered (hhad _ hname) hname

/-- A column is dropped, and may as well be dropped again. -/
theorem columns_dropped_once_twice :
    let us : List Usage := [.event (.request 0 (.createDatabase "d")),
      .event (.request 0 (.createTable "t" [⟨"a", "INT", true⟩]))]
    let a : NonemptyString := ⟨"a", by decide⟩
    let operations : List Alteration := [.dropColumn a]
    let operations' : List Alteration := operations ++ [.dropColumn a]
    let x : Session := { current := some ⟨1, "d"⟩ }
    ∃ s, ((start [{}]).useAll us).access = .ready s ∧ EachDropCounts s 1 operations ∧
      x.handle (.alterTable "t" (operations'.map (·.request))) (.ready s) =
        x.handle (.alterTable "t" (operations.map (·.request))) (.ready s) := by
  intro us a operations operations' x
  have hstore : ((start [{}]).useAll us).access = .ready ⟨[⟨1, "d"⟩], [⟨1, .table, "t", 1⟩], [1],
      [], [⟨1, 1, "a", "INT", true⟩], [], 1, 1, 1⟩ := by
    decide +kernel
  obtain ⟨s, hs, h⟩ := columns_dropped_once [{}] us
  refine ⟨s, hs, ?_⟩
  obtain rfl := Access.ready.inj (hs.symm.trans hstore)
  obtain ⟨hcounts, -, hagain⟩ := h x ⟨1, "d"⟩ ⟨1, .table, "t", 1⟩ operations
    ⟨by decide, _, rfl, rfl⟩ (by decide) rfl rfl rfl
  exact ⟨hcounts.mpr (by decide), hagain a (by decide)⟩

/-- The only column of a table is dropped twice: the request succeeds, and fewer columns are gone
than have been dropped. A table cannot be dropped twice. -/
theorem not_each_drop_counts :
    let us : List Usage := [.event (.request 0 (.createDatabase "d")),
      .event (.request 0 (.createTable "t" [⟨"a", "INT", true⟩]))]
    let a : NonemptyString := ⟨"a", by decide⟩
    let operations : List Alteration := [.dropColumn a, .dropColumn a]
    let x : Session := { current := some ⟨1, "d"⟩ }
    ∃ s s', ((start [{}]).useAll us).access = .ready s ∧
      x.handle (.alterTable "t" (operations.map (·.request))) (.ready s) =
        ⟨.ok none, [], x, .ready s'⟩ ∧
      (s'.columnsOf 1).length + (droppedBy operations).length ≠
        (s.columnsOf 1).length + (addedBy operations).length ∧
      ¬ EachDropCounts s 1 operations ∧
      (x.handle (.drop .table ["t", "t"]) (.ready s)).answer =
        .error (.notFound (.object .table) "t") := by
  intro us a operations x
  have hstore : ((start [{}]).useAll us).access = .ready ⟨[⟨1, "d"⟩], [⟨1, .table, "t", 1⟩], [1],
      [], [⟨1, 1, "a", "INT", true⟩], [], 1, 1, 1⟩ := by
    decide +kernel
  refine ⟨_, _, hstore, rfl, by decide, fun h => ?_, rfl⟩
  -- the second operation finds no column any more
  have hlength := h [.dropColumn a] a [] _ _ rfl rfl rfl
  revert hlength
  decide

end Catalog

end SchemaCatalog
