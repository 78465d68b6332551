import Mathlib.Data.List.Nodup
import SchemaCatalog.Store.Rows

/-!
# What the single changes of rows do

For every way of adding a row, `…_eq_some_iff` says when the store accepts the row and what the
store is afterwards. The removal of an object is treated in the same way; the other removals are
never refused.

The dependencies of a view are added one by one. Together they are accepted exactly when no object
is given twice, every object exists and none of the dependencies is there already
(`insertDependencies?_eq_some_iff`).
-/

namespace SchemaCatalog

/-- It makes no difference to leave out first what would be left out anyway. -/
theorem filter_filter_eq {α : Type} {P Q : α → Prop} [DecidablePred P] [DecidablePred Q]
    {rows : List α} (h : ∀ r ∈ rows, Q r → P r) :
    (rows.filter fun r => decide (P r)).filter (fun r => decide (Q r)) =
      rows.filter fun r => decide (Q r) := by
  rw [List.filter_filter]
  refine List.filter_congr fun r hr => Bool.eq_iff_iff.mpr ?_
  rw [Bool.and_eq_true, decide_eq_true_eq, decide_eq_true_eq]
  exact and_iff_left_of_imp (h r hr)

theorem nodup_eraseDups {α : Type} [BEq α] [LawfulBEq α] (l : List α) : l.eraseDups.Nodup := by
  match l with
  | [] => exact .nil
  | a :: rest =>
    rw [List.eraseDups_cons, List.nodup_cons]
    refine ⟨fun hmem => ?_, nodup_eraseDups _⟩
    simpa using List.mem_eraseDups.mp hmem
termination_by l.length
decreasing_by exact Nat.lt_succ_of_le (List.length_filter_le _ _)

end SchemaCatalog

namespace SchemaCatalog.Store

variable {s s' : Store}

/-! ### Insertions -/

/-- A database is accepted under a name that no database has. -/
theorem insertDatabase?_eq_some_iff {name : String} {row : DatabaseRow} :
    s.insertDatabase? name = some (row, s') ↔
      name ∉ s.databases.map (·.name) ∧ row = ⟨s.lastDatabase + 1, name⟩ ∧
        s' = { s with databases := s.databases ++ [row], lastDatabase := row.id } := by
  have htaken : (s.databases.any fun d => d.name = name) = true ↔
      name ∈ s.databases.map (·.name) := by
    simp [List.any_eq_true, List.mem_map]
  rw [insertDatabase?]
  split_ifs with h
  · exact iff_of_false (by simp) fun hnew => hnew.1 (htaken.mp h)
  · simp only [Option.some.injEq, Prod.mk.injEq]
    constructor
    · rintro ⟨rfl, rfl⟩
      exact ⟨fun hmem => h (htaken.mpr hmem), rfl, rfl⟩
    · rintro ⟨-, rfl, rfl⟩
      exact ⟨rfl, rfl⟩

/-- An object is accepted in an existing database, under a name that no object has there. -/
theorem insertObject?_eq_some_iff {kind : ObjectKind} {databaseId : Id} {name : String}
    {row : ObjectRow} :
    s.insertObject? kind databaseId name = some (row, s') ↔
      databaseId ∈ s.databases.map (·.id) ∧
        (databaseId, name) ∉ s.objects.map (fun o => (o.databaseId, o.name)) ∧
        row = ⟨s.lastObject + 1, kind, name, databaseId⟩ ∧
        s' = { s with objects := s.objects ++ [row], lastObject := row.id } := by
  have hplace : ((s.databases.any fun d => d.id = databaseId) = true ∧
      ¬ (s.objects.any fun o => o.databaseId = databaseId ∧ o.name = name) = true) ↔
      databaseId ∈ s.databases.map (·.id) ∧
        (databaseId, name) ∉ s.objects.map (fun o => (o.databaseId, o.name)) := by
    simp [List.any_eq_true, List.mem_map]
  rw [insertObject?]
  split_ifs with h
  · simp only [Option.some.injEq, Prod.mk.injEq]
    constructor
    · rintro ⟨rfl, rfl⟩
      exact ⟨(hplace.mp h).1, (hplace.mp h).2, rfl, rfl⟩
    · rintro ⟨-, -, rfl, rfl⟩
      exact ⟨rfl, rfl⟩
  · exact iff_of_false (by simp) fun hnew => h (hplace.mpr ⟨hnew.1, hnew.2.1⟩)

/-- A column is accepted in an existing table, under a name that no column has there. -/
theorem insertColumn?_eq_some_iff {tableId : Id} {spec : ColumnSpec} {row : ColumnRow} :
    s.insertColumn? tableId spec = some (row, s') ↔
      ∃ name dataType, spec.name.stored? = some name ∧ spec.dataType.stored? = some dataType ∧
        tableId ∈ s.tables ∧ (tableId, name) ∉ s.columns.map (fun c => (c.tableId, c.name)) ∧
        row = ⟨s.lastColumn + 1, tableId, name, dataType, spec.isPrimaryKey⟩ ∧
        s' = { s with columns := s.columns ++ [row], lastColumn := row.id } := by
  rw [insertColumn?]
  split
  · rename_i name dataType hname hdata
    have hplace : (tableId ∈ s.tables ∧
        ¬ (s.columns.any fun c => c.tableId = tableId ∧ c.name = name) = true) ↔
        tableId ∈ s.tables ∧ (tableId, name) ∉ s.columns.map (fun c => (c.tableId, c.name)) := by
      simp [List.any_eq_true, List.mem_map]
    split_ifs with h
    · simp only [Option.some.injEq, Prod.mk.injEq]
      constructor
      · rintro ⟨rfl, rfl⟩
        exact ⟨name, dataType, hname, hdata, (hplace.mp h).1, (hplace.mp h).2, rfl, rfl⟩
      · rintro ⟨n, t, hn, ht, -, -, rfl, rfl⟩
        obtain rfl : name = n := Option.some.inj (hname.symm.trans hn)
        obtain rfl : dataType = t := Option.some.inj (hdata.symm.trans ht)
        exact ⟨rfl, rfl⟩
    · refine iff_of_false (by simp) ?_
      rintro ⟨n, t, hn, ht, htable, hfree, -, -⟩
      obtain rfl : name = n := Option.some.inj (hname.symm.trans hn)
      exact h (hplace.mpr ⟨htable, hfree⟩)
  · rename_i hnone
    refine iff_of_false (by simp) ?_
    rintro ⟨n, t, hn, ht, -⟩
    exact hnone n t hn ht

/-- A dependency is accepted when its object exists and it is not there already. -/
theorem insertDependency?_eq_some_iff {e : Dependency} :
    s.insertDependency? e = some s' ↔
      e.objectId ∈ s.objects.map (·.id) ∧ e ∉ s.dependencies ∧
        s' = { s with dependencies := s.dependencies ++ [e] } := by
  have hplace : ((s.objects.any fun o => o.id = e.objectId) = true ∧ e ∉ s.dependencies) ↔
      e.objectId ∈ s.objects.map (·.id) ∧ e ∉ s.dependencies := by
    simp [List.any_eq_true, List.mem_map]
  rw [insertDependency?]
  split_ifs with h
  · simp only [Option.some.injEq]
    constructor
    · rintro rfl
      exact ⟨(hplace.mp h).1, (hplace.mp h).2, rfl⟩
    · rintro ⟨-, -, rfl⟩
      rfl
  · exact iff_of_false (by simp) fun hnew => h (hplace.mpr ⟨hnew.1, hnew.2.1⟩)

/-- Which dependencies of a view are accepted together. -/
theorem insertDependencies?_eq_some_iff {viewId : Id} {objectIds : List Id} :
    s.insertDependencies? viewId objectIds = some s' ↔
      objectIds.Nodup ∧ (∀ id ∈ objectIds, id ∈ s.objects.map (·.id)) ∧
        (∀ id ∈ objectIds, (⟨viewId, id⟩ : Dependency) ∉ s.dependencies) ∧
        s' = { s with dependencies := s.dependencies ++ objectIds.map (⟨viewId, ·⟩) } := by
  induction objectIds generalizing s with
  | nil =>
    simp only [insertDependencies?, Option.some.injEq, List.nodup_nil, List.not_mem_nil,
      List.map_nil, List.append_nil]
    exact ⟨fun h => ⟨trivial, by simp, by simp, h.symm⟩, fun h => h.2.2.2.symm⟩
  | cons id rest ih =>
    rw [insertDependencies?]
    cases h₁ : s.insertDependency? ⟨viewId, id⟩ with
    | none =>
      refine iff_of_false (by simp) ?_
      rintro ⟨-, hobj, hnew, -⟩
      have hsome : s.insertDependency? ⟨viewId, id⟩ = some _ :=
        insertDependency?_eq_some_iff.mpr ⟨hobj id (by simp), hnew id (by simp), rfl⟩
      rw [h₁] at hsome
      exact absurd hsome (by simp)
    | some s₁ =>
      obtain ⟨hobj, hnew, rfl⟩ := insertDependency?_eq_some_iff.mp h₁
      -- the other dependencies are new to a store that has the first one, which is not among them
      simp only [ih, List.nodup_cons, List.forall_mem_cons, List.map_cons, List.mem_append,
        List.mem_singleton, not_or, Dependency.mk.injEq, true_and, List.append_assoc,
        List.cons_append, List.nil_append]
      constructor
      · rintro ⟨hnd, hobjs, hnews, rfl⟩
        exact ⟨⟨fun hid => (hnews id hid).2 rfl, hnd⟩, ⟨hobj, hobjs⟩,
          ⟨hnew, fun x hx => (hnews x hx).1⟩, rfl⟩
      · rintro ⟨⟨hid, hnd⟩, ⟨-, hobjs⟩, ⟨-, hnews⟩, rfl⟩
        exact ⟨hnd, hobjs, fun x hx => ⟨hnews x hx, fun hx' => hid (hx' ▸ hx)⟩, rfl⟩

/-! ### Removals -/

/-- A view reads from an object when one of the dependencies leads there. -/
theorem isReferenced_eq_true_iff {objectId : Id} :
    s.isReferenced objectId = true ↔ ∃ e ∈ s.dependencies, e.objectId = objectId := by
  simp [isReferenced, List.any_eq_true]

/-- An object is removed, with all that belongs to it, when no view reads from it. -/
theorem removeObject?_eq_some_iff {objectId : Id} :
    s.removeObject? objectId = some s' ↔
      (∀ e ∈ s.dependencies, e.objectId ≠ objectId) ∧
        s' = { s with
          objects := s.objects.filter (·.id ≠ objectId)
          tables := s.tables.filter (· ≠ objectId)
          views := s.views.filter (·.id ≠ objectId)
          columns := s.columns.filter (·.tableId ≠ objectId)
          dependencies := s.dependencies.filter (·.viewId ≠ objectId) } := by
  rw [removeObject?]
  split_ifs with h
  · obtain ⟨e, he, heq⟩ := isReferenced_eq_true_iff.mp h
    exact iff_of_false (by simp) fun hfree => hfree.1 e he heq
  · simp only [Option.some.injEq]
    constructor
    · rintro rfl
      exact ⟨fun e he heq => h (isReferenced_eq_true_iff.mpr ⟨e, he, heq⟩), rfl⟩
    · rintro ⟨-, rfl⟩
      rfl

end SchemaCatalog.Store
