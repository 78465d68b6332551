import SchemaCatalog.Proofs.Store.Rows

/-!
# Valid stores

A store is *valid* (`Store.Valid`) when its lists of rows fit together: every row that another row
refers to exists, names are unique where they have to be, and numbers have been given out in
increasing order by the counters.

The tables and the views are, in their order, exactly the objects of their kind, which is more than
that every object has one row there. `Store.Valid.consistent` draws the plain consequences
(`Store.Consistent`), which speak of single rows.

Each change of rows that a catalog makes keeps a store valid. An object and its row among the
tables or the views are added together, since a store with only one of the two is not valid.
-/

namespace SchemaCatalog

/-! ### Numbers -/

/-- Numbers that a counter, which now stands at `last`, has given out in increasing order. -/
structure Numbered (ids : List Int) (last : Int) : Prop where
  last_nonneg : 0 ≤ last
  increasing : ids.Pairwise (· < ·)
  bounds : ∀ id ∈ ids, 0 < id ∧ id ≤ last

namespace Numbered

variable {ids ids' : List Int} {last : Int}

theorem nil : Numbered [] 0 := ⟨Int.le_refl 0, .nil, by simp⟩

/-- The next number of the counter comes last. -/
theorem append (h : Numbered ids last) : Numbered (ids ++ [last + 1]) (last + 1) := by
  refine ⟨by have := h.last_nonneg; omega, ?_, ?_⟩
  · rw [List.pairwise_append]
    refine ⟨h.increasing, List.pairwise_singleton _ _, fun a ha b hb => ?_⟩
    obtain rfl := List.mem_singleton.mp hb
    have := (h.bounds a ha).2
    omega
  · intro id hid
    rcases List.mem_append.mp hid with hid | hid
    · have := h.bounds id hid
      omega
    · obtain rfl := List.mem_singleton.mp hid
      have := h.last_nonneg
      omega

theorem sublist (h : Numbered ids last) (hs : ids'.Sublist ids) : Numbered ids' last :=
  ⟨h.last_nonneg, h.increasing.sublist hs, fun id hid => h.bounds id (hs.subset hid)⟩

theorem nodup (h : Numbered ids last) : ids.Nodup := h.increasing.imp fun hlt => Int.ne_of_lt hlt

end Numbered

/-- Keeping some rows keeps their numbers in order. -/
theorem Numbered.filter {α : Type} {rows : List α} {number : α → Int} {last : Int}
    (h : Numbered (rows.map number) last) (p : α → Bool) :
    Numbered ((rows.filter p).map number) last :=
  h.sublist (List.filter_sublist.map _)

/-- Two rows with the same number are the same. -/
theorem Numbered.eq_of_number_eq {α : Type} {rows : List α} {number : α → Int} {last : Int}
    (h : Numbered (rows.map number) last) {a b : α} (ha : a ∈ rows) (hb : b ∈ rows)
    (hab : number a = number b) : a = b :=
  List.inj_on_of_nodup_map h.nodup ha hb hab

/-- What is looked up by its number is the row of that number. -/
theorem Numbered.find?_eq_some_iff {α : Type} {rows : List α} {number : α → Int} {last id : Int}
    (h : Numbered (rows.map number) last) {a : α} :
    rows.find? (fun r => decide (number r = id)) = some a ↔ a ∈ rows ∧ number a = id := by
  refine ⟨fun ha => ⟨List.mem_of_find?_eq_some ha, by simpa using List.find?_some ha⟩, ?_⟩
  rintro ⟨ha, rfl⟩
  have hsome : (rows.find? fun r => decide (number r = number a)).isSome = true :=
    List.find?_isSome.mpr ⟨a, ha, decide_eq_true rfl⟩
  obtain ⟨b, hfind⟩ := Option.isSome_iff_exists.mp hsome
  have hb : number b = number a := by simpa using List.find?_some hfind
  rw [hfind, h.eq_of_number_eq (List.mem_of_find?_eq_some hfind) ha hb]

namespace Store

/-! ### Validity -/

/-- The rows of a store fit together. -/
structure Valid (s : Store) : Prop where
  database_numbers : Numbered (s.databases.map (·.id)) s.lastDatabase
  database_names : (s.databases.map (·.name)).Nodup
  object_numbers : Numbered (s.objects.map (·.id)) s.lastObject
  object_names : (s.objects.map fun o => (o.databaseId, o.name)).Nodup
  object_database : ∀ o ∈ s.objects, o.databaseId ∈ s.databases.map (·.id)
  tables_eq : s.tables = (s.objects.filter (·.kind = .table)).map (·.id)
  views_eq : s.views.map (·.id) = (s.objects.filter (·.kind = .view)).map (·.id)
  column_numbers : Numbered (s.columns.map (·.id)) s.lastColumn
  column_names : (s.columns.map fun c => (c.tableId, c.name)).Nodup
  column_table : ∀ c ∈ s.columns, c.tableId ∈ s.tables
  dependencies_nodup : s.dependencies.Nodup
  dependency_view : ∀ e ∈ s.dependencies, e.viewId ∈ s.views.map (·.id)
  dependency_object : ∀ e ∈ s.dependencies, e.objectId ∈ s.objects.map (·.id)

/-- What it means for single rows that a store is valid. -/
structure Consistent (s : Store) : Prop where
  database_names : (s.databases.map (·.name)).Nodup
  object_names : (s.objects.map fun o => (o.databaseId, o.name)).Nodup
  object_database : ∀ o ∈ s.objects, ∃ d ∈ s.databases, d.id = o.databaseId
  /-- An object has one row among the tables if it is a table, and none otherwise. -/
  table_rows : ∀ o ∈ s.objects, s.tables.count o.id = if o.kind = .table then 1 else 0
  /-- An object has one row among the views if it is a view, and none otherwise. -/
  view_rows : ∀ o ∈ s.objects,
    (s.views.map (·.id)).count o.id = if o.kind = .view then 1 else 0
  table_object : ∀ id ∈ s.tables, ∃ o ∈ s.objects, o.id = id ∧ o.kind = .table
  view_object : ∀ v ∈ s.views, ∃ o ∈ s.objects, o.id = v.id ∧ o.kind = .view
  column_table : ∀ c ∈ s.columns, c.tableId ∈ s.tables
  column_names : (s.columns.map fun c => (c.tableId, c.name)).Nodup
  dependencies_nodup : s.dependencies.Nodup
  dependency_view : ∀ e ∈ s.dependencies, ∃ v ∈ s.views, v.id = e.viewId
  dependency_object : ∀ e ∈ s.dependencies, ∃ o ∈ s.objects, o.id = e.objectId
  database_numbers : (s.databases.map (·.id)).Nodup ∧
    ∀ d ∈ s.databases, 0 < d.id ∧ d.id ≤ s.lastDatabase
  object_numbers : (s.objects.map (·.id)).Nodup ∧
    ∀ o ∈ s.objects, 0 < o.id ∧ o.id ≤ s.lastObject
  column_numbers : (s.columns.map (·.id)).Nodup ∧
    ∀ c ∈ s.columns, 0 < c.id ∧ c.id ≤ s.lastColumn

variable {s s' : Store}

theorem valid_empty : Valid empty where
  database_numbers := .nil
  database_names := .nil
  object_numbers := .nil
  object_names := .nil
  object_database := by simp [empty]
  tables_eq := rfl
  views_eq := rfl
  column_numbers := .nil
  column_names := .nil
  column_table := by simp [empty]
  dependencies_nodup := .nil
  dependency_view := by simp [empty]
  dependency_object := by simp [empty]

namespace Valid

/-- The number of an object is among those of the objects of a kind exactly if it is of the
kind. -/
theorem mem_numbers_iff (h : s.Valid) {o : ObjectRow} (ho : o ∈ s.objects) (kind : ObjectKind) :
    o.id ∈ (s.objects.filter (·.kind = kind)).map (·.id) ↔ o.kind = kind := by
  simp only [List.mem_map, List.mem_filter, decide_eq_true_eq]
  constructor
  · rintro ⟨o', ⟨ho', hkind⟩, hid⟩
    rwa [h.object_numbers.eq_of_number_eq ho' ho hid] at hkind
  · exact fun hkind => ⟨o, ⟨ho, hkind⟩, rfl⟩

/-- The views have the numbers of their objects. -/
theorem view_numbers (h : s.Valid) : Numbered (s.views.map (·.id)) s.lastObject := by
  rw [h.views_eq]
  exact h.object_numbers.filter _

/-- A number among the tables is that of a table. -/
theorem exists_table (h : s.Valid) {id : Id} (hid : id ∈ s.tables) :
    ∃ o ∈ s.objects, o.id = id ∧ o.kind = .table := by
  rw [h.tables_eq] at hid
  obtain ⟨o, ho, rfl⟩ := List.mem_map.mp hid
  obtain ⟨ho, hkind⟩ := List.mem_filter.mp ho
  exact ⟨o, ho, rfl, of_decide_eq_true hkind⟩

/-- A number among the views is that of a view. -/
theorem exists_view (h : s.Valid) {id : Id} (hid : id ∈ s.views.map (·.id)) :
    ∃ o ∈ s.objects, o.id = id ∧ o.kind = .view := by
  rw [h.views_eq] at hid
  obtain ⟨o, ho, rfl⟩ := List.mem_map.mp hid
  obtain ⟨ho, hkind⟩ := List.mem_filter.mp ho
  exact ⟨o, ho, rfl, of_decide_eq_true hkind⟩

/-- A view has a row among the views. -/
theorem mem_views (h : s.Valid) {o : ObjectRow} (ho : o ∈ s.objects) (hkind : o.kind = .view) :
    o.id ∈ s.views.map (·.id) := by
  rw [h.views_eq]
  exact (h.mem_numbers_iff ho .view).mpr hkind

/-- A table has a row among the tables. -/
theorem mem_tables (h : s.Valid) {o : ObjectRow} (ho : o ∈ s.objects) (hkind : o.kind = .table) :
    o.id ∈ s.tables := by
  rw [h.tables_eq]
  exact (h.mem_numbers_iff ho .table).mpr hkind

/-- How often the number of an object is among those of the objects of a kind. -/
private theorem count_numbers (h : s.Valid) {o : ObjectRow} (ho : o ∈ s.objects)
    (kind : ObjectKind) :
    ((s.objects.filter (·.kind = kind)).map (·.id)).count o.id =
      if o.kind = kind then 1 else 0 := by
  have hnd : ((s.objects.filter (·.kind = kind)).map (·.id)).Nodup :=
    (h.object_numbers.filter _).nodup
  rw [List.Nodup.count hnd]
  simp only [h.mem_numbers_iff ho]

/-- A valid store is consistent row by row. -/
theorem consistent (h : s.Valid) : s.Consistent where
  database_names := h.database_names
  object_names := h.object_names
  object_database o ho := List.mem_map.mp (h.object_database o ho)
  table_rows o ho := by rw [h.tables_eq]; exact h.count_numbers ho .table
  view_rows o ho := by rw [h.views_eq]; exact h.count_numbers ho .view
  table_object _ hid := h.exists_table hid
  view_object _ hv := h.exists_view (List.mem_map_of_mem hv)
  column_table := h.column_table
  column_names := h.column_names
  dependencies_nodup := h.dependencies_nodup
  dependency_view e he := List.mem_map.mp (h.dependency_view e he)
  dependency_object e he := List.mem_map.mp (h.dependency_object e he)
  database_numbers :=
    ⟨h.database_numbers.nodup, fun _ hd => h.database_numbers.bounds _ (List.mem_map_of_mem hd)⟩
  object_numbers :=
    ⟨h.object_numbers.nodup, fun _ ho => h.object_numbers.bounds _ (List.mem_map_of_mem ho)⟩
  column_numbers :=
    ⟨h.column_numbers.nodup, fun _ hc => h.column_numbers.bounds _ (List.mem_map_of_mem hc)⟩

/-! ### Insertions -/

theorem insertDatabase (h : s.Valid) {name : String} {row : DatabaseRow}
    (hs : s.insertDatabase? name = some (row, s')) : s'.Valid := by
  obtain ⟨hnew, rfl, rfl⟩ := insertDatabase?_eq_some_iff.mp hs
  refine { h with database_numbers := ?_, database_names := ?_, object_database := ?_ }
  · rw [List.map_append]
    exact h.database_numbers.append
  · rw [List.map_append, List.map_singleton, ← List.concat_eq_append]
    exact List.Nodup.concat hnew h.database_names
  · intro o ho
    rw [List.map_append]
    exact List.mem_append_left _ (h.object_database o ho)

/-- What the lists of objects keep when an object is added. -/
private theorem object_append (h : s.Valid) (kind : ObjectKind) {databaseId : Id} {name : String}
    (hdb : databaseId ∈ s.databases.map (·.id))
    (hnew : (databaseId, name) ∉ s.objects.map (fun o => (o.databaseId, o.name))) :
    let objects := s.objects ++ [(⟨s.lastObject + 1, kind, name, databaseId⟩ : ObjectRow)]
    Numbered (objects.map (·.id)) (s.lastObject + 1) ∧
      (objects.map fun o => (o.databaseId, o.name)).Nodup ∧
      ∀ o ∈ objects, o.databaseId ∈ s.databases.map (·.id) := by
  refine ⟨?_, ?_, ?_⟩
  · rw [List.map_append]
    exact h.object_numbers.append
  · rw [List.map_append, List.map_singleton, ← List.concat_eq_append]
    exact List.Nodup.concat hnew h.object_names
  · intro o ho
    rcases List.mem_append.mp ho with ho | ho
    · exact h.object_database o ho
    · obtain rfl := List.mem_singleton.mp ho
      exact hdb

/-- The numbers of the objects of a kind after one of another kind is added. -/
private theorem numbers_append_of_ne {kind kind' : ObjectKind} (hne : kind' ≠ kind) (id : Id)
    (name : String) (databaseId : Id) :
    ((s.objects ++ [(⟨id, kind', name, databaseId⟩ : ObjectRow)]).filter (·.kind = kind)).map
      (·.id) = (s.objects.filter (·.kind = kind)).map (·.id) := by
  simp [List.filter_append, hne]

/-- The numbers of the objects of a kind after one of that kind is added. -/
private theorem numbers_append (kind : ObjectKind) (id : Id) (name : String) (databaseId : Id) :
    ((s.objects ++ [(⟨id, kind, name, databaseId⟩ : ObjectRow)]).filter (·.kind = kind)).map
      (·.id) = (s.objects.filter (·.kind = kind)).map (·.id) ++ [id] := by
  simp [List.filter_append]

/-- What refers to an object still does when objects are added. -/
private theorem dependency_object_append (h : s.Valid) (rows : List ObjectRow) :
    ∀ e ∈ s.dependencies, e.objectId ∈ (s.objects ++ rows).map (·.id) := fun e he => by
  rw [List.map_append]
  exact List.mem_append_left _ (h.dependency_object e he)

theorem insertTable (h : s.Valid) {databaseId : Id} {name : String} {row : ObjectRow}
    (hs : s.insertObject? .table databaseId name = some (row, s')) :
    (s'.insertTable row.id).Valid := by
  obtain ⟨hdb, hnew, rfl, rfl⟩ := insertObject?_eq_some_iff.mp hs
  obtain ⟨hnum, hnames, hobj⟩ := h.object_append .table hdb hnew
  exact { h with
    object_numbers := hnum, object_names := hnames, object_database := hobj
    tables_eq := (congrArg (· ++ [s.lastObject + 1]) h.tables_eq).trans
      (numbers_append _ _ _ _).symm
    views_eq := h.views_eq.trans (numbers_append_of_ne (by decide) _ _ _).symm
    column_table := fun c hc => List.mem_append_left _ (h.column_table c hc)
    dependency_object := h.dependency_object_append _ }

theorem insertView (h : s.Valid) {databaseId : Id} {name definition : String} {row : ObjectRow}
    {s₁ : Store} {objectIds : List Id}
    (hrow : s.insertObject? .view databaseId name = some (row, s₁))
    (hs : (s₁.insertView row.id definition).insertDependencies? row.id objectIds = some s') :
    s'.Valid := by
  obtain ⟨hdb, hnew, rfl, rfl⟩ := insertObject?_eq_some_iff.mp hrow
  obtain ⟨hnd, hids, hfresh, rfl⟩ := insertDependencies?_eq_some_iff.mp hs
  obtain ⟨hnum, hnames, hobj⟩ := h.object_append .view hdb hnew
  have hviews : (s.views ++ [(⟨s.lastObject + 1, definition⟩ : ViewRow)]).map (·.id) =
      s.views.map (·.id) ++ [s.lastObject + 1] := List.map_append
  refine { h with
    object_numbers := hnum, object_names := hnames, object_database := hobj
    tables_eq := h.tables_eq.trans (numbers_append_of_ne (by decide) _ _ _).symm
    views_eq := ?_, dependencies_nodup := ?_, dependency_view := ?_, dependency_object := ?_ }
  · exact hviews.trans ((congrArg (· ++ [s.lastObject + 1]) h.views_eq).trans
      (numbers_append _ _ _ _).symm)
  · refine h.dependencies_nodup.append (hnd.map fun a b hab => ?_) ?_
    · exact (Dependency.mk.inj hab).2
    · intro e he hmem
      obtain ⟨id, hid, rfl⟩ := List.mem_map.mp hmem
      exact hfresh id hid he
  · -- a new dependency leads from the new view, and to objects that were there or the view itself
    intro e he
    refine hviews ▸ ?_
    rcases List.mem_append.mp he with he | he
    · exact List.mem_append_left _ (h.dependency_view e he)
    · obtain ⟨id, -, rfl⟩ := List.mem_map.mp he
      exact List.mem_append_right _ (List.mem_singleton_self _)
  · intro e he
    rcases List.mem_append.mp he with he | he
    · exact h.dependency_object_append _ e he
    · obtain ⟨id, hid, rfl⟩ := List.mem_map.mp he
      exact hids id hid

theorem insertColumn (h : s.Valid) {tableId : Id} {spec : ColumnSpec} {row : ColumnRow}
    (hs : s.insertColumn? tableId spec = some (row, s')) : s'.Valid := by
  obtain ⟨name, dataType, -, -, htable, hnew, rfl, rfl⟩ := insertColumn?_eq_some_iff.mp hs
  refine { h with column_numbers := ?_, column_names := ?_, column_table := ?_ }
  · rw [List.map_append]
    exact h.column_numbers.append
  · rw [List.map_append, List.map_singleton, ← List.concat_eq_append]
    exact List.Nodup.concat hnew h.column_names
  · intro c hc
    rcases List.mem_append.mp hc with hc | hc
    · exact h.column_table c hc
    · obtain rfl := List.mem_singleton.mp hc
      exact htable

/-! ### Removals -/

theorem removeObject (h : s.Valid) {objectId : Id} (hs : s.removeObject? objectId = some s') :
    s'.Valid := by
  obtain ⟨hfree, rfl⟩ := removeObject?_eq_some_iff.mp hs
  -- tables and views lose the number exactly as the objects of their kind do
  have hkinds : ∀ kind : ObjectKind,
      ((s.objects.filter (·.id ≠ objectId)).filter (·.kind = kind)).map (·.id) =
        ((s.objects.filter (·.kind = kind)).map (·.id)).filter (· ≠ objectId) := by
    intro kind
    rw [List.filter_map, List.filter_filter, List.filter_filter]
    simp only [Function.comp_def, Bool.and_comm]
  refine
    { h with
      object_numbers := h.object_numbers.filter _
      object_names := h.object_names.sublist (List.filter_sublist.map _)
      object_database := fun o ho => h.object_database o (List.mem_filter.mp ho).1
      tables_eq := ?_, views_eq := ?_
      column_numbers := h.column_numbers.filter _
      column_names := h.column_names.sublist (List.filter_sublist.map _)
      column_table := ?_
      dependencies_nodup := h.dependencies_nodup.filter _
      dependency_view := ?_, dependency_object := ?_ }
  · show s.tables.filter (· ≠ objectId) = _
    rw [hkinds, h.tables_eq]
  · show (s.views.filter (·.id ≠ objectId)).map (·.id) = _
    rw [hkinds, ← h.views_eq, List.filter_map]
    rfl
  · intro c hc
    obtain ⟨hc, hne⟩ := List.mem_filter.mp hc
    exact List.mem_filter.mpr ⟨h.column_table c hc, hne⟩
  · intro e he
    obtain ⟨he, hne⟩ := List.mem_filter.mp he
    obtain ⟨v, hv, heq⟩ := List.mem_map.mp (h.dependency_view e he)
    exact List.mem_map.mpr ⟨v, List.mem_filter.mpr ⟨hv, by rwa [heq]⟩, heq⟩
  · intro e he
    obtain ⟨he, -⟩ := List.mem_filter.mp he
    obtain ⟨o, ho, heq⟩ := List.mem_map.mp (h.dependency_object e he)
    -- no view reads from the object, so what a view reads from is left
    refine List.mem_map.mpr ⟨o, List.mem_filter.mpr ⟨ho, ?_⟩, heq⟩
    simpa [heq] using hfree e he

theorem removeColumn (h : s.Valid) (columnId : Id) : (s.removeColumn columnId).Valid :=
  { h with
    column_numbers := h.column_numbers.filter _
    column_names := h.column_names.sublist (List.filter_sublist.map _)
    column_table := fun c hc => h.column_table c (List.mem_filter.mp hc).1 }

/-- The row of a database is removed when the database has no objects left. -/
theorem removeDatabase (h : s.Valid) {databaseId : Id}
    (hempty : ∀ o ∈ s.objects, o.databaseId ≠ databaseId) : (s.removeDatabase databaseId).Valid :=
  { h with
    database_numbers := h.database_numbers.filter _
    database_names := h.database_names.sublist (List.filter_sublist.map _)
    object_database := fun o ho => by
      obtain ⟨d, hd, heq⟩ := List.mem_map.mp (h.object_database o ho)
      exact List.mem_map.mpr
        ⟨d, List.mem_filter.mpr ⟨hd, by simpa [heq] using hempty o ho⟩, heq⟩ }

end Valid

end Store

end SchemaCatalog
