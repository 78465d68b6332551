import SchemaCatalog.Proofs.Store.History

/-!
# What a change keeps

`Store.Keeps s s' P` says that two stores hold the same of the objects with a property: the objects
themselves, each with its rows among the tables and views, its columns, and what it reads from. The
databases are the same, too. Nothing is said of the counters of objects and columns, which all
objects share.

Whatever is done to tables and views keeps all objects but those that it is done to
(`createTable_keeps` to `removeColumn_keeps`). For the columns of a table, and for the removal of an
object, what has to be known is that the number in question is not that of an object with the
property (`Store.NotAmong`).

If the property is to be in another database, then what has changed belongs to one database
(`Store.OnlyIn`).
-/

namespace SchemaCatalog.Store

variable {s s' s'' : Store} {databaseId : Id} {P : ObjectRow → Prop} [DecidablePred P]

/-! ### Changes and what they leave -/

/-- The rows that belong to an object: those among the tables and the views, its columns, and what
it reads from. -/
def rowsOf (s : Store) (id : Id) : List Id × List ViewRow × List ColumnRow × List Dependency :=
  (s.tables.filter (· = id), s.views.filter (·.id = id), s.columnsOf id,
    s.dependencies.filter (·.viewId = id))

/-- Two stores hold the same databases, and the same of all objects with a property. -/
structure Keeps (s s' : Store) (P : ObjectRow → Prop) [DecidablePred P] : Prop where
  databases : s'.databases = s.databases
  lastDatabase : s'.lastDatabase = s.lastDatabase
  objects : s'.objects.filter (fun o => P o) = s.objects.filter fun o => P o
  rows : ∀ o ∈ s.objects, P o → s'.rowsOf o.id = s.rowsOf o.id

theorem Keeps.refl : Keeps s s P := ⟨rfl, rfl, rfl, fun _ _ _ => rfl⟩

/-- An object with the property is in the one store exactly if it is in the other. -/
theorem Keeps.mem_objects_iff (h : Keeps s s' P) {o : ObjectRow} (hP : P o) :
    o ∈ s'.objects ↔ o ∈ s.objects := by
  have hfilter : ∀ t : Store, o ∈ t.objects ↔ o ∈ t.objects.filter fun o => P o := fun t =>
    ⟨fun ho => List.mem_filter.mpr ⟨ho, decide_eq_true hP⟩, fun ho => (List.mem_filter.mp ho).1⟩
  rw [hfilter s', hfilter s, h.objects]

theorem Keeps.trans (h : Keeps s s' P) (h' : Keeps s' s'' P) : Keeps s s'' P where
  databases := h'.databases.trans h.databases
  lastDatabase := h'.lastDatabase.trans h.lastDatabase
  objects := h'.objects.trans h.objects
  rows o ho hP := (h'.rows o ((h.mem_objects_iff hP).mpr ho) hP).trans (h.rows o ho hP)

/-- A number is not that of an object with a property. -/
def NotAmong (s : Store) (P : ObjectRow → Prop) (id : Id) : Prop :=
  ∀ o ∈ s.objects, P o → o.id ≠ id

/-- The number of an object is not that of another one. -/
theorem Valid.notAmong {P : ObjectRow → Prop} (h : s.Valid) {o : ObjectRow} (ho : o ∈ s.objects)
    (hP : ¬ P o) : s.NotAmong P o.id := by
  intro o' ho' hP' hid
  rw [h.object_numbers.eq_of_number_eq ho' ho hid] at hP'
  exact hP hP'

/-- Two stores differ in nothing but what belongs to a database. -/
structure OnlyIn (s s' : Store) (databaseId : Id) : Prop where
  databases : s'.databases = s.databases
  lastDatabase : s'.lastDatabase = s.lastDatabase
  objects : s'.objects.filter (·.databaseId ≠ databaseId) =
    s.objects.filter (·.databaseId ≠ databaseId)
  rows : ∀ o ∈ s.objects, o.databaseId ≠ databaseId → s'.rowsOf o.id = s.rowsOf o.id

/-- A change belongs to one database if it keeps the objects of all others. -/
theorem Keeps.onlyIn (h : Keeps s s' (·.databaseId ≠ databaseId)) : OnlyIn s s' databaseId :=
  ⟨h.databases, h.lastDatabase, h.objects, h.rows⟩

theorem OnlyIn.refl : OnlyIn s s databaseId := Keeps.refl.onlyIn

/-! ### Adding and removing rows -/

/-- The next number of an object is that of none. -/
theorem Valid.succ_lastObject_ne (h : s.Valid) {o : ObjectRow} (ho : o ∈ s.objects) :
    s.lastObject + 1 ≠ o.id := by
  intro hid
  have hle : o.id ≤ s.lastObject := h.object_le ho
  exact absurd (hid ▸ hle) (Int.not_le.mpr (Int.lt_succ _))

theorem insertTable_keeps (hs : s.Valid) {name : String} {row : ObjectRow}
    (hrow : s.insertObject? .table databaseId name = some (row, s')) (hP : ¬ P row) :
    Keeps s (s'.insertTable row.id) P := by
  obtain ⟨-, -, rfl, rfl⟩ := insertObject?_eq_some_iff.mp hrow
  refine ⟨rfl, rfl, by simp [insertTable, hP], fun o ho _ => ?_⟩
  have hne := hs.succ_lastObject_ne ho
  simp [rowsOf, insertTable, columnsOf, hne]

theorem insertView_keeps (hs : s.Valid) {name definition : String} {row : ObjectRow} {s₁ : Store}
    {objectIds : List Id} (hrow : s.insertObject? .view databaseId name = some (row, s₁))
    (hdeps : (s₁.insertView row.id definition).insertDependencies? row.id objectIds = some s')
    (hP : ¬ P row) : Keeps s s' P := by
  obtain ⟨-, -, rfl, rfl⟩ := insertObject?_eq_some_iff.mp hrow
  obtain ⟨-, -, -, rfl⟩ := insertDependencies?_eq_some_iff.mp hdeps
  refine ⟨rfl, rfl, by simp [insertView, hP], fun o ho _ => ?_⟩
  have hne := hs.succ_lastObject_ne ho
  have hdeps : (objectIds.map fun id => (⟨s.lastObject + 1, id⟩ : Dependency)).filter
      (·.viewId = o.id) = [] := by
    refine List.filter_eq_nil_iff.mpr fun e he => ?_
    obtain ⟨id, -, rfl⟩ := List.mem_map.mp he
    simpa using hne
  simp [rowsOf, insertView, columnsOf, hne, hdeps]

theorem insertColumn_keeps {tableId : Id} {spec : ColumnSpec} {row : ColumnRow}
    (htable : s.NotAmong P tableId) (hrow : s.insertColumn? tableId spec = some (row, s')) :
    Keeps s s' P := by
  obtain ⟨name, dataType, -, -, -, -, rfl, rfl⟩ := insertColumn?_eq_some_iff.mp hrow
  refine ⟨rfl, rfl, rfl, fun o ho hP => ?_⟩
  simp [rowsOf, columnsOf, (htable o ho hP).symm]

theorem removeObject_keeps {objectId : Id} (hobject : s.NotAmong P objectId)
    (hremove : s.removeObject? objectId = some s') : Keeps s s' P := by
  obtain ⟨-, rfl⟩ := removeObject?_eq_some_iff.mp hremove
  refine ⟨rfl, rfl, ?_, fun o ho hP => ?_⟩
  · exact filter_filter_eq hobject
  · -- no row of an object that is kept bears the number
    have hne := hobject o ho hP
    simp only [rowsOf, columnsOf, Prod.mk.injEq]
    refine ⟨?_, ?_, ?_, ?_⟩ <;>
    · refine filter_filter_eq fun r _ hid => ?_
      rwa [hid]

theorem removeColumn_keeps {columnId : Id}
    (hcolumn : ∀ c ∈ s.columns, c.id = columnId → s.NotAmong P c.tableId) :
    Keeps s (s.removeColumn columnId) P := by
  refine ⟨rfl, rfl, rfl, fun o ho hP => ?_⟩
  have hcolumns : (s.removeColumn columnId).columnsOf o.id = s.columnsOf o.id := by
    rw [columnsOf, columnsOf, removeColumn]
    exact filter_filter_eq fun c hc htable hid => hcolumn c hc hid o ho hP htable.symm
  rw [rowsOf, hcolumns]
  rfl

/-! ### Changes -/

theorem insertColumns_keeps {tableId : Id} {refusal : Failure} {columns : List ColumnSpec}
    (htable : s.NotAmong P tableId)
    (h : s.insertColumns tableId refusal columns = .ok s') : Keeps s s' P := by
  induction columns generalizing s with
  | nil =>
    obtain rfl := Except.ok.inj h
    exact .refl
  | cons spec rest ih =>
    rw [insertColumns_cons] at h
    obtain ⟨-, -, h⟩ := bind_eq_ok_iff.mp h
    split at h
    · rename_i row s₁ hrow
      have hkeeps : Keeps s s₁ P := insertColumn_keeps htable hrow
      obtain ⟨name, dataType, -, -, -, -, rfl, rfl⟩ := insertColumn?_eq_some_iff.mp hrow
      exact hkeeps.trans (ih htable h)
    · simp at h

/-- The rows of columns are added to those of no object. -/
theorem objects_of_insertColumns {tableId : Id} {refusal : Failure} {columns : List ColumnSpec}
    (h : s.insertColumns tableId refusal columns = .ok s') : s'.objects = s.objects := by
  induction columns generalizing s with
  | nil =>
    obtain rfl := Except.ok.inj h
    rfl
  | cons spec rest ih =>
    rw [insertColumns_cons] at h
    obtain ⟨-, -, h⟩ := bind_eq_ok_iff.mp h
    split at h
    · rename_i row s₁ hrow
      have hsame : s₁.objects = s.objects := by
        obtain ⟨-, -, -, -, -, -, -, rfl⟩ := insertColumn?_eq_some_iff.mp hrow
        rfl
      exact (ih h).trans hsame
    · simp at h

/-- A table that is created is the next object of its database. -/
theorem createTable_row {name : Label} {columns : List ColumnSpec} {row : ObjectRow}
    (h : s.createTable databaseId name columns = .ok (row, s')) :
    ∃ text, name.stored? = some text ∧ row = ⟨s.lastObject + 1, .table, text, databaseId⟩ ∧
      s'.objects = s.objects ++ [row] := by
  obtain ⟨text, s₁, refusal, hname, hrow, hcolumns⟩ := createTable_eq_ok h
  obtain ⟨-, -, hnext, rfl⟩ := insertObject?_eq_some_iff.mp hrow
  exact ⟨text, hname, hnext, objects_of_insertColumns hcolumns⟩

theorem createTable_keeps (hs : s.Valid) {name : Label} {columns : List ColumnSpec}
    {row : ObjectRow} (h : s.createTable databaseId name columns = .ok (row, s'))
    (hP : ¬ P row) : Keeps s s' P := by
  obtain ⟨text, s₁, refusal, -, hrow, hcolumns⟩ := createTable_eq_ok h
  have hvalid := hs.insertTable hrow
  refine (insertTable_keeps hs hrow hP).trans (insertColumns_keeps ?_ hcolumns)
  obtain ⟨-, -, rfl, rfl⟩ := insertObject?_eq_some_iff.mp hrow
  exact hvalid.notAmong (List.mem_append_right _ List.mem_cons_self) hP

/-- A view that is created is the next object of its database. -/
theorem createView_row {name definition : Label} {objectIds : List Id} {row : ObjectRow}
    (h : s.createView databaseId name definition objectIds = .ok (row, s')) :
    ∃ text, name.stored? = some text ∧ row = ⟨s.lastObject + 1, .view, text, databaseId⟩ ∧
      s'.objects = s.objects ++ [row] := by
  obtain ⟨text, query, s₁, hname, -, hrow, hdeps⟩ := createView_eq_ok h
  obtain ⟨-, -, hnext, rfl⟩ := insertObject?_eq_some_iff.mp hrow
  obtain ⟨-, -, -, rfl⟩ := insertDependencies?_eq_some_iff.mp hdeps
  exact ⟨text, hname, hnext, rfl⟩

theorem createView_keeps (hs : s.Valid) {name definition : Label} {objectIds : List Id}
    {row : ObjectRow} (h : s.createView databaseId name definition objectIds = .ok (row, s'))
    (hP : ¬ P row) : Keeps s s' P := by
  obtain ⟨text, query, s₁, -, -, hrow, hdeps⟩ := createView_eq_ok h
  exact insertView_keeps hs hrow hdeps hP

theorem dropObjects_keeps {database : String} {rows : List ObjectRow}
    (hrows : ∀ o ∈ rows, s.NotAmong P o.id)
    (h : s.dropObjects database rows = .ok s') : Keeps s s' P := by
  induction rows generalizing s with
  | nil =>
    obtain rfl := Except.ok.inj h
    exact .refl
  | cons o rest ih =>
    obtain ⟨ho, hrest⟩ := List.forall_mem_cons.mp hrows
    rw [dropObjects_cons] at h
    split at h
    · rename_i s₁ hremove
      have hkeeps : Keeps s s₁ P := removeObject_keeps ho hremove
      obtain ⟨-, rfl⟩ := removeObject?_eq_some_iff.mp hremove
      exact hkeeps.trans (ih (fun o' ho' r hr => hrest o' ho' r (List.mem_filter.mp hr).1) h)
    · simp at h

end SchemaCatalog.Store
