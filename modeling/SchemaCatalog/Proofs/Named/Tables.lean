import SchemaCatalog.Proofs.Named.Changes

/-!
# Tables agree with their named forms

The creation of tables and the operations of `ALTER TABLE`, compared with what they are on names.
Both change nothing but the columns of one table, once the table is there (`Store.OnlyColumns`).

`ALTER TABLE` drops columns by the numbers that they had when the statement began. On names these
are the columns that are kept from before, as opposed to those that have been added since; that a
later column never has the number of an earlier one is what makes the two agree
(`Store.Altering`).
-/

namespace SchemaCatalog.Store

open Named (Agree)

variable {s s' s'' : Store} {d : DatabaseRow} {o : ObjectRow} {name : String} {tableId : Id}

/-! ### The columns of a table -/

/-- Two stores differ in nothing but the columns of a table. -/
structure OnlyColumns (s s' : Store) (tableId : Id) : Prop where
  databases : s'.databases = s.databases
  objects : s'.objects = s.objects
  tables : s'.tables = s.tables
  others : ∀ id, id ≠ tableId → s'.columnsOf id = s.columnsOf id

theorem OnlyColumns.refl : OnlyColumns s s tableId := ⟨rfl, rfl, rfl, fun _ _ => rfl⟩

theorem OnlyColumns.trans (h : OnlyColumns s s' tableId) (h' : OnlyColumns s' s'' tableId) :
    OnlyColumns s s'' tableId where
  databases := h'.databases.trans h.databases
  objects := h'.objects.trans h.objects
  tables := h'.tables.trans h.tables
  others id hid := (h'.others id hid).trans (h.others id hid)

/-- The next column of a store. -/
def nextColumn (s : Store) (tableId : Id) (c : ColumnDef) : ColumnRow :=
  ⟨s.lastColumn + 1, tableId, c.name.text, c.dataType.text, c.isPrimaryKey⟩

/-- A store with another column. -/
def withColumn (s : Store) (tableId : Id) (c : ColumnDef) : Store :=
  { s with columns := s.columns ++ [s.nextColumn tableId c], lastColumn := s.lastColumn + 1 }

@[simp] theorem columnsOf_withColumn (c : ColumnDef) :
    (s.withColumn tableId c).columnsOf tableId =
      s.columnsOf tableId ++ [s.nextColumn tableId c] := by
  simp [columnsOf, withColumn, nextColumn]

theorem onlyColumns_withColumn (c : ColumnDef) :
    OnlyColumns s (s.withColumn tableId c) tableId where
  databases := rfl
  objects := rfl
  tables := rfl
  others id hid := by simp [columnsOf, withColumn, nextColumn, hid.symm]

theorem requireStorableColumn_spec (c : ColumnDef) : requireStorableColumn c.spec = .ok () := rfl

theorem requireNewColumn_spec (c : ColumnDef) : requireNewColumn c.spec = .ok () := rfl

/-- A column is refused when the table has one of its name. -/
theorem insertColumn?_of_mem {c : ColumnDef}
    (h : c.name.text ∈ (s.columnsOf tableId).map (·.name)) :
    s.insertColumn? tableId c.spec = none := by
  refine Option.eq_none_iff_forall_ne_some.mpr fun r hr => ?_
  obtain ⟨name, dataType, hname, -, -, hfree, -⟩ := insertColumn?_eq_some_iff.mp hr
  obtain rfl := Option.some.inj hname
  obtain ⟨c', hc', heq⟩ := List.mem_map.mp h
  obtain ⟨hc', htable⟩ := List.mem_filter.mp hc'
  exact hfree (List.mem_map.mpr ⟨c', hc', Prod.ext (of_decide_eq_true htable) heq⟩)

/-- A column is accepted when the table has none of its name. -/
theorem insertColumn?_of_notMem (htable : tableId ∈ s.tables) {c : ColumnDef}
    (h : c.name.text ∉ (s.columnsOf tableId).map (·.name)) :
    s.insertColumn? tableId c.spec =
      some (s.nextColumn tableId c, s.withColumn tableId c) := by
  refine insertColumn?_eq_some_iff.mpr
    ⟨c.name.text, c.dataType.text, rfl, rfl, htable, fun hmem => h ?_, rfl, rfl⟩
  obtain ⟨c', hc', heq⟩ := List.mem_map.mp hmem
  obtain ⟨hid, hname⟩ := Prod.mk.inj heq
  exact List.mem_map.mpr ⟨c', List.mem_filter.mpr ⟨hc', decide_eq_true hid⟩, hname⟩

/-- The next columns of a store, in their order. -/
def nextColumns (s : Store) (tableId : Id) (columns : List ColumnDef) : List ColumnRow :=
  columns.mapIdx fun i c =>
    ⟨s.lastColumn + 1 + i, tableId, c.name.text, c.dataType.text, c.isPrimaryKey⟩

/-- A store with other columns. -/
def withColumns (s : Store) (tableId : Id) (columns : List ColumnDef) : Store :=
  { s with
    columns := s.columns ++ s.nextColumns tableId columns
    lastColumn := s.lastColumn + columns.length }

theorem withColumns_nil : s.withColumns tableId [] = s := by
  simp [withColumns, nextColumns]

theorem nextColumns_cons (c : ColumnDef) (rest : List ColumnDef) :
    s.nextColumns tableId (c :: rest) =
      s.nextColumn tableId c :: (s.withColumn tableId c).nextColumns tableId rest := by
  have hnumber : ∀ i : Nat,
      s.lastColumn + 1 + ((i + 1 : Nat) : Int) = s.lastColumn + 1 + 1 + i := by
    intro i
    push_cast
    rw [Int.add_assoc _ 1 (i : Int), Int.add_comm 1 (i : Int)]
  rw [nextColumns, List.mapIdx_cons, nextColumns]
  simp only [hnumber]
  simp [nextColumn, withColumn]

theorem withColumns_cons (c : ColumnDef) (rest : List ColumnDef) :
    s.withColumns tableId (c :: rest) = (s.withColumn tableId c).withColumns tableId rest := by
  have hlast : s.lastColumn + ((rest.length + 1 : Nat) : Int) = s.lastColumn + 1 + rest.length := by
    push_cast
    rw [Int.add_assoc, Int.add_comm 1 (rest.length : Int)]
  rw [withColumns, withColumns, nextColumns_cons, List.length_cons, hlast]
  simp [withColumn]

/-- Leaving out their numbers, the new columns are as they are defined. -/
theorem map_named_nextColumns (columns : List ColumnDef) :
    (s.nextColumns tableId columns).map (·.named) = columns.map .ofDef := by
  induction columns generalizing s with
  | nil => rfl
  | cons c rest ih =>
    rw [nextColumns_cons, List.map_cons, ih]
    rfl

theorem tableId_of_mem_nextColumns {columns : List ColumnDef} {c : ColumnRow}
    (hc : c ∈ s.nextColumns tableId columns) : c.tableId = tableId := by
  obtain ⟨i, hi, rfl⟩ := List.mem_mapIdx.mp hc
  rfl

theorem columnsOf_withColumns (columns : List ColumnDef) :
    (s.withColumns tableId columns).columnsOf tableId =
      s.columnsOf tableId ++ s.nextColumns tableId columns := by
  have hnew : (s.nextColumns tableId columns).filter (·.tableId = tableId) =
      s.nextColumns tableId columns :=
    List.filter_eq_self.mpr fun c hc => decide_eq_true (tableId_of_mem_nextColumns hc)
  rw [columnsOf, withColumns, List.filter_append, hnew]
  rfl

theorem onlyColumns_withColumns (columns : List ColumnDef) :
    OnlyColumns s (s.withColumns tableId columns) tableId where
  databases := rfl
  objects := rfl
  tables := rfl
  others id hid := by
    have hnone : (s.nextColumns tableId columns).filter (·.tableId = id) = [] := by
      refine List.filter_eq_nil_iff.mpr fun c hc hother => hid ?_
      exact (of_decide_eq_true hother).symm.trans (tableId_of_mem_nextColumns hc)
    rw [columnsOf, withColumns, List.filter_append, hnone, List.append_nil]
    rfl

/-- Columns of different names that a table does not have are all accepted. -/
theorem insertColumns_of_nodup (htable : tableId ∈ s.tables) (refusal : Failure)
    {columns : List ColumnDef} (hnodup : (columns.map (·.name.text)).Nodup)
    (hnew : ∀ c ∈ columns, c.name.text ∉ (s.columnsOf tableId).map (·.name)) :
    s.insertColumns tableId refusal (columns.map (·.spec)) =
      .ok (s.withColumns tableId columns) := by
  induction columns generalizing s with
  | nil =>
    rw [withColumns_nil]
    rfl
  | cons c rest ih =>
    obtain ⟨hc, hrest⟩ := List.forall_mem_cons.mp hnew
    obtain ⟨hfirst, hnodup⟩ := List.nodup_cons.mp hnodup
    have hinsert := insertColumn?_of_notMem htable hc
    have hrest' : ∀ c' ∈ rest,
        c'.name.text ∉ ((s.withColumn tableId c).columnsOf tableId).map (·.name) := by
      intro c' hc' hmem
      rw [columnsOf_withColumn, List.map_append, List.mem_append] at hmem
      rcases hmem with hmem | hmem
      · exact hrest c' hc' hmem
      · exact hfirst (List.mem_map.mpr ⟨c', hc', List.mem_singleton.mp hmem⟩)
    rw [List.map_cons, insertColumns_cons, requireStorableColumn_spec, ok_bind, hinsert,
      withColumns_cons]
    exact ih (s := s.withColumn tableId c) htable hnodup hrest'

/-! ### Creating tables -/

/-- The first repeated one among names that are texts. -/
theorem repeated?_text (names : List String) :
    repeated? (names.map .text) = (Named.repeated? names).map .text := by
  have hcount : ∀ name : String,
      (names.map Label.text).countP (Label.agrees (.text name)) = names.count name := by
    intro name
    rw [List.countP_map]
    refine List.countP_congr fun b _ => ?_
    have hagrees : (Label.text name).agrees (.text b) = decide (Label.text name = .text b) := rfl
    rw [Function.comp_apply, hagrees, decide_eq_true_eq, Label.text.injEq, beq_iff_eq]
    exact eq_comm
  rw [repeated?, Named.repeated?, List.find?_map]
  refine congrArg _ (List.find?_congr fun name _ => ?_)
  rw [Function.comp_apply, hcount]

/-- No name is repeated if all are different, and only then. -/
theorem repeated?_eq_none_iff {names : List String} :
    Named.repeated? names = none ↔ names.Nodup := by
  rw [Named.repeated?, List.find?_eq_none, List.nodup_iff_count_le_one]
  simp only [decide_eq_true_eq, not_lt]
  constructor
  · intro h name
    by_cases hmem : name ∈ names
    · exact h name hmem
    · rw [List.count_eq_zero_of_not_mem hmem]
      exact Nat.zero_le 1
  · exact fun h name _ => h name

/-- A table with columns that are defined can be asked for unless its name is taken or one of theirs
is repeated. -/
theorem requireNewTable_eq_bind (databaseId : Id) (name : String) (columns : List ColumnDef) :
    s.requireNewTable databaseId (.text name) (columns.map (·.spec)) =
      s.requireFree databaseId (.text name) >>= fun _ =>
        match Named.repeated? (columns.map (·.name.text)) with
        | some column => .error (.of (.alreadyExists .column column))
        | none => .ok () := by
  have hnames : (columns.map (·.spec)).map (·.name) = (columns.map (·.name.text)).map .text := by
    rw [List.map_map, List.map_map]
    rfl
  rw [requireNewTable]
  refine congrArg _ (funext fun _ => ?_)
  rw [forM_eq_ok (by simp [ColumnDef.spec, NonemptyString.label]), ok_bind, hnames, repeated?_text]
  cases Named.repeated? (columns.map (·.name.text)) with
  | some column => rfl
  | none => exact forM_eq_ok (by simp [ColumnDef.spec, NonemptyString.label])

theorem requireNewTable_eq_ok_iff {databaseId : Id} {columns : List ColumnDef} :
    s.requireNewTable databaseId (.text name) (columns.map (·.spec)) = .ok () ↔
      s.object? databaseId name = none ∧ (columns.map (·.name.text)).Nodup := by
  rw [requireNewTable_eq_bind, requireFree, requireStorable_text, ok_bind, Label.stored?,
    Option.bind_some, ← repeated?_eq_none_iff]
  cases s.object? databaseId name with
  | some o => simp
  | none => cases Named.repeated? (columns.map (·.name.text)) <;> simp

theorem requireNewTable_agree (hs : s.Valid) (hd : d ∈ s.databases) (name : String)
    (columns : List ColumnDef) :
    Agree (fun _ _ => s.object? d.id name = none ∧ (columns.map (·.name.text)).Nodup)
      (s.requireNewTable d.id (.text name) (columns.map (·.spec)))
      (s.named.requireNewTable ⟨d.name, name⟩ (columns.map (·.name.text))) := by
  rw [requireNewTable_eq_bind]
  refine (requireFree_agree hs hd name).bind fun _ _ _ hfree => ?_
  cases hrepeated : Named.repeated? (columns.map (·.name.text)) with
  | some column => exact .error _
  | none => exact .ok ⟨hfree, repeated?_eq_none_iff.mp hrepeated⟩

/-- A number that has not been given out is that of no table. -/
theorem columnsOf_of_lt (hs : s.Valid) (h : s.lastObject < tableId) : s.columnsOf tableId = [] := by
  refine List.filter_eq_nil_iff.mpr fun c hc htable => ?_
  obtain ⟨o, ho, hid, -⟩ := hs.exists_table (hs.column_table c hc)
  have hle : c.tableId ≤ s.lastObject := hid ▸ hs.object_le ho
  exact absurd ((of_decide_eq_true htable : c.tableId = tableId) ▸ h) (Int.not_lt.mpr hle)

/-- The named form of a table. -/
theorem namedObject_table (hs : s.Valid) (hd : d ∈ s.databases) (hdb : o.databaseId = d.id)
    (hkind : o.kind = .table) :
    s.namedObject o = ⟨⟨d.name, o.name⟩, .table ((s.columnsOf o.id).map (·.named))⟩ := by
  rw [namedObject, hs.place_eq hd hdb]
  simp only [hkind]

/-- A store with another table. -/
def withTable (s : Store) (o : ObjectRow) (columns : List ColumnDef) : Store :=
  { s.withObject o with
    tables := s.tables ++ [o.id]
    columns := s.columns ++ s.nextColumns o.id columns
    lastColumn := s.lastColumn + columns.length }

/-- A table is created at a free place. -/
theorem createTable_of_free (hs : s.Valid) (hd : d ∈ s.databases)
    (hfree : s.object? d.id name = none) {columns : List ColumnDef}
    (hnodup : (columns.map (·.name.text)).Nodup) :
    s.createTable d.id (.text name) (columns.map (·.spec)) =
        .ok (s.nextObject .table d.id name,
          s.withTable (s.nextObject .table d.id name) columns) ∧
      Edits .noView s (s.withTable (s.nextObject .table d.id name) columns) := by
  have hrequire : s.requireNewTable d.id (.text name) (columns.map (·.spec)) = .ok () :=
    requireNewTable_eq_ok_iff.mpr ⟨hfree, hnodup⟩
  have hrow := insertObject?_of_free hd hfree .table
  have hnone : ((s.withObject (s.nextObject .table d.id name)).insertTable
      (s.nextObject .table d.id name).id).columnsOf (s.nextObject .table d.id name).id = [] :=
    columnsOf_of_lt (s := s) hs (Int.lt_succ _)
  have hcolumns := insertColumns_of_nodup
    (List.mem_append_right _ List.mem_cons_self)
    ⟨some (.tableRefused (.text name)), .alreadyExists (.object .table) (.text name)⟩ hnodup
    (fun c _ => by rw [hnone]; simp)
  refine ⟨?_, .head (.insertTable hrow) (insertColumns_edits hcolumns)⟩
  rw [createTable_eq_bind, hrequire, ok_bind, Label.stored?, Option.bind_some, hrow]
  simp only [hcolumns, ok_bind]
  rfl

/-- A new table has the columns that it is defined with. -/
theorem columnsOf_withTable (hs : s.Valid) (hlt : s.lastObject < o.id)
    (columns : List ColumnDef) :
    (s.withTable o columns).columnsOf o.id = s.nextColumns o.id columns := by
  have hcolumns : (s.withColumns o.id columns).columnsOf o.id = s.nextColumns o.id columns := by
    rw [columnsOf_withColumns, columnsOf_of_lt hs hlt, List.nil_append]
  exact hcolumns

/-- All other tables have the columns that they had. -/
theorem columnsOf_withTable_of_ne {id : Id} (hne : id ≠ o.id) (columns : List ColumnDef) :
    (s.withTable o columns).columnsOf id = s.columnsOf id :=
  (onlyColumns_withColumns (s := s) columns).others id hne

theorem createTable_agree (hs : s.Valid) (hd : d ∈ s.databases) (name : String)
    (columns : List ColumnDef) :
    Agree (fun r t => t = r.2.named ∧ r.2.databases = s.databases)
      (s.createTable d.id (.text name) (columns.map (·.spec)))
      (s.named.createTable ⟨d.name, name⟩ columns) := by
  rw [createTable_eq_bind]
  refine (requireNewTable_agree hs hd name columns).bind fun _ _ _ hnew => ?_
  obtain ⟨hfree, hnodup⟩ := hnew
  obtain ⟨hcreate, hedits⟩ := createTable_of_free hs hd hfree hnodup
  rw [createTable_eq_bind, bind_eq_ok_iff] at hcreate
  obtain ⟨-, -, hcreate⟩ := hcreate
  have hs' := hedits.valid hs
  have hothers : ∀ o ∈ s.objects,
      (s.withTable (s.nextObject .table d.id name) columns).columnsOf o.id = s.columnsOf o.id := by
    intro o ho
    refine columnsOf_withTable_of_ne (fun hid => ?_) columns
    exact absurd (hs.object_le ho) (Int.not_le.mpr (hid ▸ Int.lt_succ _))
  rw [hcreate]
  refine .ok ⟨Named.Store.ext rfl ?_, rfl⟩
  rw [(hedits.evolves hs).named_objects_append hs hs' rfl hothers, namedObject_table hs' hd rfl rfl,
    columnsOf_withTable hs (Int.lt_succ _), map_named_nextColumns]
  rfl

/-! ### Altering tables -/

theorem lookUpTable_agree (hs : s.Valid) (hd : d ∈ s.databases) (name : String) :
    Agree (fun o t => o ∈ s.objects ∧ o.kind = .table ∧ t = s.namedObject o)
      (Session.lookUpTable d.id (.text name) s) (s.named.lookUpTable ⟨d.name, name⟩) := by
  simp only [Session.lookUpTable, requireStorable_text, ok_bind, Label.stored?, Option.bind_some,
    table?, Named.Store.lookUpTable, hs.named_objectOfKind? hd]
  cases hfind : s.objectOfKind? d.id .table name with
  | none => exact .error _
  | some o =>
    have hfound : o.databaseId = d.id ∧ o.kind = .table ∧ o.name = name := by
      simpa using List.find?_some hfind
    exact .ok ⟨List.mem_of_find?_eq_some hfind, hfound.2.1, rfl⟩

/-- Forgetting the numbers of columns leaves their names. -/
theorem map_named_name (columns : List ColumnRow) :
    (columns.map (·.named)).map (·.name) = columns.map (·.name) := by
  rw [List.map_map]
  rfl

/-- A table is altered that had the columns of `s₀` when the statement began: some of them are kept,
and others have been added. -/
structure Altering (s₀ s : Store) (tableId : Id) (kept added : List ColumnRow) : Prop where
  valid : s.Valid
  later : s₀.Evolves s
  only : OnlyColumns s₀ s tableId
  columns : s.columnsOf tableId = kept ++ added
  kept_subset : kept ⊆ s₀.columnsOf tableId
  added_new : ∀ c ∈ added, s₀.lastColumn < c.id

namespace Altering

variable {s₀ : Store} {kept added : List ColumnRow}

theorem start (hs : s.Valid) : Altering s s tableId (s.columnsOf tableId) [] :=
  ⟨hs, .refl, .refl, (List.append_nil _).symm, List.Subset.refl _, by simp⟩

theorem addColumn (h : Altering s₀ s tableId kept added) (hs₀ : s₀.Valid)
    (htable : tableId ∈ s₀.tables) {c : ColumnDef}
    (hnew : c.name.text ∉ (s.columnsOf tableId).map (·.name)) :
    Altering s₀ (s.withColumn tableId c) tableId kept (added ++ [s.nextColumn tableId c]) := by
  have hinsert := insertColumn?_of_notMem (h.only.tables ▸ htable) hnew
  have hedit : Edit .noView s (s.withColumn tableId c) := .insertColumn hinsert
  refine ⟨hedit.valid h.valid, h.later.trans hs₀ hedit.evolves,
    h.only.trans (onlyColumns_withColumn c), ?_, h.kept_subset, fun c' hc' => ?_⟩
  · rw [columnsOf_withColumn, h.columns, List.append_assoc]
  · rcases List.mem_append.mp hc' with hc' | hc'
    · exact h.added_new c' hc'
    · obtain rfl := List.mem_singleton.mp hc'
      exact Int.lt_of_le_of_lt h.later.lastColumn_le (Int.lt_succ _)

/-- A column that the table had when the statement began is dropped, if it is still kept; no other
column has its number. -/
theorem removeColumn (h : Altering s₀ s tableId kept added) (hs₀ : s₀.Valid) {c : ColumnRow}
    (hc : c ∈ s₀.columnsOf tableId) :
    Altering s₀ (s.removeColumn c.id) tableId (kept.filter (·.id ≠ c.id)) added := by
  obtain ⟨hc, htable⟩ := List.mem_filter.mp hc
  have hle : c.id ≤ s₀.lastColumn := (hs₀.column_numbers.bounds _ (List.mem_map_of_mem hc)).2
  have hedit : Edit .noView s (s.removeColumn c.id) := .removeColumn c.id
  refine ⟨hedit.valid h.valid, h.later.trans hs₀ hedit.evolves,
    h.only.trans ⟨rfl, rfl, rfl, fun id hid => ?_⟩, ?_,
    List.Subset.trans List.filter_sublist.subset h.kept_subset, h.added_new⟩
  · -- a column of another table with that number would have been there when the statement began
    rw [columnsOf, columnsOf, Store.removeColumn]
    refine filter_filter_eq fun r hr htable' hsame => ?_
    subst htable'
    have hr₀ := h.later.columns.mem_of_le hr (hsame ▸ hle)
    rw [hs₀.column_numbers.eq_of_number_eq hr₀ hc hsame] at hid
    exact hid (of_decide_eq_true htable)
  · have hadded : added.filter (·.id ≠ c.id) = added := by
      refine List.filter_eq_self.mpr fun r hr => decide_eq_true fun hsame => ?_
      exact absurd (hsame ▸ h.added_new r hr) (Int.not_lt.mpr hle)
    calc (s.removeColumn c.id).columnsOf tableId
        = (s.columnsOf tableId).filter (·.id ≠ c.id) := by
          rw [columnsOf, columnsOf, Store.removeColumn, List.filter_filter, List.filter_filter]
          simp only [Bool.and_comm]
      _ = kept.filter (·.id ≠ c.id) ++ added := by
          rw [h.columns, List.filter_append, hadded]

end Altering

/-- What is kept of the columns of a table, by their numbers and by their names. -/
theorem filter_id_eq_filter_name (hs : s.Valid) {kept : List ColumnRow}
    (hkept : kept ⊆ s.columnsOf tableId) {c : ColumnRow} (hc : c ∈ s.columnsOf tableId) :
    kept.filter (·.id ≠ c.id) = kept.filter (·.name ≠ c.name) := by
  obtain ⟨hc, htable⟩ := List.mem_filter.mp hc
  refine List.filter_congr fun r hr => ?_
  obtain ⟨hr, htable'⟩ := List.mem_filter.mp (hkept hr)
  have hsame : r.tableId = c.tableId :=
    (of_decide_eq_true htable').trans (of_decide_eq_true htable).symm
  rw [decide_eq_decide]
  refine not_congr ⟨fun hid => ?_, fun hname => ?_⟩
  · rw [hs.column_numbers.eq_of_number_eq hr hc hid]
  · rw [List.inj_on_of_nodup_map hs.column_names hr hc (Prod.ext hsame hname)]

theorem alter_agree {s₀ : Store} (hs₀ : s₀.Valid) (htable : tableId ∈ s₀.tables)
    (operations : List Alteration) {kept added : List ColumnRow}
    (h : Altering s₀ s tableId kept added) :
    Agree (fun s' columns => columns = (s'.columnsOf tableId).map (·.named) ∧
      OnlyColumns s₀ s' tableId)
      (Session.alter tableId (s₀.columnsOf tableId) s (operations.map (·.request)))
      (Named.alter ((s₀.columnsOf tableId).map (·.named)) (kept.map (·.named))
        (added.map (·.named)) operations) := by
  induction operations generalizing s kept added with
  | nil =>
    refine .ok ⟨?_, h.only⟩
    rw [h.columns, List.map_append]
  | cons operation rest ih =>
    cases operation with
    | addColumn c =>
      have hnames : (kept.map (·.named) ++ added.map (·.named)).map (·.name) =
          (s.columnsOf tableId).map (·.name) := by
        rw [h.columns, ← List.map_append, map_named_name]
      rw [List.map_cons, Alteration.request, Session.alter_addColumn, addColumn_eq_bind,
        requireNewColumn_spec, ok_bind, Named.alter, hnames]
      -- both sides look for the name among the columns that the table has by now
      by_cases hmem : c.name.text ∈ (s.columnsOf tableId).map (·.name)
      · rw [if_pos hmem, insertColumn?_of_mem hmem]
        exact .error _
      · rw [if_neg hmem, insertColumn?_of_notMem (h.only.tables ▸ htable) hmem]
        have hrest := ih (h.addColumn hs₀ htable hmem)
        rwa [List.map_append] at hrest
    | dropColumn name =>
      rw [List.map_cons, Alteration.request, Session.alter_dropColumn, Session.lookUpColumn,
        NonemptyString.label, requireComparable_text, ok_bind, Named.alter, map_named_name]
      -- and here among those that it had at the beginning
      cases hfind : (s₀.columnsOf tableId).find? fun c => Label.text name.text = .text c.name with
      | none =>
        have hnone : name.text ∉ (s₀.columnsOf tableId).map (·.name) := fun hmem => by
          obtain ⟨c, hc, hname⟩ := List.mem_map.mp hmem
          exact List.find?_eq_none.mp hfind c hc (decide_eq_true (congrArg Label.text hname.symm))
        rw [if_neg hnone]
        exact .error _
      | some c =>
        have hc : c ∈ s₀.columnsOf tableId := List.mem_of_find?_eq_some hfind
        have hname : name.text = c.name := by simpa using List.find?_some hfind
        have hkept : (kept.map (·.named)).filter (·.name ≠ name.text) =
            (kept.filter (·.id ≠ c.id)).map (·.named) := by
          rw [filter_id_eq_filter_name hs₀ h.kept_subset hc, List.filter_map, hname]
          rfl
        rw [if_pos (List.mem_map.mpr ⟨c, hc, hname.symm⟩), hkept]
        exact ih (h.removeColumn hs₀ hc)
    | renameColumn oldName newName => exact .error _

/-- A table with other columns. -/
theorem named_setColumns (hs : s.Valid) (hs' : s'.Valid) (hstore : s.Evolves s')
    (ho : o ∈ s.objects) (hkind : o.kind = .table) (honly : OnlyColumns s s' o.id) :
    s'.named = s.named.setColumns (s.place o) ((s'.columnsOf o.id).map (·.named)) := by
  have hobjects : s.objects ⊆ s'.objects := honly.objects ▸ List.Subset.refl _
  refine Named.Store.ext ?_ ?_
  · show s'.named.databases = s.named.databases
    rw [named, named, honly.databases]
  · rw [Named.Store.setColumns, named, named, honly.objects, List.map_map]
    refine List.map_congr_left fun o' ho' => ?_
    rw [Function.comp_apply, namedObject_place]
    split_ifs with hplace
    · obtain rfl := hs.place_injective ho' ho hplace
      rw [namedObject, hstore.place_eq hs hs' ho (hobjects ho)]
      simp only [hkind]
    · refine hstore.namedObject_eq hs hs' ho' (hobjects ho') (honly.others o'.id fun hid => ?_)
      exact hplace (by rw [hs.object_numbers.eq_of_number_eq ho' ho hid])

end SchemaCatalog.Store
