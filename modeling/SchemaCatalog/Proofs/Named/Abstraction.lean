import Mathlib.Data.Finset.Basic
import Mathlib.Data.List.Dedup
import Mathlib.Data.List.Find
import SchemaCatalog.Proofs.Named.Catalog
import SchemaCatalog.Proofs.Store.History
import SchemaCatalog.Store.Describe

/-!
# Stores without their numbers

`Store.named` forgets the numbers of a store: a row becomes what its numbers stand for. In a valid
store nothing is confused by that, since two objects are never at the same place
(`Store.Valid.place_injective`); so what is looked up by number is what is looked up by name
(`Store.Valid.named_object?` to `Store.Valid.named_isReferenced`).

Over time the named form of an object can change in its columns only
(`Store.Evolves.namedObject_eq`). A change of a store therefore has to be compared with its named
form only in what it adds, removes, or does to columns.
-/

namespace SchemaCatalog

open Named (Place)

/-- A column without its number and that of its table. -/
def ColumnRow.named (c : ColumnRow) : Named.Column := ⟨c.name, c.dataType, c.isPrimaryKey⟩

/-- Columns are shown alike with and without their numbers. -/
theorem map_row_named (columns : List ColumnRow) :
    (columns.map (·.named)).map Named.Column.row = columns.map Session.columnRow := by
  rw [List.map_map]
  rfl

namespace Store

/-! ### Forgetting the numbers -/

/-- The place of an object. -/
def place (s : Store) (o : ObjectRow) : Place :=
  ⟨((s.databaseById? o.databaseId).map (·.name)).getD "", o.name⟩

/-- The places of what a view reads from. -/
def places (s : Store) (viewId : Id) : Finset Place :=
  (((s.dependencies.filter (·.viewId = viewId)).filterMap fun e =>
    s.objects.find? (·.id = e.objectId)).map s.place).toFinset

/-- An object without numbers. -/
def namedObject (s : Store) (o : ObjectRow) : Named.Object where
  place := s.place o
  content :=
    match o.kind with
    | .table => .table ((s.columnsOf o.id).map (·.named))
    | .view => .view (s.definition o.id) (s.places o.id)

/-- A store without numbers. -/
def named (s : Store) : Named.Store where
  databases := (s.databases.map (·.name)).toFinset
  objects := s.objects.map s.namedObject

variable {s s' : Store} {o o' : ObjectRow} {d : DatabaseRow} {name : String}

@[simp] theorem namedObject_place : (s.namedObject o).place = s.place o := rfl

@[simp] theorem namedObject_kind : (s.namedObject o).kind = o.kind := by
  cases hkind : o.kind <;> simp [Named.Object.kind, namedObject, hkind]

/-- A table keeps its columns. -/
theorem namedObject_columns (h : o.kind = .table) :
    (s.namedObject o).columns = (s.columnsOf o.id).map (·.named) := by
  simp [Named.Object.columns, namedObject, h]

@[simp] theorem mem_named_databases :
    name ∈ s.named.databases ↔ ∃ d ∈ s.databases, d.name = name := by
  simp [named]

namespace Valid

/-! ### Places -/

/-- The place of an object, by its database. -/
theorem place_eq (h : s.Valid) (hd : d ∈ s.databases) (hid : o.databaseId = d.id) :
    s.place o = ⟨d.name, o.name⟩ := by
  have hfind : s.databaseById? o.databaseId = some d :=
    h.database_numbers.find?_eq_some_iff.mpr ⟨hd, hid.symm⟩
  rw [place, hfind]
  rfl

/-- What the place of an object says about its database. -/
theorem place_eq_iff (h : s.Valid) (hd : d ∈ s.databases) (ho : o ∈ s.objects) :
    s.place o = ⟨d.name, name⟩ ↔ o.databaseId = d.id ∧ o.name = name := by
  constructor
  · intro hplace
    obtain ⟨d', hd', hid⟩ := List.mem_map.mp (h.object_database o ho)
    rw [h.place_eq hd' hid.symm] at hplace
    obtain ⟨hname, rfl⟩ := Place.mk.inj hplace
    rw [List.inj_on_of_nodup_map h.database_names hd' hd hname] at hid
    exact ⟨hid.symm, rfl⟩
  · rintro ⟨hid, rfl⟩
    exact h.place_eq hd hid

/-- What the name of its database says about an object. -/
theorem place_database_iff (h : s.Valid) (hd : d ∈ s.databases) (ho : o ∈ s.objects) :
    (s.place o).database = d.name ↔ o.databaseId = d.id := by
  have hiff : s.place o = ⟨d.name, o.name⟩ ↔ o.databaseId = d.id ∧ o.name = o.name :=
    h.place_eq_iff hd ho
  constructor
  · exact fun hname => (hiff.mp (Place.ext hname rfl)).1
  · exact fun hid => congrArg (·.database) (hiff.mpr ⟨hid, rfl⟩)

/-- Two objects are never at the same place. -/
theorem place_injective (h : s.Valid) (ho : o ∈ s.objects) (ho' : o' ∈ s.objects)
    (hplace : s.place o = s.place o') : o = o' := by
  obtain ⟨d, hd, hid⟩ := List.mem_map.mp (h.object_database o' ho')
  rw [h.place_eq hd hid.symm, h.place_eq_iff hd ho] at hplace
  exact List.inj_on_of_nodup_map h.object_names ho ho'
    (Prod.ext (hplace.1.trans hid) hplace.2)

/-! ### What views read from -/

theorem mem_places (h : s.Valid) {viewId : Id} {p : Place} :
    p ∈ s.places viewId ↔
      ∃ e ∈ s.dependencies, e.viewId = viewId ∧
        ∃ o ∈ s.objects, o.id = e.objectId ∧ s.place o = p := by
  have hfind : ∀ id o, s.objects.find? (fun o => decide (o.id = id)) = some o ↔
      o ∈ s.objects ∧ o.id = id :=
    fun _ _ => h.object_numbers.find?_eq_some_iff
  simp only [places, List.mem_toFinset, List.mem_map, List.mem_filterMap, List.mem_filter,
    decide_eq_true_eq, hfind]
  constructor
  · rintro ⟨o, ⟨e, ⟨he, hview⟩, ho, hid⟩, hplace⟩
    exact ⟨e, he, hview, o, ho, hid, hplace⟩
  · rintro ⟨e, he, hview, o, ho, hid, hplace⟩
    exact ⟨o, ⟨e, ⟨he, hview⟩, ho, hid⟩, hplace⟩

/-- An object reads from another one in the named form exactly if there is a dependency. -/
theorem place_mem_references_iff (h : s.Valid) {v : ObjectRow} (hv : v ∈ s.objects)
    (ho : o ∈ s.objects) :
    s.place o ∈ (s.namedObject v).references ↔ (⟨v.id, o.id⟩ : Dependency) ∈ s.dependencies := by
  constructor
  · intro hmem
    cases hkind : v.kind with
    | table => simp [Named.Object.references, namedObject, hkind] at hmem
    | view =>
      simp only [Named.Object.references, namedObject, hkind, h.mem_places] at hmem
      obtain ⟨e, he, hview, o', ho', hid, hplace⟩ := hmem
      obtain rfl := h.place_injective ho' ho hplace
      rwa [← hview, hid]
  · intro he
    obtain ⟨v', hv', hid, hkind⟩ := h.exists_view (h.dependency_view _ he)
    obtain rfl := h.object_numbers.eq_of_number_eq hv' hv hid
    simp only [Named.Object.references, namedObject, hkind, h.mem_places]
    exact ⟨_, he, rfl, o, ho, rfl, rfl⟩

/-! ### Looking up -/

theorem named_object? (h : s.Valid) (hd : d ∈ s.databases) :
    s.named.object? ⟨d.name, name⟩ = (s.object? d.id name).map s.namedObject := by
  rw [Named.Store.object?, named, List.find?_map, object?]
  refine congrArg _ (List.find?_congr fun o ho => ?_)
  simp [h.place_eq_iff hd ho]

theorem named_objectOfKind? (h : s.Valid) (hd : d ∈ s.databases) (kind : ObjectKind) :
    s.named.objectOfKind? kind ⟨d.name, name⟩ =
      (s.objectOfKind? d.id kind name).map s.namedObject := by
  rw [Named.Store.objectOfKind?, named, List.find?_map, objectOfKind?]
  refine congrArg _ (List.find?_congr fun o ho => ?_)
  simp only [Function.comp_apply, namedObject_place, namedObject_kind, h.place_eq_iff hd ho,
    decide_eq_decide]
  rw [and_right_comm, and_assoc]

theorem named_isReferenced (h : s.Valid) (ho : o ∈ s.objects) :
    s.named.isReferenced (s.place o) = s.isReferenced o.id := by
  rw [Bool.eq_iff_iff, isReferenced_eq_true_iff]
  simp only [Named.Store.isReferenced, named, List.any_map, List.any_eq_true, Function.comp_apply,
    decide_eq_true_eq]
  constructor
  · rintro ⟨v, hv, hmem⟩
    exact ⟨_, (h.place_mem_references_iff hv ho).mp hmem, rfl⟩
  · rintro ⟨⟨viewId, objectId⟩, he, rfl⟩
    obtain ⟨v, hv, rfl, -⟩ := h.exists_view (h.dependency_view _ he)
    exact ⟨v, hv, (h.place_mem_references_iff hv ho).mpr he⟩

theorem named_tableNames (h : s.Valid) (hd : d ∈ s.databases) :
    s.named.tableNames d.name = s.names d.id .table := by
  rw [Named.Store.tableNames, names, named, objectsOf]
  simp only [List.filter_map, List.map_map, List.filter_filter]
  congr 1
  refine congrArg _ (List.filter_congr fun o ho => ?_)
  simp [h.place_database_iff hd ho, Bool.and_comm]

end Valid

theorem named_oldest? : s.named.oldest? name = (s.oldest? name).map s.namedObject := by
  rw [Named.Store.oldest?, named, List.find?_map, oldest?]
  rfl

/-! ### The named form over time -/

namespace Evolves

/-- An object that stays is where it was. -/
theorem place_eq (h : Evolves s s') (hs : s.Valid) (hs' : s'.Valid) (ho : o ∈ s.objects)
    (ho' : o ∈ s'.objects) : s'.place o = s.place o := by
  obtain ⟨d, hd, hid⟩ := List.mem_map.mp (hs.object_database o ho)
  obtain ⟨d', hd', hid'⟩ := List.mem_map.mp (hs'.object_database o ho')
  have hle : d.id ≤ s.lastDatabase := (hs.database_numbers.bounds _ (List.mem_map_of_mem hd)).2
  have hmem := h.databases.mem_of_le hd' ((hid'.trans hid.symm) ▸ hle)
  obtain rfl := hs.database_numbers.eq_of_number_eq hmem hd (hid'.trans hid.symm)
  rw [hs'.place_eq hd' hid'.symm, hs.place_eq hmem hid.symm]

/-- A view that stays reads from the places from which it read. -/
theorem places_eq (h : Evolves s s') (hs : s.Valid) (hs' : s'.Valid) {id : Id}
    (hid : id ∈ s.views.map (·.id)) (hid' : id ∈ s'.views.map (·.id)) :
    s'.places id = s.places id := by
  have hle := hs.view_le hid
  refine Finset.ext fun p => ?_
  rw [hs.mem_places, hs'.mem_places]
  constructor
  · -- the view had been there, so its dependency is none of the later ones
    rintro ⟨e, he', rfl, o', ho', hobject, rfl⟩
    have he := h.dependencies.mem_of_le he' hle
    obtain ⟨o, ho, hsame⟩ := List.mem_map.mp (hs.dependency_object e he)
    obtain rfl := h.object_of_id hs ho ho' (hobject.trans hsame.symm)
    exact ⟨e, he, rfl, o', ho, hobject, (h.place_eq hs hs' ho ho').symm⟩
  · -- and none of the earlier ones is lost as long as the view stays
    rintro ⟨e, he, rfl, o, ho, hobject, rfl⟩
    have he' := h.dependency_kept e he hid'
    obtain ⟨o', ho', hsame⟩ := List.mem_map.mp (hs'.dependency_object e he')
    obtain rfl := h.object_of_id hs ho ho' (hsame.trans hobject.symm)
    exact ⟨e, he', rfl, o', ho', hsame, h.place_eq hs hs' ho ho'⟩

/-- The named form of an object that stays is what it was, except for its columns. -/
theorem namedObject_eq (h : Evolves s s') (hs : s.Valid) (hs' : s'.Valid) (ho : o ∈ s.objects)
    (ho' : o ∈ s'.objects) (hcolumns : s'.columnsOf o.id = s.columnsOf o.id) :
    s'.namedObject o = s.namedObject o := by
  rw [namedObject, namedObject, h.place_eq hs hs' ho ho']
  cases hkind : o.kind with
  | table => simp only [hcolumns]
  | view =>
    have hid := hs.mem_views ho hkind
    have hid' := hs'.mem_views ho' hkind
    simp only [h.definition_eq hs hid hid' hs', h.places_eq hs hs' hid hid']

/-- Objects that stay with their columns are what they were. -/
theorem map_namedObject_eq (h : Evolves s s') (hs : s.Valid) (hs' : s'.Valid)
    {rows : List ObjectRow} (hrows : rows ⊆ s.objects) (hrows' : rows ⊆ s'.objects)
    (hcolumns : ∀ o ∈ rows, s'.columnsOf o.id = s.columnsOf o.id) :
    rows.map s'.namedObject = rows.map s.namedObject :=
  List.map_congr_left fun o ho => h.namedObject_eq hs hs' (hrows ho) (hrows' ho) (hcolumns o ho)

/-- Removing objects leaves the others what they were. -/
theorem named_objects_filter (h : Evolves s s') (hs : s.Valid) (hs' : s'.Valid)
    {p : ObjectRow → Bool} (hobjects : s'.objects = s.objects.filter p)
    (hcolumns : ∀ o ∈ s'.objects, s'.columnsOf o.id = s.columnsOf o.id) :
    s'.named.objects = (s.objects.filter p).map s.namedObject := by
  have hold : s'.objects ⊆ s.objects := hobjects ▸ List.filter_sublist.subset
  rw [named, h.map_namedObject_eq hs hs' hold (List.Subset.refl _) hcolumns, hobjects]

/-- A new object leaves the others what they were. -/
theorem named_objects_append (h : Evolves s s') (hs : s.Valid) (hs' : s'.Valid)
    (hobjects : s'.objects = s.objects ++ [o])
    (hcolumns : ∀ o ∈ s.objects, s'.columnsOf o.id = s.columnsOf o.id) :
    s'.named.objects = s.named.objects ++ [s'.namedObject o] := by
  have hold : s.objects ⊆ s'.objects := hobjects ▸ List.subset_append_left _ _
  rw [named, hobjects, List.map_append,
    h.map_namedObject_eq hs hs' (List.Subset.refl _) hold hcolumns]
  rfl

end Evolves

end Store

end SchemaCatalog
