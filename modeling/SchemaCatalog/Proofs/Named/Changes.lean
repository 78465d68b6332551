import SchemaCatalog.Proofs.Named.Agreement
import SchemaCatalog.Proofs.Store.Dropping

/-!
# Changes agree with their named forms

What is done to databases, the dropping of objects and the creation of views, each compared with
what it is on names. Where a change succeeds on a store, it succeeds on the named form and leads to
the named form of the new store; where it fails, both fail with the same error.
-/

namespace SchemaCatalog.Store

open Named (Agree)

variable {s s' : Store} {d : DatabaseRow} {name : String}

/-! ### Databases -/

theorem createDatabase_agree (hs : s.Valid) (name : String) :
    Agree (fun r t => t = r.2.named ∧ r.1.name = name ∧
      r.2.databases = s.databases ++ [r.1] ∧ s.Evolves r.2) (s.createDatabase (.text name))
      (s.named.createDatabase name) := by
  rw [createDatabase_eq_bind, requireStorable_text, ok_bind, Named.Store.createDatabase]
  cases hrow : s.insertDatabase? name with
  | none =>
    have htaken : name ∈ s.named.databases := by
      by_contra hnew
      have hsome : s.insertDatabase? name = some _ :=
        insertDatabase?_eq_some_iff.mpr ⟨by simpa using hnew, rfl, rfl⟩
      rw [hrow] at hsome
      exact absurd hsome (by simp)
    simp only [Label.stored?, Option.bind_some, hrow, if_pos htaken]
    exact .error _
  | some r =>
    obtain ⟨row, s'⟩ := r
    have hedit : Edit .noView s s' := .insertDatabase hrow
    obtain ⟨hnew, rfl, rfl⟩ := insertDatabase?_eq_some_iff.mp hrow
    have hnew : name ∉ s.named.databases := by simpa using hnew
    simp only [Label.stored?, Option.bind_some, hrow, if_neg hnew]
    refine .ok ⟨Named.Store.ext ?_ ?_, rfl, rfl, hedit.evolves⟩
    · refine Finset.ext fun n => ?_
      rw [Finset.mem_insert, mem_named_databases, mem_named_databases]
      constructor
      · rintro (rfl | ⟨d, hd, rfl⟩)
        · exact ⟨_, List.mem_append_right _ List.mem_cons_self, rfl⟩
        · exact ⟨d, List.mem_append_left _ hd, rfl⟩
      · rintro ⟨d, hd, rfl⟩
        rcases List.mem_append.mp hd with hd | hd
        · exact .inr ⟨d, hd, rfl⟩
        · obtain rfl := List.mem_singleton.mp hd
          exact .inl rfl
    · exact (hedit.evolves.map_namedObject_eq hs (hedit.valid hs) (List.Subset.refl _)
        (List.Subset.refl _) fun o _ => rfl).symm

theorem lookUpDatabase_agree (name : String) :
    Agree (fun d _ => d ∈ s.databases ∧ d.name = name) (Session.lookUpDatabase (.text name) s)
      (s.named.requireDatabase name) := by
  rw [Session.lookUpDatabase, requireStorable_text, ok_bind, Named.Store.requireDatabase]
  cases hfind : s.database? name with
  | none =>
    have hnone : name ∉ s.named.databases := by
      simpa [database?] using hfind
    simp only [Label.stored?, Option.bind_some, hfind, if_neg hnone]
    exact .error _
  | some d =>
    have hd : d ∈ s.databases := List.mem_of_find?_eq_some hfind
    have hname : d.name = name := by simpa using List.find?_some hfind
    have hmem : name ∈ s.named.databases := mem_named_databases.mpr ⟨d, hd, hname⟩
    simp only [Label.stored?, Option.bind_some, hfind, if_pos hmem]
    exact .ok ⟨hd, hname⟩

/-! ### Dropping objects -/

/-- The objects of a database are those that are in a place there. -/
theorem mem_numbers_objectsOf_iff (hs : s.Valid) (hd : d ∈ s.databases) {o : ObjectRow}
    (ho : o ∈ s.objects) :
    o.id ∈ (s.objectsOf d.id).map (·.id) ↔ (s.place o).database = d.name := by
  rw [hs.place_database_iff hd ho]
  constructor
  · intro hmem
    obtain ⟨o', ho', hid⟩ := List.mem_map.mp hmem
    obtain ⟨ho', hdb⟩ := List.mem_filter.mp ho'
    rw [← hs.object_numbers.eq_of_number_eq ho' ho hid]
    exact of_decide_eq_true hdb
  · exact fun hdb => List.mem_map_of_mem (List.mem_filter.mpr ⟨ho, decide_eq_true hdb⟩)

/-- Whether something outside of a database reads from one of its objects. -/
theorem named_isReferencedFromOutside (hs : s.Valid) (hd : d ∈ s.databases) {o : ObjectRow}
    (ho : o ∈ s.objectsOf d.id) :
    s.named.isReferencedFromOutside (s.place o) =
      s.isReadByOthers ((s.objectsOf d.id).map (·.id)) o.id := by
  have hnumber : o.id ∈ (s.objectsOf d.id).map (·.id) := List.mem_map_of_mem ho
  have ho : o ∈ s.objects := (List.mem_filter.mp ho).1
  have hin := (mem_numbers_objectsOf_iff hs hd ho).mp hnumber
  rw [Bool.eq_iff_iff]
  simp only [Named.Store.isReferencedFromOutside, isReadByOthers, named, List.any_map,
    List.any_eq_true, Function.comp_apply]
  constructor
  · rintro ⟨v, hv, hread⟩
    obtain ⟨hout, hmem⟩ := of_decide_eq_true hread
    refine ⟨_, (hs.place_mem_references_iff hv ho).mp hmem, decide_eq_true ⟨rfl, fun hvin => ?_⟩⟩
    exact hout (((mem_numbers_objectsOf_iff hs hd hv).mp hvin).trans hin.symm)
  · rintro ⟨⟨viewId, objectId⟩, he, hread⟩
    obtain ⟨rfl, hout⟩ := of_decide_eq_true hread
    obtain ⟨v, hv, rfl, -⟩ := hs.exists_view (hs.dependency_view _ he)
    refine ⟨v, hv, decide_eq_true ⟨fun hvin => hout ?_, ?_⟩⟩
    · exact (mem_numbers_objectsOf_iff hs hd hv).mpr (hvin.trans hin)
    · exact (hs.place_mem_references_iff hv ho).mpr he

/-- What stands in the way of dropping a database. -/
theorem named_held? (hs : s.Valid) (hd : d ∈ s.databases) :
    s.named.held? d.name =
      ((s.objectsOf d.id).reverse.find? fun o =>
        s.isReadByOthers ((s.objectsOf d.id).map (·.id)) o.id).map s.namedObject := by
  have hobjects : s.named.objects.filter (·.place.database = d.name) =
      (s.objectsOf d.id).map s.namedObject := by
    rw [named, List.filter_map, objectsOf]
    refine congrArg _ (List.filter_congr fun o ho => ?_)
    simp [hs.place_database_iff hd ho]
  rw [Named.Store.held?, hobjects, ← List.map_reverse, List.find?_map]
  refine congrArg _ (List.find?_congr fun o ho => ?_)
  exact named_isReferencedFromOutside hs hd (List.mem_reverse.mp ho)

/-- Without a database and all that is in it. -/
theorem named_without_database (hs : s.Valid) (hs' : s'.Valid) (hstore : s.Evolves s')
    (hd : d ∈ s.databases) (hdatabases : s'.databases = s.databases.filter (·.id ≠ d.id))
    (hobjects : s'.objects = s.objects.filter (·.id ∉ (s.objectsOf d.id).map (·.id)))
    (hcolumns : ∀ o ∈ s'.objects, s'.columnsOf o.id = s.columnsOf o.id) :
    s'.named = s.named.removeDatabase d.name := by
  refine Named.Store.ext ?_ ?_
  · -- the name of a database is that of the dropped one exactly if the number is
    refine Finset.ext fun n => ?_
    rw [Named.Store.removeDatabase, Finset.mem_erase, mem_named_databases, mem_named_databases,
      hdatabases]
    constructor
    · rintro ⟨d', hd', rfl⟩
      obtain ⟨hd', hid⟩ := List.mem_filter.mp hd'
      refine ⟨fun hname => of_decide_eq_true hid ?_, d', hd', rfl⟩
      rw [List.inj_on_of_nodup_map hs.database_names hd' hd hname]
    · rintro ⟨hne, d', hd', rfl⟩
      refine ⟨d', List.mem_filter.mpr ⟨hd', decide_eq_true fun hid => hne ?_⟩, rfl⟩
      rw [hs.database_numbers.eq_of_number_eq hd' hd hid]
  · rw [hstore.named_objects_filter hs hs' hobjects hcolumns, Named.Store.removeDatabase, named,
      List.filter_map]
    refine congrArg _ (List.filter_congr fun o ho => ?_)
    rw [Function.comp_apply, decide_eq_decide, namedObject_place,
      mem_numbers_objectsOf_iff hs hd ho]

theorem dropDatabase_agree (hs : s.Valid) (hb : s.Backward) (hd : d ∈ s.databases) :
    Agree (fun s' t => t = s'.named ∧ s'.lastDatabase = s.lastDatabase ∧
      s'.databases = s.databases.filter (·.id ≠ d.id)) (s.dropDatabase d)
      (s.named.dropDatabase d.name) := by
  have hdrop := hb.dropDatabase_eq_match hs d
  rw [Named.Store.dropDatabase, named_held? hs hd]
  cases hheld : (s.objectsOf d.id).reverse.find? fun o =>
      s.isReadByOthers ((s.objectsOf d.id).map (·.id)) o.id with
  | some o =>
    rw [hheld] at hdrop
    rw [hdrop]
    simp only [Option.map_some, namedObject_kind]
    exact .error _
  | none =>
    rw [hheld] at hdrop
    have hedits : Edits .noView s _ := dropDatabase_edits hdrop
    rw [hdrop]
    refine .ok ⟨?_, rfl, rfl⟩
    refine (named_without_database hs (hedits.valid hs) (hedits.evolves hs) hd rfl rfl ?_).symm
    exact fun o ho => columnsOf_without (of_decide_eq_true (List.mem_filter.mp ho).2)

/-- Without a single object. -/
theorem named_without (hs : s.Valid) {o : ObjectRow} (ho : o ∈ s.objects)
    (hfree : s.isReferenced o.id = false) :
    (s.without [o.id]).named = s.named.remove (s.place o) := by
  have hedit : Edit .noView s (s.without [o.id]) := .removeObject (removeObject?_eq_some hfree)
  have hcolumns : ∀ o' ∈ (s.without [o.id]).objects,
      (s.without [o.id]).columnsOf o'.id = s.columnsOf o'.id :=
    fun o' ho' => columnsOf_without (of_decide_eq_true (List.mem_filter.mp ho').2)
  refine Named.Store.ext rfl ?_
  rw [hedit.evolves.named_objects_filter hs (hedit.valid hs) rfl hcolumns, Named.Store.remove,
    named, List.filter_map]
  refine congrArg _ (List.filter_congr fun o' ho' => ?_)
  rw [Function.comp_apply, decide_eq_decide, namedObject_place, List.mem_singleton]
  refine not_congr ⟨fun hid => ?_, fun hplace => ?_⟩
  · rw [hs.object_numbers.eq_of_number_eq ho' ho hid]
  · rw [hs.place_injective ho' ho hplace]

theorem dropNames_agree (hs : s.Valid) (hd : d ∈ s.databases) (kind : ObjectKind)
    (names : List NonemptyString) :
    Agree (fun s' t => t = s'.named ∧ s'.databases = s.databases)
      (Session.dropNames d.id kind s (names.map (·.label)))
      (s.named.dropNames d.name kind (names.map (·.text))) := by
  -- every object that is dropped gives a new store, and its named form
  induction names generalizing s with
  | nil => exact .ok ⟨rfl, rfl⟩
  | cons name rest ih =>
    simp only [List.map_cons, NonemptyString.label, Session.dropNames_cons, dropObject_eq_bind,
      requireStorable_text, ok_bind, Label.stored?, Option.bind_some, Named.Store.dropNames,
      hs.named_objectOfKind? hd]
    cases hfind : s.objectOfKind? d.id kind name.text with
    | none => exact .error _
    | some o =>
      have ho : o ∈ s.objects := List.mem_of_find?_eq_some hfind
      simp only [Option.map_some, namedObject_place, hs.named_isReferenced ho]
      cases href : s.isReferenced o.id with
      | true =>
        rw [removeObject?_eq_none href]
        exact .error _
      | false =>
        have hedit : Edit .noView s (s.without [o.id]) := .removeObject (removeObject?_eq_some href)
        rw [removeObject?_eq_some href, ← named_without hs ho href]
        exact ih (hedit.valid hs) hd

/-! ### Creating objects -/

theorem requireFree_agree (hs : s.Valid) (hd : d ∈ s.databases) (name : String) :
    Agree (fun _ _ => s.object? d.id name = none) (s.requireFree d.id (.text name))
      (s.named.requireFree ⟨d.name, name⟩) := by
  simp only [requireFree, requireStorable_text, ok_bind, Label.stored?, Option.bind_some,
    Named.Store.requireFree, hs.named_object? hd]
  cases hfind : s.object? d.id name with
  | none => exact .ok rfl
  | some o =>
    simp only [Option.map_some, namedObject_kind]
    exact .error _

/-- The next object of a store. -/
def nextObject (s : Store) (kind : ObjectKind) (databaseId : Id) (name : String) : ObjectRow :=
  ⟨s.lastObject + 1, kind, name, databaseId⟩

/-- A store with another object. -/
def withObject (s : Store) (o : ObjectRow) : Store :=
  { s with objects := s.objects ++ [o], lastObject := o.id }

/-- A store with another view. -/
def withView (s : Store) (o : ObjectRow) (definition : String) (objectIds : List Id) : Store :=
  { s.withObject o with
    views := s.views ++ [⟨o.id, definition⟩]
    dependencies := s.dependencies ++ objectIds.map (⟨o.id, ·⟩) }

/-- An object is accepted at a free place. -/
theorem insertObject?_of_free (hd : d ∈ s.databases) (hfree : s.object? d.id name = none)
    (kind : ObjectKind) :
    s.insertObject? kind d.id name =
      some (s.nextObject kind d.id name, s.withObject (s.nextObject kind d.id name)) := by
  refine insertObject?_eq_some_iff.mpr ⟨List.mem_map_of_mem hd, fun hmem => ?_, rfl, rfl⟩
  obtain ⟨o, ho, hplace⟩ := List.mem_map.mp hmem
  obtain ⟨hdb, hname⟩ := Prod.mk.inj hplace
  exact List.find?_eq_none.mp hfree o ho (decide_eq_true ⟨hdb, hname⟩)

theorem resolve_agree (hs : s.Valid) (names : List String) :
    Agree (fun ids places => (∀ id ∈ ids, id ∈ s.objects.map (·.id)) ∧
      ∀ p, p ∈ places ↔ ∃ o ∈ s.objects, o.id ∈ ids ∧ s.place o = p)
      (Session.resolve s (names.map .text)) (s.named.resolve names) := by
  induction names with
  | nil => exact .ok ⟨by simp, by simp⟩
  | cons name rest ih =>
    simp only [List.map_cons, Session.resolve, requireStorable_text, ok_bind, Label.stored?,
      Option.bind_some, Named.Store.resolve, named_oldest?]
    cases hfind : s.oldest? name with
    | none => exact .error _
    | some o =>
      have ho : o ∈ s.objects := List.mem_of_find?_eq_some hfind
      simp only [Option.map_some]
      refine ih.map fun ids places _ h => ⟨?_, fun p => ?_⟩
      · rw [List.forall_mem_cons]
        exact ⟨List.mem_map_of_mem ho, h.1⟩
      · rw [Finset.mem_insert, h.2]
        constructor
        · rintro (rfl | ⟨o', ho', hid, hplace⟩)
          · exact ⟨o, ho, List.mem_cons_self, rfl⟩
          · exact ⟨o', ho', List.mem_cons_of_mem _ hid, hplace⟩
        · rintro ⟨o', ho', hid, rfl⟩
          rcases List.mem_cons.mp hid with hid | hid
          · rw [hs.object_numbers.eq_of_number_eq ho' ho hid]
            exact .inl rfl
          · exact .inr ⟨o', ho', hid, rfl⟩

/-- The named form of a new view. -/
theorem namedObject_withView {o : ObjectRow} {definition : String} {ids : List Id}
    {places : Finset Named.Place} (hs' : (s.withView o definition ids).Valid)
    (hstore : s.Evolves (s.withView o definition ids)) (hs : s.Valid) (hd : d ∈ s.databases)
    (hdb : o.databaseId = d.id) (hkind : o.kind = .view) (hnew : s.lastObject < o.id)
    (hids : ∀ id ∈ ids, id ∈ s.objects.map (·.id))
    (hplaces : ∀ p, p ∈ places ↔ ∃ o ∈ s.objects, o.id ∈ ids ∧ s.place o = p) :
    (s.withView o definition ids).namedObject o =
      ⟨⟨d.name, o.name⟩, .view definition places⟩ := by
  have hdefinition : (s.withView o definition ids).definition o.id = definition := by
    have hrow : (⟨o.id, definition⟩ : ViewRow) ∈ (s.withView o definition ids).views :=
      List.mem_append_right _ List.mem_cons_self
    rw [Store.definition, hs'.view_numbers.find?_eq_some_iff.mpr ⟨hrow, rfl⟩]
    rfl
  have hreads : (s.withView o definition ids).places o.id = places := by
    refine Finset.ext fun p => ?_
    rw [hs'.mem_places, hplaces]
    constructor
    · rintro ⟨e, he, hview, o₁, ho₁, hid, rfl⟩
      rcases List.mem_append.mp he with he | he
      · -- no view that was there has the new number
        exact absurd (hs.view_le (hs.dependency_view e he)) (Int.not_le.mpr (hview ▸ hnew))
      · obtain ⟨id, hmem, rfl⟩ := List.mem_map.mp he
        obtain ⟨o₂, ho₂, rfl⟩ := List.mem_map.mp (hids id hmem)
        obtain rfl := hstore.object_of_id hs ho₂ ho₁ hid
        exact ⟨o₁, ho₂, hmem, (hstore.place_eq hs hs' ho₂ ho₁).symm⟩
    · rintro ⟨o₁, ho₁, hmem, rfl⟩
      have ho₁' : o₁ ∈ (s.withView o definition ids).objects := List.mem_append_left _ ho₁
      refine ⟨⟨o.id, o₁.id⟩, ?_, rfl, o₁, ho₁', rfl, hstore.place_eq hs hs' ho₁ ho₁'⟩
      exact List.mem_append_right _ (List.mem_map_of_mem hmem)
  rw [namedObject, hs'.place_eq hd hdb]
  simp only [hkind, hdefinition, hreads]

/-- A view is created at a free place. -/
theorem createView_of_free (hs : s.Valid) (hd : d ∈ s.databases)
    (hfree : s.object? d.id name = none) (definition : String) {ids : List Id}
    (hids : ∀ id ∈ ids, id ∈ s.objects.map (·.id)) (hnodup : ids.Nodup) :
    s.createView d.id (.text name) (.text definition) ids =
        .ok (s.nextObject .view d.id name,
          s.withView (s.nextObject .view d.id name) definition ids) ∧
      Edit .resolved s (s.withView (s.nextObject .view d.id name) definition ids) := by
  have hrow := insertObject?_of_free hd hfree .view
  have hdeps : ((s.withObject (s.nextObject .view d.id name)).insertView
      (s.nextObject .view d.id name).id definition).insertDependencies?
        (s.nextObject .view d.id name).id ids =
      some (s.withView (s.nextObject .view d.id name) definition ids) := by
    refine insertDependencies?_eq_some_iff.mpr ⟨hnodup, fun id hid => ?_, ?_, rfl⟩
    · exact List.map_subset _ (List.subset_append_left _ _) (hids id hid)
    · exact fun id _ he => Int.not_lt.mpr (hs.view_le (hs.dependency_view _ he)) (Int.lt_succ _)
  refine ⟨?_, .insertView hrow hdeps hids⟩
  rw [createView_eq_bind, requireNewView, requireReadable_text, ok_bind, requireFree,
    requireStorable_text, ok_bind, Label.stored?, Option.bind_some, hfree, ok_bind]
  simp only [Label.stored?, Option.bind_some, hrow, requireStorable_text, ok_bind, hdeps]

theorem createView_agree (hs : s.Valid) (hd : d ∈ s.databases) (name definition : String)
    {ids : List Id} {places : Finset Named.Place} (hids : ∀ id ∈ ids, id ∈ s.objects.map (·.id))
    (hplaces : ∀ p, p ∈ places ↔ ∃ o ∈ s.objects, o.id ∈ ids ∧ s.place o = p) :
    Agree (fun r t => t = r.2.named ∧ r.2.databases = s.databases)
      (s.createView d.id (.text name) (.text definition) ids.eraseDups)
      (s.named.createView ⟨d.name, name⟩ definition places) := by
  rw [createView_eq_bind, requireNewView, requireReadable_text, ok_bind]
  refine (requireFree_agree hs hd name).bind fun _ _ _ hfree => ?_
  have hids' : ∀ id ∈ ids.eraseDups, id ∈ s.objects.map (·.id) :=
    fun id hid => hids id (List.mem_eraseDups.mp hid)
  obtain ⟨hcreate, hedit⟩ := createView_of_free hs hd hfree definition hids' (nodup_eraseDups ids)
  rw [createView_eq_bind, requireNewView, requireReadable_text, ok_bind, bind_eq_ok_iff] at hcreate
  obtain ⟨-, -, hcreate⟩ := hcreate
  have hs' := hedit.valid hs
  rw [hcreate]
  refine .ok ⟨Named.Store.ext rfl ?_, rfl⟩
  rw [hedit.evolves.named_objects_append hs hs' rfl fun _ _ => rfl,
    namedObject_withView hs' hedit.evolves hs hd rfl rfl (Int.lt_succ _) hids' fun p => ?_]
  · rfl
  · simp only [hplaces, List.mem_eraseDups]

end SchemaCatalog.Store
