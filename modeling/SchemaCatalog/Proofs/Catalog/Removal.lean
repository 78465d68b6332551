import SchemaCatalog.Proofs.Catalog.Emptying

/-!
# What becomes of a database that is dropped

`Catalog.databases_drop_whole` says for every store that can come up, every session and every name
what `DROP DATABASE` does. It fails if there is no database of the name; it fails if a view outside
of the database reads from an object inside, and then the message blames the newest such object; and
otherwise the database goes with all that belongs to it (`Store.IsLeftWithout`), and so does the
selection of the session, if it was that database.

Views inside of the database never stand in the way, however they read from each other, because the
newest object is dropped first.
-/

namespace SchemaCatalog

namespace Store

variable {s s' : Store} {d : DatabaseRow} {o : ObjectRow}

/-! ### Inside and outside of a database -/

/-- A database has an object of the given number. -/
def Contains (s : Store) (databaseId objectId : Id) : Prop :=
  ∃ o ∈ s.objects, o.id = objectId ∧ o.databaseId = databaseId

instance (s : Store) (databaseId objectId : Id) : Decidable (s.Contains databaseId objectId) :=
  inferInstanceAs (Decidable (∃ o ∈ s.objects, _))

/-- An object is in a database, and a view outside of the database reads from it. -/
structure IsHeld (s : Store) (databaseId : Id) (o : ObjectRow) : Prop where
  mem : o ∈ s.objects
  inside : o.databaseId = databaseId
  reader : ∃ e ∈ s.dependencies, e.objectId = o.id ∧ ¬ s.Contains databaseId e.viewId

/-- An object is in a database, and it reads from itself or a view outside of the database reads
from it. -/
structure IsStuck (s : Store) (databaseId : Id) (o : ObjectRow) : Prop where
  mem : o ∈ s.objects
  inside : o.databaseId = databaseId
  reader : ∃ e ∈ s.dependencies, e.objectId = o.id ∧
    (e.viewId = o.id ∨ ¬ s.Contains databaseId e.viewId)

theorem mem_numbers_objectsOf_iff_contains {databaseId id : Id} :
    id ∈ (s.objectsOf databaseId).map (·.id) ↔ s.Contains databaseId id := by
  constructor
  · intro hid
    obtain ⟨o, ho, hnumber⟩ := List.mem_map.mp hid
    obtain ⟨ho, hin⟩ := List.mem_filter.mp ho
    exact ⟨o, ho, hnumber, of_decide_eq_true hin⟩
  · rintro ⟨o, ho, rfl, hin⟩
    exact List.mem_map_of_mem (List.mem_filter.mpr ⟨ho, decide_eq_true hin⟩)

/-- An object is in a database exactly if the database has an object of its number. -/
theorem Valid.contains_iff (hs : s.Valid) (ho : o ∈ s.objects) {databaseId : Id} :
    s.Contains databaseId o.id ↔ o.databaseId = databaseId := by
  constructor
  · rintro ⟨o', ho', hid, hin⟩
    rwa [← hs.object_numbers.eq_of_number_eq ho' ho hid]
  · exact fun hin => ⟨o, ho, rfl, hin⟩

theorem isStuck_iff :
    s.IsStuck d.id o ↔ o ∈ s.objectsOf d.id ∧
      s.isStuck ((s.objectsOf d.id).map (·.id)) o.id = true := by
  rw [isStuck_eq_true_iff, objectsOf, List.mem_filter, decide_eq_true_eq, ← objectsOf]
  simp only [mem_numbers_objectsOf_iff_contains]
  exact ⟨fun h => ⟨⟨h.mem, h.inside⟩, h.reader⟩, fun h => ⟨h.1.1, h.1.2, h.2⟩⟩

/-- What a view outside holds is stuck. -/
theorem IsHeld.isStuck {databaseId : Id} (h : s.IsHeld databaseId o) : s.IsStuck databaseId o := by
  obtain ⟨e, he, hobject, hout⟩ := h.reader
  exact ⟨h.mem, h.inside, e, he, hobject, .inr hout⟩

/-- Where nothing in a database reads from itself, what is stuck is held by a view outside. -/
theorem IsStuck.isHeld {databaseId : Id} (h : s.IsStuck databaseId o)
    (hself : ∀ e ∈ s.dependencies, s.Contains databaseId e.objectId → e.viewId ≠ e.objectId) :
    s.IsHeld databaseId o := by
  obtain ⟨e, he, hobject, hview | hout⟩ := h.reader
  · have hcontains : s.Contains databaseId e.objectId := ⟨o, h.mem, hobject.symm, h.inside⟩
    exact absurd (hview.trans hobject.symm) (hself e he hcontains)
  · exact ⟨h.mem, h.inside, e, he, hobject, hout⟩

theorem Backward.isStuck_iff_isHeld (hb : s.Backward) {databaseId : Id} :
    s.IsStuck databaseId o ↔ s.IsHeld databaseId o :=
  ⟨fun h => h.isHeld fun e he _ hview => Int.ne_of_lt (hb e he) hview.symm, IsHeld.isStuck⟩

/-- A view outside of a database that reads from something inside holds an object. -/
theorem exists_isHeld_iff :
    (∃ o, s.IsHeld d.id o) ↔
      ∃ e ∈ s.dependencies, s.Contains d.id e.objectId ∧ ¬ s.Contains d.id e.viewId := by
  constructor
  · rintro ⟨o, ho, hin, e, he, hobject, hview⟩
    exact ⟨e, he, ⟨o, ho, hobject.symm, hin⟩, hview⟩
  · rintro ⟨e, he, ⟨o, ho, hid, hin⟩, hview⟩
    exact ⟨o, ho, hin, e, he, hid.symm, hview⟩

/-! ### Without a database -/

/-- A store is left when a database has been dropped: its row is gone, with its objects and their
rows as tables and views, the columns of its tables, and what its views read from. All other rows
are there, in their order, and so are the counters. -/
structure IsLeftWithout (s' s : Store) (databaseId : Id) : Prop where
  databases : s'.databases = s.databases.filter (·.id ≠ databaseId)
  objects : s'.objects = s.objects.filter (·.databaseId ≠ databaseId)
  tables : s'.tables = s.tables.filter fun id => ¬ s.Contains databaseId id
  views : s'.views = s.views.filter fun v => ¬ s.Contains databaseId v.id
  columns : s'.columns = s.columns.filter fun c => ¬ s.Contains databaseId c.tableId
  dependencies : s'.dependencies = s.dependencies.filter fun e => ¬ s.Contains databaseId e.viewId
  lastDatabase : s'.lastDatabase = s.lastDatabase
  lastObject : s'.lastObject = s.lastObject
  lastColumn : s'.lastColumn = s.lastColumn

theorem Valid.isLeftWithout (hs : s.Valid) (d : DatabaseRow) :
    ((s.without ((s.objectsOf d.id).map (·.id))).removeDatabase d.id).IsLeftWithout s d.id where
  databases := rfl
  objects := by
    refine List.filter_congr fun o ho => decide_eq_decide.mpr (not_congr ?_)
    rw [mem_numbers_objectsOf_iff_contains, hs.contains_iff ho]
  tables := by simp only [Store.removeDatabase, without, mem_numbers_objectsOf_iff_contains]
  views := by simp only [Store.removeDatabase, without, mem_numbers_objectsOf_iff_contains]
  columns := by simp only [Store.removeDatabase, without, mem_numbers_objectsOf_iff_contains]
  dependencies := by simp only [Store.removeDatabase, without, mem_numbers_objectsOf_iff_contains]
  lastDatabase := rfl
  lastObject := rfl
  lastColumn := rfl

/-! ### Whether a database is dropped -/

namespace WeaklyBackward

/-- A database is kept because of the newest of its objects that are stuck. -/
theorem dropDatabase_of_isStuck (hb : s.WeaklyBackward) (hs : s.Valid)
    (hstuck : ∃ o, s.IsStuck d.id o) :
    ∃ o, s.IsStuck d.id o ∧ (∀ o', s.IsStuck d.id o' → o'.id ≤ o.id) ∧
      s.dropDatabase d = .error ⟨some (.dropRefused o.kind o.name),
        .constraintViolation (.dropDatabase d.name o.kind o.name)⟩ := by
  have hread : ∃ o ∈ s.objectsOf d.id,
      s.isStuck ((s.objectsOf d.id).map (·.id)) o.id = true := by
    obtain ⟨o, ho⟩ := hstuck
    exact ⟨o, isStuck_iff.mp ho⟩
  obtain ⟨o, ho, hread, hnewest, hfind⟩ := hs.exists_newest hread
  refine ⟨o, isStuck_iff.mpr ⟨ho, hread⟩, fun o' ho' => ?_, ?_⟩
  · obtain ⟨hmem, hread⟩ := isStuck_iff.mp ho'
    exact hnewest o' hmem hread
  · rw [hb.dropDatabase_eq_match hs, hfind]

/-- A database none of whose objects is stuck is dropped with all that belongs to it. -/
theorem dropDatabase_of_not_isStuck (hb : s.WeaklyBackward) (hs : s.Valid)
    (hfree : ¬ ∃ o, s.IsStuck d.id o) :
    ∃ s', s.dropDatabase d = .ok s' ∧ s'.IsLeftWithout s d.id := by
  have hnone : (s.objectsOf d.id).reverse.find? (fun o =>
      s.isStuck ((s.objectsOf d.id).map (·.id)) o.id) = none :=
    List.find?_eq_none.mpr fun o hmem hread =>
      hfree ⟨o, isStuck_iff.mpr ⟨List.mem_reverse.mp hmem, hread⟩⟩
  refine ⟨_, ?_, hs.isLeftWithout d⟩
  rw [hb.dropDatabase_eq_match hs, hnone]

end WeaklyBackward

/-- A database with an object that a view outside holds is not dropped, because of the newest such
object. -/
theorem Backward.dropDatabase_of_isHeld (hb : s.Backward) (hs : s.Valid)
    (hheld : ∃ o, s.IsHeld d.id o) :
    ∃ o, s.IsHeld d.id o ∧ (∀ o', s.IsHeld d.id o' → o'.id ≤ o.id) ∧
      s.dropDatabase d = .error ⟨some (.dropRefused o.kind o.name),
        .constraintViolation (.dropDatabase d.name o.kind o.name)⟩ := by
  simp only [← hb.isStuck_iff_isHeld] at hheld ⊢
  exact hb.weaklyBackward.dropDatabase_of_isStuck hs hheld

/-- A database none of whose objects is held is dropped. -/
theorem Backward.dropDatabase_of_not_isHeld (hb : s.Backward) (hs : s.Valid)
    (hfree : ¬ ∃ o, s.IsHeld d.id o) :
    ∃ s', s.dropDatabase d = .ok s' ∧ s'.IsLeftWithout s d.id := by
  simp only [← hb.isStuck_iff_isHeld] at hfree
  exact hb.weaklyBackward.dropDatabase_of_not_isStuck hs hfree

end Store

namespace Session

variable {s : Store} {d : DatabaseRow} (x : Session)

/-! ### The request -/

/-- A name that no database has. -/
theorem handle_dropDatabase_of_notMem {name : String} (hname : ∀ d ∈ s.databases, d.name ≠ name) :
    x.handle (.dropDatabase name) (.ready s) =
      ⟨.error (.notFound .database name), [], x, .ready s⟩ := by
  have hnone : s.database? name = none := by
    simpa [Store.database?] using hname
  have hlookUp : lookUpDatabase name s = .error (.of (.notFound .database name)) := by
    rw [lookUpDatabase, requireStorable_text, ok_bind, Label.stored?, Option.bind_some, hnone]
  rw [handle_eq, attempt, run_dropDatabase, hlookUp, error_bind]
  rfl

/-- What becomes of a request for a database that exists is what becomes of the change of the store.
-/
theorem handle_dropDatabase_of_mem (hs : s.Valid) (hd : d ∈ s.databases) :
    x.handle (.dropDatabase d.name) (.ready s) =
      match s.dropDatabase d with
      | .ok s' =>
        ⟨.ok none, [.droppedDatabase d.name (s.objectsOf d.id).length],
          { x with current := x.current.filter (·.id ≠ d.id) }, .ready s'⟩
      | .error f => ⟨.error f.error, f.note.toList, x, .ready s⟩ := by
  rw [handle_eq, attempt, run_dropDatabase, lookUpDatabase_of_mem hs hd, ok_bind]
  cases s.dropDatabase d <;> rfl

/-- A view outside is named together with the newest object that it reads from. -/
theorem answer_dropDatabase_of_isHeld (hs : s.Valid) (hb : s.Backward) (hd : d ∈ s.databases)
    (hheld : ∃ o, s.IsHeld d.id o) :
    ∃ o, s.IsHeld d.id o ∧ (∀ o', s.IsHeld d.id o' → o'.id ≤ o.id) ∧
      (x.handle (.dropDatabase d.name) (.ready s)).answer =
        .error (.constraintViolation (.dropDatabase d.name o.kind o.name)) := by
  obtain ⟨o, ho, hnewest, hdrop⟩ := hb.dropDatabase_of_isHeld hs hheld
  refine ⟨o, ho, hnewest, ?_⟩
  rw [x.handle_dropDatabase_of_mem hs hd, hdrop]

/-- Nothing outside reads from the database. -/
theorem handle_dropDatabase_of_not_isHeld (hs : s.Valid) (hb : s.Backward) (hd : d ∈ s.databases)
    (hfree : ¬ ∃ o, s.IsHeld d.id o) :
    ∃ s', s'.IsLeftWithout s d.id ∧ x.handle (.dropDatabase d.name) (.ready s) =
      ⟨.ok none, [.droppedDatabase d.name (s.objectsOf d.id).length],
        { x with current := x.current.filter (·.id ≠ d.id) }, .ready s'⟩ := by
  obtain ⟨s', hdrop, hleft⟩ := hb.dropDatabase_of_not_isHeld hs hfree
  refine ⟨s', hleft, ?_⟩
  rw [x.handle_dropDatabase_of_mem hs hd, hdrop]

/-- The request is not refused for want of a database that exists. -/
theorem answer_dropDatabase_ne_notFound (hs : s.Valid) (hb : s.Backward) (hd : d ∈ s.databases) :
    (x.handle (.dropDatabase d.name) (.ready s)).answer ≠ .error (.notFound .database d.name) := by
  by_cases hheld : ∃ o, s.IsHeld d.id o
  · obtain ⟨o, -, -, hanswer⟩ := x.answer_dropDatabase_of_isHeld hs hb hd hheld
    simp [hanswer]
  · obtain ⟨s', -, heq⟩ := x.handle_dropDatabase_of_not_isHeld hs hb hd hheld
    simp [heq]

/-- A refusal because of a view names the newest object that is held. -/
theorem exists_isHeld_of_answer (hs : s.Valid) (hb : s.Backward) (hd : d ∈ s.databases)
    {restriction : Restriction}
    (h : (x.handle (.dropDatabase d.name) (.ready s)).answer =
      .error (.constraintViolation restriction)) :
    ∃ o, s.IsHeld d.id o ∧ (∀ o', s.IsHeld d.id o' → o'.id ≤ o.id) ∧
      restriction = .dropDatabase d.name o.kind o.name := by
  by_cases hheld : ∃ o, s.IsHeld d.id o
  · obtain ⟨o, ho, hnewest, hanswer⟩ := x.answer_dropDatabase_of_isHeld hs hb hd hheld
    rw [hanswer] at h
    cases h
    exact ⟨o, ho, hnewest, rfl⟩
  · obtain ⟨s', -, heq⟩ := x.handle_dropDatabase_of_not_isHeld hs hb hd hheld
    rw [heq] at h
    cases h

/-! ### The selection -/

/-- A selection of the database that is dropped is given up. -/
theorem filter_current_of_eq {current : Option Selection} (h : current.map (·.id) = some d.id) :
    current.filter (·.id ≠ d.id) = none := by
  obtain ⟨sel, rfl, hid⟩ := Option.map_eq_some_iff.mp h
  rw [Option.filter_some, if_neg (by simpa using hid)]

/-- A selection of another database is kept. -/
theorem filter_current_of_ne {current : Option Selection} (h : current.map (·.id) ≠ some d.id) :
    current.filter (·.id ≠ d.id) = current := by
  cases current with
  | none => rfl
  | some sel =>
    have hne : sel.id ≠ d.id := fun hid => h (congrArg some hid)
    rw [Option.filter_some, if_pos (decide_eq_true hne)]

end Session

open Session

namespace Catalog

/-- **Dropping a database.** On every store that comes up in a run, whichever session asks for it:
that a database is dropped is refused for want of a database exactly if none has the name. If there
is one, it is refused because of a view exactly if a view outside of the database reads from an
object inside, and then the message names the newest such object. Otherwise the database is dropped
with all that belongs to it, and the session that had selected it has selected nothing. -/
theorem databases_drop_whole (sessions : List Session) (es : List Event) :
    ∃ s, ((start sessions).run es).2.access = .ready s ∧ ∀ (x : Session) (name : String),
      let o := x.handle (.dropDatabase name) (.ready s)
      (o.answer = .error (.notFound .database name) ↔ ∀ d ∈ s.databases, d.name ≠ name) ∧
      ∀ d ∈ s.databases, d.name = name →
        ((∃ restriction, o.answer = .error (.constraintViolation restriction)) ↔
          ∃ e ∈ s.dependencies, s.Contains d.id e.objectId ∧ ¬ s.Contains d.id e.viewId) ∧
        (∀ restriction, o.answer = .error (.constraintViolation restriction) →
          ∃ held, s.IsHeld d.id held ∧ (∀ held', s.IsHeld d.id held' → held'.id ≤ held.id) ∧
            restriction.message = "cannot drop database " ++ inBackquotes name ++ ": " ++
              held.kind.word ++ " " ++ inBackquotes held.name ++
                " is referenced by a view in another database") ∧
        ((∀ e ∈ s.dependencies, s.Contains d.id e.objectId → s.Contains d.id e.viewId) →
          o.answer = .ok none ∧ (∃ s', o.access = .ready s' ∧ s'.IsLeftWithout s d.id) ∧
            (x.current.map (·.id) = some d.id → o.session = { x with current := none }) ∧
            (x.current.map (·.id) ≠ some d.id → o.session = x)) := by
  obtain ⟨s, hs, hvalid, hb⟩ :=
    run_backward (c := start sessions) rfl Store.valid_empty Store.backward_empty es
  refine ⟨s, hs, fun x name => ?_⟩
  intro o
  refine ⟨⟨fun hanswer d hd hname => ?_, fun hname => ?_⟩, ?_⟩
  · subst hname
    exact x.answer_dropDatabase_ne_notFound hvalid hb hd hanswer
  · exact congrArg Outcome.answer (x.handle_dropDatabase_of_notMem hname)
  · rintro d hd rfl
    rw [← Store.exists_isHeld_iff]
    refine ⟨⟨fun ⟨_, hanswer⟩ => ?_, fun hheld => ?_⟩, fun restriction hanswer => ?_,
      fun hout => ?_⟩
    · obtain ⟨held, hheld, -⟩ := x.exists_isHeld_of_answer hvalid hb hd hanswer
      exact ⟨held, hheld⟩
    · obtain ⟨held, -, -, hanswer⟩ := x.answer_dropDatabase_of_isHeld hvalid hb hd hheld
      exact ⟨_, hanswer⟩
    · obtain ⟨held, hheld, hnewest, rfl⟩ := x.exists_isHeld_of_answer hvalid hb hd hanswer
      exact ⟨held, hheld, hnewest, rfl⟩
    -- no view outside is left to hold an object
    · have hfree : ¬ ∃ held, s.IsHeld d.id held := by
        rw [Store.exists_isHeld_iff]
        exact fun ⟨e, he, hin, hview⟩ => hview (hout e he hin)
      obtain ⟨s', hs', heq⟩ := x.handle_dropDatabase_of_not_isHeld hvalid hb hd hfree
      have hsession : o.session = { x with current := x.current.filter (·.id ≠ d.id) } :=
        congrArg Outcome.session heq
      refine ⟨congrArg Outcome.answer heq, ⟨s', congrArg Outcome.access heq, hs'⟩,
        fun hcurrent => ?_, fun hcurrent => ?_⟩
      · rw [hsession, filter_current_of_eq hcurrent]
      · rw [hsession, filter_current_of_ne hcurrent]

end Catalog

end SchemaCatalog
