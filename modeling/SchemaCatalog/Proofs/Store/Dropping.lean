import Mathlib.Data.List.Find
import SchemaCatalog.Proofs.Store.History

/-!
# Dropping from the newest object on

As long as views read from what has been looked up for them, they are newer than what they read
from (`Store.Backward`). Numbers that a caller gives may include that of the new view itself, and
then views are only known not to be older (`Store.WeaklyBackward`).

Therefore objects that are dropped one by one, the newest first, do not stand in each other's way:
when the turn of an object comes, those of them that read from it are gone, except for itself. What
makes the change fail is the first of the objects that reads from itself, or that a view reads from
which is not to be dropped along with it (`Store.WeaklyBackward.dropObjects_eq`).
-/

namespace SchemaCatalog.Store

variable {s s' : Store}

/-! ### Views are newer than what they read from -/

/-- A view that an edit adds is the newest object. It reads from objects that were there before, or
from itself if its numbers were given. -/
theorem Edit.mem_dependencies {source : ViewSource} (h : Edit source s s') {e : Dependency}
    (he : e ∈ s'.dependencies) :
    e ∈ s.dependencies ∨ e.viewId = s.lastObject + 1 ∧
      (e.objectId ∈ s.objects.map (·.id) ∨ source = .given ∧ e.objectId = e.viewId) := by
  cases h with
  | insertDatabase hrow =>
    obtain ⟨-, rfl, rfl⟩ := insertDatabase?_eq_some_iff.mp hrow
    exact .inl he
  | insertTable hrow =>
    obtain ⟨-, -, rfl, rfl⟩ := insertObject?_eq_some_iff.mp hrow
    exact .inl he
  | insertView hrow hdeps hadmits =>
    obtain ⟨-, -, rfl, rfl⟩ := insertObject?_eq_some_iff.mp hrow
    obtain ⟨-, hexist, -, rfl⟩ := insertDependencies?_eq_some_iff.mp hdeps
    refine (List.mem_append.mp he).imp_right fun hnew => ?_
    obtain ⟨id, hid, rfl⟩ := List.mem_map.mp hnew
    refine ⟨rfl, ?_⟩
    cases source with
    | noView => exact hadmits.elim
    | resolved => exact .inl (hadmits id hid)
    | given =>
      -- the view exists by the time its dependencies are added
      obtain ⟨o, ho, hnumber⟩ := List.mem_map.mp (hexist id hid)
      rcases List.mem_append.mp ho with hold | hview
      · exact .inl (List.mem_map.mpr ⟨o, hold, hnumber⟩)
      · rw [List.mem_singleton.mp hview] at hnumber
        exact .inr ⟨rfl, hnumber.symm⟩
  | insertColumn hrow =>
    obtain ⟨name, dataType, -, -, -, -, rfl, rfl⟩ := insertColumn?_eq_some_iff.mp hrow
    exact .inl he
  | removeObject hremove =>
    obtain ⟨-, rfl⟩ := removeObject?_eq_some_iff.mp hremove
    exact .inl (List.mem_filter.mp he).1
  | removeColumn columnId => exact .inl he
  | removeDatabase _ => exact .inl he

/-- Every view is newer than what it reads from. -/
def Backward (s : Store) : Prop := ∀ e ∈ s.dependencies, e.objectId < e.viewId

theorem backward_empty : Backward empty := fun _ he => absurd he List.not_mem_nil

theorem Edit.backward (h : Edit .resolved s s') (hs : s.Valid) (hb : s.Backward) :
    s'.Backward := by
  intro e he
  rcases h.mem_dependencies he with hold | ⟨hview, hobject | ⟨hgiven, -⟩⟩
  · exact hb e hold
  · obtain ⟨o, ho, hid⟩ := List.mem_map.mp hobject
    rw [hview, ← hid]
    exact Int.lt_add_one_of_le (hs.object_le ho)
  · exact absurd hgiven (by simp)

theorem Edits.backward (h : Edits .resolved s s') (hs : s.Valid) (hb : s.Backward) :
    s'.Backward := by
  induction h with
  | refl => exact hb
  | tail hedits hstep ih => exact hstep.backward (Edits.valid hedits hs) ih

/-- No view is older than what it reads from, which may be the view itself. -/
def WeaklyBackward (s : Store) : Prop := ∀ e ∈ s.dependencies, e.objectId ≤ e.viewId

theorem weaklyBackward_empty : WeaklyBackward empty := fun _ he => absurd he List.not_mem_nil

theorem Backward.weaklyBackward (hb : s.Backward) : s.WeaklyBackward :=
  fun e he => Int.le_of_lt (hb e he)

theorem Edit.weaklyBackward {source : ViewSource} (h : Edit source s s') (hs : s.Valid)
    (hb : s.WeaklyBackward) : s'.WeaklyBackward := by
  intro e he
  rcases h.mem_dependencies he with hold | ⟨hview, hobject | ⟨-, hself⟩⟩
  · exact hb e hold
  · obtain ⟨o, ho, hid⟩ := List.mem_map.mp hobject
    rw [hview, ← hid]
    exact Int.le_of_lt (Int.lt_add_one_of_le (hs.object_le ho))
  · exact Int.le_of_eq hself

/-! ### Stores without some objects -/

/-- A store without some objects and what belongs to them. -/
def without (s : Store) (ids : List Id) : Store :=
  { s with
    objects := s.objects.filter (·.id ∉ ids)
    tables := s.tables.filter (· ∉ ids)
    views := s.views.filter (·.id ∉ ids)
    columns := s.columns.filter (·.tableId ∉ ids)
    dependencies := s.dependencies.filter (·.viewId ∉ ids) }

@[simp] theorem without_nil : s.without [] = s := by simp [without]

@[simp] theorem without_without (ids ids' : List Id) :
    (s.without ids).without ids' = s.without (ids ++ ids') := by
  simp [without, List.filter_filter, Bool.and_comm]

theorem removeObject?_eq_none {objectId : Id} (h : s.isReferenced objectId = true) :
    s.removeObject? objectId = none := by
  rw [removeObject?, if_pos h]

theorem removeObject?_eq_some {objectId : Id} (h : s.isReferenced objectId = false) :
    s.removeObject? objectId = some (s.without [objectId]) := by
  rw [removeObject?, if_neg (by simp [h])]
  simp [without]

/-- The columns of an object that is left are left. -/
theorem columnsOf_without {ids : List Id} {objectId : Id} (h : objectId ∉ ids) :
    (s.without ids).columnsOf objectId = s.columnsOf objectId := by
  rw [columnsOf, columnsOf, without]
  refine filter_filter_eq fun c _ htable => ?_
  rwa [htable]

/-! ### Dropping objects -/

/-- Whether something that is not among the given objects reads from an object. -/
def isReadByOthers (s : Store) (ids : List Id) (objectId : Id) : Bool :=
  s.dependencies.any fun e => e.objectId = objectId ∧ e.viewId ∉ ids

theorem isReadByOthers_eq_true_iff {ids : List Id} {objectId : Id} :
    s.isReadByOthers ids objectId = true ↔
      ∃ e ∈ s.dependencies, e.objectId = objectId ∧ e.viewId ∉ ids := by
  simp [isReadByOthers, List.any_eq_true]

/-- Whether an object reads from itself, or something that is not among the given objects reads from
it. -/
def isStuck (s : Store) (ids : List Id) (objectId : Id) : Bool :=
  s.dependencies.any fun e => e.objectId = objectId ∧ (e.viewId = objectId ∨ e.viewId ∉ ids)

theorem isStuck_eq_true_iff {ids : List Id} {objectId : Id} :
    s.isStuck ids objectId = true ↔
      ∃ e ∈ s.dependencies, e.objectId = objectId ∧ (e.viewId = objectId ∨ e.viewId ∉ ids) := by
  simp [isStuck, List.any_eq_true]

/-- Nothing reads from itself where views are newer than what they read from. -/
theorem Backward.isStuck_eq (hb : s.Backward) (ids : List Id) :
    s.isStuck ids = s.isReadByOthers ids := by
  funext objectId
  rw [Bool.eq_iff_iff, isStuck_eq_true_iff, isReadByOthers_eq_true_iff]
  constructor
  · rintro ⟨e, he, hobject, hself | hout⟩
    · exact absurd (hobject.trans hself.symm) (Int.ne_of_lt (hb e he))
    · exact ⟨e, he, hobject, hout⟩
  · rintro ⟨e, he, hobject, hout⟩
    exact ⟨e, he, hobject, .inr hout⟩

/-- The objects of a database in the order in which they are dropped. -/
theorem Valid.pairwise_newest_first (h : s.Valid) (databaseId : Id) :
    (s.objectsOf databaseId).reverse.Pairwise fun a b => b.id < a.id :=
  List.pairwise_reverse.mpr
    ((List.pairwise_map.mp h.object_numbers.increasing).sublist List.filter_sublist)

/-- Objects that are dropped from the newest on are dropped all, or the first of them stays that is
stuck. -/
theorem WeaklyBackward.dropObjects_eq (hb : s.WeaklyBackward) {database : String}
    {rows : List ObjectRow} (hrows : rows.Pairwise fun a b => b.id < a.id) :
    s.dropObjects database rows =
      match rows.find? fun o => s.isStuck (rows.map (·.id)) o.id with
      | some o =>
        .error ⟨some (.dropRefused o.kind o.name),
          .constraintViolation (.dropDatabase database o.kind o.name)⟩
      | none => .ok (s.without (rows.map (·.id))) := by
  induction rows generalizing s with
  | nil => simp
  | cons o rest ih =>
    obtain ⟨hnewest, hrest⟩ := List.pairwise_cons.mp hrows
    -- who else reads from the newest object is newer, and therefore not among the objects
    have hhead : s.isStuck ((o :: rest).map (·.id)) o.id = s.isReferenced o.id := by
      rw [Bool.eq_iff_iff, isReferenced_eq_true_iff, isStuck_eq_true_iff]
      constructor
      · rintro ⟨e, he, hobject, -⟩
        exact ⟨e, he, hobject⟩
      · rintro ⟨e, he, hobject⟩
        refine ⟨e, he, hobject, or_iff_not_imp_left.mpr fun hother hmem => ?_⟩
        obtain ⟨o', ho', hid⟩ := List.mem_map.mp ((List.mem_cons.mp hmem).resolve_left hother)
        have hlt : e.viewId < e.objectId := hid ▸ hobject ▸ hnewest o' ho'
        exact absurd (hb e he) (Int.not_le.mpr hlt)
    rw [dropObjects_cons]
    cases href : s.isReferenced o.id with
    | true => rw [removeObject?_eq_none href, List.find?_cons, hhead, href]
    | false =>
      have hb' : (s.without [o.id]).WeaklyBackward :=
        fun e he => hb e (List.mem_filter.mp he).1
      -- who reads from an older object is another one now, or has been dropped
      have hstuck : ∀ o' ∈ rest, (s.without [o.id]).isStuck (rest.map (·.id)) o'.id =
          s.isStuck ((o :: rest).map (·.id)) o'.id := by
        intro o' ho'
        have hne : o'.id ≠ o.id := Int.ne_of_lt (hnewest o' ho')
        simp only [isStuck, without, List.any_filter]
        congr 1
        funext e
        by_cases hself : e.viewId = o'.id
        · simp [hself, hne]
        · simp [hself, Bool.and_left_comm]
      rw [removeObject?_eq_some href, List.find?_cons, hhead, href]
      dsimp only
      rw [ih hb' hrest, List.find?_congr hstuck, without_without]
      rfl

/-- The first of some objects with a property, from the newest on, is the newest with the property.
-/
theorem le_of_find?_eq_some {rows : List ObjectRow}
    (hrows : rows.Pairwise fun a b => b.id < a.id) {p : ObjectRow → Bool} {o : ObjectRow}
    (ho : rows.find? p = some o) : ∀ o' ∈ rows, p o' = true → o'.id ≤ o.id := by
  intro o' ho' hp
  obtain ⟨-, before, after, rfl, hbefore⟩ := List.find?_eq_some_iff_append.mp ho
  have hafter : ∀ a ∈ after, a.id < o.id :=
    (List.pairwise_cons.mp (List.pairwise_append.mp hrows).2.1).1
  rcases List.mem_append.mp ho' with hmem | hmem
  · have hnot := hbefore o' hmem
    simp [hp] at hnot
  · rcases List.mem_cons.mp hmem with rfl | hmem
    · exact Int.le_refl _
    · exact Int.le_of_lt (hafter o' hmem)

/-- A database is dropped with all its objects, unless one of them is stuck. Then the newest of
these objects stays. -/
theorem WeaklyBackward.dropDatabase_eq_match (hb : s.WeaklyBackward) (hs : s.Valid)
    (d : DatabaseRow) :
    s.dropDatabase d =
      match (s.objectsOf d.id).reverse.find? fun o =>
          s.isStuck ((s.objectsOf d.id).map (·.id)) o.id with
      | some o =>
        .error ⟨some (.dropRefused o.kind o.name),
          .constraintViolation (.dropDatabase d.name o.kind o.name)⟩
      | none => .ok ((s.without ((s.objectsOf d.id).map (·.id))).removeDatabase d.id) := by
  -- it does not matter in which order the numbers of the objects are given
  have hstuck : s.isStuck ((s.objectsOf d.id).reverse.map (·.id)) =
      s.isStuck ((s.objectsOf d.id).map (·.id)) := by
    funext id
    simp [isStuck]
  have hwithout : s.without ((s.objectsOf d.id).reverse.map (·.id)) =
      s.without ((s.objectsOf d.id).map (·.id)) := by
    simp [without]
  have hobjects : s.dropObjects d.name (s.objectsOf d.id).reverse = _ :=
    hb.dropObjects_eq (hs.pairwise_newest_first d.id)
  rw [dropDatabase_eq, hobjects, hstuck, hwithout]
  cases (s.objectsOf d.id).reverse.find? fun o =>
      s.isStuck ((s.objectsOf d.id).map (·.id)) o.id <;> rfl

/-- Where views are newer than what they read from, only what reads from an object of a database and
is not in it keeps the database. -/
theorem Backward.dropDatabase_eq_match (hb : s.Backward) (hs : s.Valid) (d : DatabaseRow) :
    s.dropDatabase d =
      match (s.objectsOf d.id).reverse.find? fun o =>
          s.isReadByOthers ((s.objectsOf d.id).map (·.id)) o.id with
      | some o =>
        .error ⟨some (.dropRefused o.kind o.name),
          .constraintViolation (.dropDatabase d.name o.kind o.name)⟩
      | none => .ok ((s.without ((s.objectsOf d.id).map (·.id))).removeDatabase d.id) := by
  rw [hb.weaklyBackward.dropDatabase_eq_match hs, hb.isStuck_eq]

/-- Of the objects of a database with a property, the first one to be dropped is the newest. -/
theorem Valid.exists_newest (hs : s.Valid) {databaseId : Id} {p : ObjectRow → Bool}
    (h : ∃ o ∈ s.objectsOf databaseId, p o = true) :
    ∃ o ∈ s.objectsOf databaseId, p o = true ∧
      (∀ o' ∈ s.objectsOf databaseId, p o' = true → o'.id ≤ o.id) ∧
      (s.objectsOf databaseId).reverse.find? p = some o := by
  have hsome : ((s.objectsOf databaseId).reverse.find? p).isSome = true := by
    obtain ⟨o, ho, hp⟩ := h
    exact List.find?_isSome.mpr ⟨o, List.mem_reverse.mpr ho, hp⟩
  obtain ⟨o, ho⟩ := Option.isSome_iff_exists.mp hsome
  have hnewest := le_of_find?_eq_some (hs.pairwise_newest_first databaseId) ho
  refine ⟨o, List.mem_reverse.mp (List.mem_of_find?_eq_some ho), List.find?_some ho, ?_, ho⟩
  exact fun o' ho' hp => hnewest o' (List.mem_reverse.mpr ho') hp

end SchemaCatalog.Store
