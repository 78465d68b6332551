import SchemaCatalog.Proofs.Catalog.Atomicity
import SchemaCatalog.Proofs.Catalog.Consistency
import SchemaCatalog.Proofs.Catalog.Removal
import SchemaCatalog.Proofs.Named.Sessions
import SchemaCatalog.Proofs.Session.Rounds

/-!
# Objects that are dropped by name

`Catalog.objects_dropped_in_order` says of any store for which of its names a `DROP` is refused, and
what is left of the store otherwise. The order of the names matters: a view that reads from an
object does not stand in the way if it comes first.

When the turn of a name comes, the objects of the names before it are gone with what belongs to them
(`Store.without`), and so are the dependencies of the views among them. Whether the name can be
dropped is therefore said of the store as it was and of the names before (`Store.DropFails`).
-/

namespace SchemaCatalog

namespace Store

variable {s : Store} {databaseId : Id} {kind : ObjectKind} {before : List String} {name : String}
  {o : ObjectRow}

/-! ### Objects of given names -/

/-- The objects of a kind in a database that have one of some names. -/
def objectsCalled (s : Store) (databaseId : Id) (kind : ObjectKind) (names : List String) :
    List ObjectRow :=
  s.objects.filter fun o => o.databaseId = databaseId ∧ o.kind = kind ∧ o.name ∈ names

/-- The numbers of these objects. -/
def numbersCalled (s : Store) (databaseId : Id) (kind : ObjectKind) (names : List String) :
    List Id := (s.objectsCalled databaseId kind names).map (·.id)

@[simp] theorem numbersCalled_nil : s.numbersCalled databaseId kind [] = [] := by
  simp [numbersCalled, objectsCalled]

theorem mem_numbersCalled_iff {id : Id} :
    id ∈ s.numbersCalled databaseId kind before ↔
      ∃ o ∈ s.objects, (o.databaseId = databaseId ∧ o.kind = kind ∧ o.name ∈ before) ∧
        o.id = id := by
  simp [numbersCalled, objectsCalled, and_assoc]

/-- An object is called by some names exactly if its number is. -/
theorem Valid.mem_numbersCalled_iff_of_mem (hs : s.Valid) (ho : o ∈ s.objects) :
    o.id ∈ s.numbersCalled databaseId kind before ↔
      o.databaseId = databaseId ∧ o.kind = kind ∧ o.name ∈ before := by
  rw [mem_numbersCalled_iff]
  constructor
  · rintro ⟨o', ho', hcalled, hid⟩
    rwa [← hs.object_numbers.eq_of_number_eq ho' ho hid]
  · exact fun hcalled => ⟨o, ho, hcalled, rfl⟩

/-- One more name calls one more object. -/
theorem Valid.mem_numbersCalled_concat_iff (hs : s.Valid) (ho : o ∈ s.objects)
    (hdb : o.databaseId = databaseId) (hkind : o.kind = kind) {id : Id} :
    id ∈ s.numbersCalled databaseId kind (before ++ [o.name]) ↔
      id ∈ s.numbersCalled databaseId kind before ++ [o.id] := by
  rw [List.mem_append, List.mem_singleton]
  constructor
  · intro hid
    obtain ⟨o', ho', ⟨hdb', hkind', hname⟩, rfl⟩ := mem_numbersCalled_iff.mp hid
    rcases List.mem_append.mp hname with hname | hname
    · exact .inl ((hs.mem_numbersCalled_iff_of_mem ho').mpr ⟨hdb', hkind', hname⟩)
    · obtain hname := List.mem_singleton.mp hname
      rw [List.inj_on_of_nodup_map hs.object_names ho' ho (Prod.ext (hdb'.trans hdb.symm) hname)]
      exact .inr rfl
  · rintro (hid | rfl)
    · obtain ⟨o', ho', ⟨hdb', hkind', hname⟩, rfl⟩ := mem_numbersCalled_iff.mp hid
      exact (hs.mem_numbersCalled_iff_of_mem ho').mpr
        ⟨hdb', hkind', List.mem_append_left _ hname⟩
    · exact (hs.mem_numbersCalled_iff_of_mem ho).mpr
        ⟨hdb, hkind, List.mem_append_right _ List.mem_cons_self⟩

/-! ### What is left without them -/

/-- It does not matter in which order and how often objects are given. -/
theorem without_congr {ids ids' : List Id} (h : ∀ id, id ∈ ids ↔ id ∈ ids') :
    s.without ids = s.without ids' := by
  simp only [without, h]

theorem isReferenced_without {ids : List Id} {objectId : Id} :
    (s.without ids).isReferenced objectId = s.isReadByOthers ids objectId := by
  simp only [isReferenced, isReadByOthers, without, List.any_filter]
  congr 1
  funext e
  simp [Bool.and_comm]

/-- What is not there is not found among what is left. -/
theorem objectOfKind?_without_of_absent {ids : List Id}
    (habsent : ∀ o ∈ s.objects, o.databaseId = databaseId → o.kind = kind → o.name ≠ name) :
    (s.without ids).objectOfKind? databaseId kind name = none := by
  refine List.find?_eq_none.mpr fun o ho hfound => ?_
  obtain ⟨hdb, hkind, hname⟩ := of_decide_eq_true hfound
  exact habsent o (List.mem_filter.mp ho).1 hdb hkind hname

/-- Nothing is found by a name that has been called. -/
theorem objectOfKind?_without_of_mem (hname : name ∈ before) :
    (s.without (s.numbersCalled databaseId kind before)).objectOfKind? databaseId kind name =
      none := by
  refine List.find?_eq_none.mpr fun o ho hfound => ?_
  obtain ⟨ho, hleft⟩ := List.mem_filter.mp ho
  obtain ⟨hdb, hkind, rfl⟩ := of_decide_eq_true hfound
  exact of_decide_eq_true hleft (mem_numbersCalled_iff.mpr ⟨o, ho, ⟨hdb, hkind, hname⟩, rfl⟩)

/-- By any other name the same object is found. -/
theorem Valid.objectOfKind?_without_of_notMem (hs : s.Valid) (hname : name ∉ before) :
    (s.without (s.numbersCalled databaseId kind before)).objectOfKind? databaseId kind name =
      s.objectOfKind? databaseId kind name := by
  rw [objectOfKind?, without, List.find?_filter]
  refine List.find?_congr fun o ho => decide_eq_decide.mpr ?_
  rw [decide_eq_true_eq, decide_eq_true_eq, and_iff_right_iff_imp]
  rintro ⟨-, -, rfl⟩ hcalled
  exact hname ((hs.mem_numbersCalled_iff_of_mem ho).mp hcalled).2.2

/-! ### Names that fail -/

/-- A name cannot be dropped after the names `before`. -/
inductive DropFails (s : Store) (databaseId : Id) (kind : ObjectKind) (before : List String) :
    String → CatalogError → Prop
  /-- No object of the kind has the name. -/
  | absent {name : String}
      (habsent : ∀ o ∈ s.objects, o.databaseId = databaseId → o.kind = kind → o.name ≠ name) :
      DropFails s databaseId kind before name (.notFound (.object kind) name)
  /-- The object has been dropped. -/
  | repeated {name : String} (hrepeated : name ∈ before) :
      DropFails s databaseId kind before name (.notFound (.object kind) name)
  /-- A view reads from the object that has not been dropped. -/
  | read {name : String} {o : ObjectRow} (ho : o ∈ s.objects) (hdb : o.databaseId = databaseId)
      (hkind : o.kind = kind) (hname : o.name = name) (hfresh : name ∉ before) {e : Dependency}
      (he : e ∈ s.dependencies) (hobject : e.objectId = o.id)
      (hview : e.viewId ∉ s.numbersCalled databaseId kind before) :
      DropFails s databaseId kind before name (.constraintViolation (.dropObject kind name))

/-- A dependency of a view that cannot have been dropped: when tables are dropped, that of any view,
and when views are dropped, that of a view of another database. -/
theorem Valid.dropFails_of_dependency (hs : s.Valid) (ho : o ∈ s.objects)
    (hdb : o.databaseId = databaseId) (hkind : o.kind = kind) (hfresh : o.name ∉ before)
    {e : Dependency} (he : e ∈ s.dependencies) (hobject : e.objectId = o.id)
    (hview : kind = .table ∨ ¬ s.Contains databaseId e.viewId) :
    s.DropFails databaseId kind before o.name (.constraintViolation (.dropObject kind o.name)) := by
  refine .read ho hdb hkind rfl hfresh he hobject fun hcalled => ?_
  obtain ⟨v, hv, ⟨hdb', hkind', -⟩, hid⟩ := mem_numbersCalled_iff.mp hcalled
  rcases hview with rfl | hout
  · obtain ⟨v', hv', hid', hkind⟩ := hs.exists_view (hs.dependency_view e he)
    rw [hs.object_numbers.eq_of_number_eq hv hv' (hid.trans hid'.symm), hkind] at hkind'
    cases hkind'
  · exact hout ⟨v, hv, hid, hdb'⟩

end Store

namespace Session

variable {x : Session} {s : Store} {d : DatabaseRow} {kind : ObjectKind}

/-- The names of a `DROP` fail as `Store.DropFails` says, and otherwise the objects that they call
are gone with what belongs to them. -/
theorem dropNames_rounds (hs : s.Valid) (databaseId : Id) (kind : ObjectKind) :
    Rounds (fun s' names => dropNames databaseId kind s' (names.map .text))
      (s.DropFails databaseId kind)
      (fun before s' => s' = s.without (s.numbersCalled databaseId kind before)) where
  isLoop := (dropNames_isLoop _ _).map _
  error {before name s' e} h hfails := by
    subst h
    rw [List.map_singleton, dropNames_singleton]
    cases hfails with
    | absent habsent =>
      rw [Store.objectOfKind?_without_of_absent habsent]
      exact ⟨_, rfl, rfl⟩
    | repeated hrepeated =>
      rw [Store.objectOfKind?_without_of_mem hrepeated]
      exact ⟨_, rfl, rfl⟩
    | @read o ho hdb hkind hname hfresh e he hobject hview =>
      subst hdb hkind hname
      rw [hs.objectOfKind?_without_of_notMem hfresh, hs.objectOfKind?_eq_some ho]
      refine ⟨_, if_pos ?_, rfl⟩
      rw [Store.isReferenced_without, Store.isReadByOthers_eq_true_iff]
      exact ⟨e, he, hobject, hview⟩
  ok {before name s'} h hfails := by
    subst h
    have hfresh : name ∉ before := fun hrepeated => hfails _ (.repeated hrepeated)
    obtain ⟨o, ho, rfl, rfl, rfl⟩ : ∃ o ∈ s.objects,
        o.databaseId = databaseId ∧ o.kind = kind ∧ o.name = name := by
      by_contra hnone
      exact hfails _ (.absent fun o ho hdb hkind hname => hnone ⟨o, ho, hdb, hkind, hname⟩)
    have hfree : (s.without (s.numbersCalled o.databaseId o.kind before)).isReferenced o.id =
        false := by
      refine Bool.eq_false_iff.mpr fun href => ?_
      rw [Store.isReferenced_without, Store.isReadByOthers_eq_true_iff] at href
      obtain ⟨e, he, hobject, hview⟩ := href
      exact hfails _ (.read ho rfl rfl rfl hfresh he hobject hview)
    refine ⟨_, ?_, rfl⟩
    rw [List.map_singleton, dropNames_singleton, hs.objectOfKind?_without_of_notMem hfresh,
      hs.objectOfKind?_eq_some ho]
    dsimp only
    rw [hfree, if_neg Bool.false_ne_true, Store.without_without]
    congr 1
    exact Store.without_congr fun id => (hs.mem_numbersCalled_concat_iff ho rfl rfl).symm

/-- A `DROP` in the selected database comes down to the loop. -/
theorem run_drop_of_worksIn (hs : s.Valid) (hx : x.WorksIn s d) (names : List Label) :
    x.run s (.drop kind names) =
      (dropNames d.id kind s names).map fun s' => ⟨s', x.current, none, none⟩ := by
  obtain ⟨sel, hselected, hid⟩ := hx.selected hs
  rw [run_drop, hselected, ok_bind, hid]
  cases dropNames d.id kind s names <;> rfl

end Session

open Session

namespace Catalog

/-- **Dropping objects.** However a catalog has been used, whichever session has selected the
database: a `DROP` is refused because of its first failing name, and then nothing changes. If no
name fails, the objects of these names are gone, with their rows as tables and views, the columns of
the tables, and what the views read from. For tables every dependency is in the way, and those of
views of other databases always are. -/
theorem objects_dropped_in_order (sessions : List Session) (us : List Usage) :
    ∃ s, ((start sessions).useAll us).access = .ready s ∧
      ∀ (x : Session) (d : DatabaseRow) (kind : ObjectKind) (names : List String), x.WorksIn s d →
        let o := x.handle (.drop kind (names.map .text)) (.ready s)
        let fails := s.DropFails d.id kind
        (∀ e, o.answer = .error e ↔ FirstFails fails names e) ∧
        (∀ e, o.answer = .error e → o.session = x ∧ o.access = .ready s) ∧
        (NoneFails fails names →
          o.answer = .ok none ∧ o.session = x ∧
            o.access = .ready (s.without (s.numbersCalled d.id kind names))) ∧
        ∀ before, ∀ object ∈ s.objects, object.databaseId = d.id → object.kind = kind →
          object.name ∉ before → ∀ e ∈ s.dependencies, e.objectId = object.id →
            kind = .table ∨ ¬ s.Contains d.id e.viewId →
            fails before object.name (.constraintViolation (.dropObject kind object.name)) := by
  obtain ⟨s, hs, hvalid⟩ := useAll_ready (c := start sessions) rfl Store.valid_empty us
  refine ⟨s, hs, fun x d kind names hx => ?_⟩
  intro o fails
  have hrounds := dropNames_rounds hvalid d.id kind
  have hnothing : s = s.without (s.numbersCalled d.id kind []) := by simp
  refine ⟨fun e => ?_, fun e he => handle_of_error he, fun hnone => ?_, ?_⟩
  · rw [answer_eq_error_iff (run_drop_of_worksIn hvalid hx _)]
    exact hrounds.error_iff hnothing
  · obtain ⟨s', hall, rfl⟩ := hrounds.exists_ok hnothing hnone
    have heq := handle_of_eq_ok (run_drop_of_worksIn hvalid hx _) hall
    exact ⟨congrArg Outcome.answer heq, congrArg Outcome.session heq, congrArg Outcome.access heq⟩
  · intro before object hobject hdb hkind hfresh e he hid hview
    exact hvalid.dropFails_of_dependency hobject hdb hkind hfresh he hid hview

/-- A view is dropped together with the one that reads from it, if that comes first. The table that
it reads from is not dropped, nor is the view dropped twice. -/
theorem objects_dropped_in_order_views :
    let us : List Usage := [.event (.request 0 (.createDatabase "d")),
      .event (.request 0 (.createTable "t" [])),
      .event (.request 0 (.createView "v" ⟨"q", "q", ["t"]⟩)),
      .event (.request 0 (.createView "w" ⟨"q", "q", ["v", "t"]⟩))]
    let x : Session := { current := some ⟨1, "d"⟩ }
    ∃ s, ((start [{}]).useAll us).access = .ready s ∧
      (x.handle (.drop .view ["w", "v"]) (.ready s)).access = .ready (s.without [2, 3]) ∧
      (x.handle (.drop .view ["v", "w"]) (.ready s)).answer =
        .error (.constraintViolation (.dropObject .view "v")) ∧
      (x.handle (.drop .view ["w", "w"]) (.ready s)).answer =
        .error (.notFound (.object .view) "w") ∧
      (x.handle (.drop .table ["t"]) (.ready s)).answer =
        .error (.constraintViolation (.dropObject .table "t")) := by
  intro us x
  obtain ⟨s, hs, h⟩ := objects_dropped_in_order [{}] us
  have hrows : s.databases = [⟨1, "d"⟩] ∧
      s.objects = [⟨1, .table, "t", 1⟩, ⟨2, .view, "v", 1⟩, ⟨3, .view, "w", 1⟩] ∧
      s.dependencies = [⟨2, 1⟩, ⟨3, 2⟩, ⟨3, 1⟩] := by
    have hstore : ((start [{}]).useAll us).access =
        .ready ⟨[⟨1, "d"⟩], [⟨1, .table, "t", 1⟩, ⟨2, .view, "v", 1⟩, ⟨3, .view, "w", 1⟩], [1],
          [⟨2, "q"⟩, ⟨3, "q"⟩], [], [⟨2, 1⟩, ⟨3, 2⟩, ⟨3, 1⟩], 1, 3, 0⟩ := by
      decide +kernel
    rw [Access.ready.inj (hs.symm.trans hstore)]
    exact ⟨rfl, rfl, rfl⟩
  obtain ⟨hdatabases, hobjects, hdependencies⟩ := hrows
  have hdrop := fun kind names => h x ⟨1, "d"⟩ kind names ⟨by simp [hdatabases], _, rfl, rfl⟩
  -- nothing reads from the newer view, and only that one from the older view
  have hnewer : ∀ o ∈ s.objects, o.name = "w" → ∀ e ∈ s.dependencies, e.objectId ≠ o.id := by
    rw [hobjects, hdependencies]
    decide
  have holder : ∀ o ∈ s.objects, o.name = "v" → ∀ e ∈ s.dependencies, e.objectId = o.id →
      e.viewId ∈ s.numbersCalled 1 .view ["w"] := by
    rw [Store.numbersCalled, Store.objectsCalled, hobjects, hdependencies]
    decide
  have hw : ∀ e, ¬ s.DropFails 1 .view [] "w" e := by
    intro e hfails
    cases hfails with
    | absent habsent => exact habsent ⟨3, .view, "w", 1⟩ (by simp [hobjects]) rfl rfl rfl
    | repeated hrepeated => exact List.not_mem_nil hrepeated
    | read ho _ _ hname _ he hobject _ => exact hnewer _ ho hname _ he hobject
  have hv : ∀ e, ¬ s.DropFails 1 .view ["w"] "v" e := by
    intro e hfails
    cases hfails with
    | absent habsent => exact habsent ⟨2, .view, "v", 1⟩ (by simp [hobjects]) rfl rfl rfl
    | repeated hrepeated => exact absurd hrepeated (by decide)
    | read ho _ _ hname _ he hobject hview => exact hview (holder _ ho hname _ he hobject)
  have hboth : s.numbersCalled 1 .view ["w", "v"] = [2, 3] := by
    rw [Store.numbersCalled, Store.objectsCalled, hobjects]
    rfl
  refine ⟨s, hs, ?_, ?_, ?_, ?_⟩
  · obtain ⟨-, -, hok, -⟩ := hdrop .view ["w", "v"]
    have hall := (hok (noneFails_cons_iff.mpr
      ⟨hw, noneFails_cons_iff.mpr ⟨hv, noneFails_nil⟩⟩)).2.2
    rwa [hboth] at hall
  · refine ((hdrop .view ["v", "w"]).1 _).mpr ⟨[], "v", ["w"], rfl, noneFails_nil, ?_⟩
    exact .read (o := ⟨2, .view, "v", 1⟩) (by simp [hobjects]) rfl rfl rfl List.not_mem_nil
      (e := ⟨3, 2⟩) (by simp [hdependencies]) rfl (by simp)
  · refine ((hdrop .view ["w", "w"]).1 _).mpr
      ⟨["w"], "w", [], rfl, noneFails_cons_iff.mpr ⟨hw, noneFails_nil⟩, ?_⟩
    exact .repeated List.mem_cons_self
  · refine ((hdrop .table ["t"]).1 _).mpr ⟨[], "t", [], rfl, noneFails_nil, ?_⟩
    exact .read (o := ⟨1, .table, "t", 1⟩) (by simp [hobjects]) rfl rfl rfl List.not_mem_nil
      (e := ⟨2, 1⟩) (by simp [hdependencies]) rfl (by simp)

end Catalog

end SchemaCatalog
