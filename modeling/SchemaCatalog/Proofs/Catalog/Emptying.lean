import SchemaCatalog.Proofs.Catalog.Acyclicity
import SchemaCatalog.Proofs.Named.Abstraction
import SchemaCatalog.Proofs.Session.Scope

/-!
# Every catalog can be emptied

However views read from each other, and across whichever databases: a catalog is emptied by dropping
its objects from the newest on, and then its databases in any order
(`Catalog.catalogs_can_be_emptied`). At every moment the newest object is free, because whatever
reads from it would have to be newer still (`Store.Backward.isReferenced_newest`), and what is left
without it is a store of the same kind. A store without objects has no rows besides its databases
(`Store.Valid.hasNoRows`), and each of these can be dropped.
-/

namespace SchemaCatalog

/-- What is looked up is found if nothing else has the property. -/
theorem find?_eq_some_of_unique {α : Type} {p : α → Bool} {l : List α} {a : α} (ha : a ∈ l)
    (hp : p a = true) (hunique : ∀ b ∈ l, p b = true → b = a) : l.find? p = some a := by
  have hsome : (l.find? p).isSome = true := List.find?_isSome.mpr ⟨a, ha, hp⟩
  obtain ⟨b, hb⟩ := Option.isSome_iff_exists.mp hsome
  rw [hb, hunique b (List.mem_of_find?_eq_some hb) (List.find?_some hb)]

/-- The first of some elements is left out, and the others stay. -/
theorem perm_filter_of_perm_cons {α : Type} {p : α → Bool} {a : α} {rest l : List α}
    (h : (a :: rest).Perm l) (ha : p a = false) (hrest : ∀ b ∈ rest, p b = true) :
    rest.Perm (l.filter p) := by
  have hperm := h.filter p
  rwa [List.filter_cons_of_neg (by simp [ha]), List.filter_eq_self.mpr hrest] at hperm

namespace Store

variable {s : Store} {d : DatabaseRow} {o : ObjectRow}

/-! ### Looking up what is there -/

theorem Valid.database?_eq_some (hs : s.Valid) (hd : d ∈ s.databases) :
    s.database? d.name = some d := by
  refine find?_eq_some_of_unique hd (decide_eq_true rfl) fun d' hd' hname => ?_
  exact List.inj_on_of_nodup_map hs.database_names hd' hd (of_decide_eq_true hname)

theorem Valid.objectOfKind?_eq_some (hs : s.Valid) (ho : o ∈ s.objects) :
    s.objectOfKind? o.databaseId o.kind o.name = some o := by
  refine find?_eq_some_of_unique ho (decide_eq_true ⟨rfl, rfl, rfl⟩) fun o' ho' hsame => ?_
  obtain ⟨hdb, -, hname⟩ := of_decide_eq_true hsame
  exact List.inj_on_of_nodup_map hs.object_names ho' ho (Prod.ext hdb hname)

/-! ### The newest object -/

/-- No view reads from the newest object. -/
theorem Backward.isReferenced_newest (hb : s.Backward) (hs : s.Valid)
    (hnewest : ∀ o' ∈ s.objects, o'.id ≤ o.id) : s.isReferenced o.id = false := by
  refine Bool.eq_false_iff.mpr fun href => ?_
  obtain ⟨e, he, hobject⟩ := isReferenced_eq_true_iff.mp href
  obtain ⟨v, hv, hid, -⟩ := hs.exists_view (hs.dependency_view e he)
  have hnewer : o.id < v.id := hid ▸ hobject ▸ hb e he
  exact absurd (hnewest v hv) (Int.not_le.mpr hnewer)

/-! ### Stores without rows -/

/-- A store has no rows in any of its lists. -/
structure HasNoRows (s : Store) : Prop where
  databases : s.databases = []
  objects : s.objects = []
  tables : s.tables = []
  views : s.views = []
  columns : s.columns = []
  dependencies : s.dependencies = []

/-- Without databases and objects there is nothing that other rows could belong to. -/
theorem Valid.hasNoRows (hs : s.Valid) (hdatabases : s.databases = []) (hobjects : s.objects = []) :
    s.HasNoRows := by
  have htables : s.tables = [] := by rw [hs.tables_eq, hobjects]; rfl
  have hviews : s.views = [] := by
    have hids := hs.views_eq
    rw [hobjects] at hids
    exact List.map_eq_nil_iff.mp hids
  refine ⟨hdatabases, hobjects, htables, hviews, ?_, ?_⟩
  · refine List.eq_nil_iff_forall_not_mem.mpr fun c hc => ?_
    have htable := hs.column_table c hc
    rw [htables] at htable
    exact List.not_mem_nil htable
  · refine List.eq_nil_iff_forall_not_mem.mpr fun e he => ?_
    have hview := hs.dependency_view e he
    rw [hviews] at hview
    exact List.not_mem_nil hview

end Store

namespace Session

variable {s : Store} {d : DatabaseRow} {o : ObjectRow} (x : Session)

/-! ### The requests -/

theorem lookUpDatabase_of_mem (hs : s.Valid) (hd : d ∈ s.databases) :
    lookUpDatabase (.text d.name) s = .ok d := by
  rw [lookUpDatabase, requireStorable_text, ok_bind, Label.stored?, Option.bind_some,
    hs.database?_eq_some hd]

theorem handle_use (hs : s.Valid) (hd : d ∈ s.databases) :
    x.handle (.use (.text d.name)) (.ready s) =
      ⟨.ok none, [], { x with current := some ⟨d.id, .text d.name⟩ }, .ready s⟩ := by
  rw [handle_eq, attempt, run_use, lookUpDatabase_of_mem hs hd]
  rfl

/-- An object that no view reads from is dropped from the selected database. -/
theorem handle_drop (hs : s.Valid) (hd : d ∈ s.databases) (ho : o ∈ s.objects)
    (hdb : o.databaseId = d.id) (hfree : s.isReferenced o.id = false) (name : Label) :
    ({ x with current := some ⟨d.id, name⟩ } : Session).handle (.drop o.kind [.text o.name])
        (.ready s) =
      ⟨.ok none, [], { x with current := some ⟨d.id, name⟩ }, .ready (s.without [o.id])⟩ := by
  have hselected : ({ x with current := some ⟨d.id, name⟩ } : Session).selected s =
      .ok ⟨d.id, name⟩ := selected_of_mem rfl hs hd rfl
  have hdrop : dropNames d.id o.kind s [.text o.name] = .ok (s.without [o.id]) := by
    rw [dropNames_cons, Store.dropObject_eq_bind, requireStorable_text, ok_bind, Label.stored?,
      Option.bind_some, ← hdb, hs.objectOfKind?_eq_some ho]
    simp only [Store.removeObject?_eq_some hfree, ok_bind]
    rfl
  rw [handle_eq, attempt, run_drop, hselected, ok_bind, hdrop]
  rfl

/-- A database is dropped when there are no objects. -/
theorem handle_dropDatabase (hs : s.Valid) (hd : d ∈ s.databases) (hempty : s.objects = []) :
    x.handle (.dropDatabase (.text d.name)) (.ready s) =
      ⟨.ok none, [.droppedDatabase d.name 0],
        { x with current := x.current.filter (·.id ≠ d.id) }, .ready (s.removeDatabase d.id)⟩ := by
  have hobjects : s.objectsOf d.id = [] := by rw [Store.objectsOf, hempty]; rfl
  have hdrop : s.dropDatabase d = .ok (s.removeDatabase d.id) := by
    rw [Store.dropDatabase_eq, hobjects]
    rfl
  rw [handle_eq, attempt, run_dropDatabase, lookUpDatabase_of_mem hs hd, ok_bind, hdrop, ok_bind,
    hobjects]
  rfl

end Session

namespace Catalog

variable {c c₁ c' : Catalog} {s s' : Store} {xs : List Session}

/-! ### Runs that succeed -/

/-- In a run, which ends in the catalog `c'`, every event is a request that succeeds and has nothing
to show. -/
structure RunsTo (c : Catalog) (es : List Event) (c' : Catalog) : Prop where
  replies : ∀ reply ∈ (c.run es).1, reply = .answer (.ok none)
  final : (c.run es).2 = c'

theorem run_append_fst {es es' : List Event} :
    (c.run (es ++ es')).1 = (c.run es).1 ++ ((c.run es).2.run es').1 := by
  induction es generalizing c with
  | nil => rfl
  | cons e rest ih => rw [List.cons_append, run_cons_fst, run_cons_fst, ih]; rfl

namespace RunsTo

theorem nil : c.RunsTo [] c := ⟨fun _ hreply => absurd hreply List.not_mem_nil, rfl⟩

theorem append {es es' : List Event} (h : c.RunsTo es c₁) (h' : c₁.RunsTo es' c') :
    c.RunsTo (es ++ es') c' := by
  refine ⟨fun reply hreply => ?_, ?_⟩
  · rw [run_append_fst, h.final] at hreply
    exact (List.mem_append.mp hreply).elim (h.replies reply) (h'.replies reply)
  · rw [run_append_snd, h.final, h'.final]

/-- A single request. -/
theorem request {i : Nat} {x y : Session} {r : Request} {notes : List Note}
    (hx : xs[i]? = some x) (h : x.handle r (.ready s) = ⟨.ok none, notes, y, .ready s'⟩) :
    RunsTo ⟨.ready s, xs⟩ [.request i r] ⟨.ready s', xs.set i y⟩ := by
  have hstep : step ⟨.ready s, xs⟩ (.request i r) =
      (.answer (.ok none), ⟨.ready s', xs.set i y⟩) := by
    simp only [step, hx, h]
  refine ⟨fun reply hreply => ?_, by rw [run_cons_snd, hstep]; rfl⟩
  rw [run_cons_fst, hstep] at hreply
  exact List.mem_singleton.mp hreply

end RunsTo

/-! ### Dropping all objects -/

/-- Selects the database of an object and drops the object. -/
def dropEvents (s : Store) (i : Nat) (o : ObjectRow) : List Event :=
  [.request i (.use (.text (s.place o).database)), .request i (.drop o.kind [.text o.name])]

/-- The newest object is dropped. -/
theorem runsTo_dropEvents (hs : s.Valid) (hb : s.Backward) {o : ObjectRow} (ho : o ∈ s.objects)
    (hnewest : ∀ o' ∈ s.objects, o'.id ≤ o.id) {i : Nat} (hi : i < xs.length) :
    ∃ ys, ys.length = xs.length ∧
      RunsTo ⟨.ready s, xs⟩ (dropEvents s i o) ⟨.ready (s.without [o.id]), ys⟩ := by
  obtain ⟨d, hd, hid⟩ := List.mem_map.mp (hs.object_database o ho)
  have hdatabase : (s.place o).database = d.name := by rw [hs.place_eq hd hid.symm]
  have hfree := hb.isReferenced_newest hs hnewest
  have huse := RunsTo.request (List.getElem?_eq_getElem hi) (xs[i].handle_use hs hd)
  have hdrop := RunsTo.request (List.getElem?_set_self hi)
    (xs[i].handle_drop hs hd ho hid.symm hfree (.text d.name))
  rw [dropEvents, hdatabase]
  exact ⟨_, by simp, huse.append hdrop⟩

/-- All objects are dropped, from the newest on. -/
theorem runsTo_flatMap_dropEvents {who : ObjectRow → Nat} {rows : List ObjectRow} (hs : s.Valid)
    (hb : s.Backward) (hwho : ∀ o, who o < xs.length) (hrows : rows.Perm s.objects)
    (hnewest : rows.Pairwise fun a b => b.id < a.id) :
    ∃ s' ys, s'.Valid ∧ s'.objects = [] ∧ s'.databases = s.databases ∧ ys.length = xs.length ∧
      RunsTo ⟨.ready s, xs⟩ (rows.flatMap fun o => dropEvents s (who o) o) ⟨.ready s', ys⟩ := by
  induction rows generalizing s xs with
  | nil => exact ⟨s, xs, hs, List.nil_perm.mp hrows, rfl, rfl, .nil⟩
  | cons o rest ih =>
    obtain ⟨hlt, hrest⟩ := List.pairwise_cons.mp hnewest
    have ho : o ∈ s.objects := hrows.subset List.mem_cons_self
    have hle : ∀ o' ∈ s.objects, o'.id ≤ o.id := by
      intro o' ho'
      rcases List.mem_cons.mp (hrows.symm.subset ho') with rfl | ho'
      · exact Int.le_refl _
      · exact Int.le_of_lt (hlt o' ho')
    obtain ⟨ys, hys, hfirst⟩ := runsTo_dropEvents hs hb ho hle (hwho o)
    have hedit : Store.Edit .noView s (s.without [o.id]) :=
      .removeObject (Store.removeObject?_eq_some (hb.isReferenced_newest hs hle))
    have hb' : (s.without [o.id]).Backward := fun e he => hb e (List.mem_filter.mp he).1
    -- what is left are the other objects, which are all older
    have hleft : rest.Perm (s.without [o.id]).objects := by
      refine perm_filter_of_perm_cons hrows (by simp) fun o' ho' => ?_
      have hne : o'.id ≠ o.id := Int.ne_of_lt (hlt o' ho')
      simpa using hne
    obtain ⟨s', zs, hvalid, hobjects, hdatabases, hzs, hall⟩ :=
      ih (hedit.valid hs) hb' (fun o' => hys ▸ hwho o') hleft hrest
    exact ⟨s', zs, hvalid, hobjects, hdatabases, hzs.trans hys, hfirst.append hall⟩

/-! ### Dropping all databases -/

/-- All databases are dropped, in any order, when there are no objects left. -/
theorem runsTo_map_dropDatabase {who : DatabaseRow → Nat} {ds : List DatabaseRow} (hs : s.Valid)
    (hempty : s.objects = []) (hwho : ∀ d, who d < xs.length) (hds : ds.Perm s.databases) :
    ∃ s' ys, s'.HasNoRows ∧
      RunsTo ⟨.ready s, xs⟩ (ds.map fun d => .request (who d) (.dropDatabase (.text d.name)))
        ⟨.ready s', ys⟩ := by
  induction ds generalizing s xs with
  | nil => exact ⟨s, xs, hs.hasNoRows (List.nil_perm.mp hds) hempty, .nil⟩
  | cons d rest ih =>
    have hd : d ∈ s.databases := hds.subset List.mem_cons_self
    have hi := hwho d
    have hfirst := RunsTo.request (List.getElem?_eq_getElem hi)
      (xs[who d].handle_dropDatabase hs hd hempty)
    have hs' : (s.removeDatabase d.id).Valid := hs.removeDatabase (by simp [hempty])
    -- what is left are the other databases, whose numbers are others
    have hleft : rest.Perm (s.removeDatabase d.id).databases := by
      have hids : ((d :: rest).map (·.id)).Nodup :=
        (hds.map (·.id)).nodup_iff.mpr hs.database_numbers.nodup
      refine perm_filter_of_perm_cons hds (by simp) fun d' hd' => decide_eq_true fun hid => ?_
      exact (List.nodup_cons.mp hids).1 (List.mem_map.mpr ⟨d', hd', hid⟩)
    obtain ⟨s', ys, hnone, hall⟩ :=
      ih hs' hempty (fun d' => List.length_set.symm ▸ hwho d') hleft
    exact ⟨s', ys, hnone, hfirst.append hall⟩

/-- **No catalog is wedged.** After every run, all objects can be dropped one after the other from
the newest on, whatever views there are: a session selects the database of the object and drops it
by its kind and name. Then all databases can be dropped, in any order. Each of these requests
succeeds, by whichever of the sessions it is made, and no row is left in the end. -/
theorem catalogs_can_be_emptied (sessions : List Session) (es : List Event) :
    ∃ s xs, ((start sessions).run es).2 = ⟨.ready s, xs⟩ ∧
      ∀ (rows : List ObjectRow) (ds : List DatabaseRow) (who : ObjectRow → Nat)
        (who' : DatabaseRow → Nat), rows.Perm s.objects →
        rows.Pairwise (fun a b => b.id < a.id) → ds.Perm s.databases →
        (∀ o, who o < xs.length) → (∀ d, who' d < xs.length) →
        ∃ s' ys, s'.HasNoRows ∧
          RunsTo ⟨.ready s, xs⟩ ((rows.flatMap fun o => dropEvents s (who o) o) ++
            ds.map fun d => .request (who' d) (.dropDatabase (.text d.name))) ⟨.ready s', ys⟩ := by
  obtain ⟨s, hs, hvalid, hb⟩ :=
    run_backward (c := start sessions) rfl Store.valid_empty Store.backward_empty es
  refine ⟨s, ((start sessions).run es).2.sessions, by rw [← hs], ?_⟩
  intro rows ds who who' hrows hnewest hds hwho hwho'
  obtain ⟨s₁, ys, hvalid₁, hempty, hdatabases, hys, hobjects⟩ :=
    runsTo_flatMap_dropEvents hvalid hb hwho hrows hnewest
  obtain ⟨s', zs, hnone, hall⟩ :=
    runsTo_map_dropDatabase hvalid₁ hempty (fun d => hys ▸ hwho' d) (hdatabases ▸ hds)
  exact ⟨s', zs, hnone, hobjects.append hall⟩

/-- A view of one database reads from a table of another one, where a second view reads from the
first: the catalog is emptied by the session that has done nothing before. -/
theorem catalogs_can_be_emptied_views :
    let before : List Event := [.request 0 (.createDatabase "a"),
      .request 0 (.createTable "t" [⟨"n", "int", true⟩]), .request 0 (.createDatabase "b"),
      .request 0 (.use "b"), .request 0 (.createView "v" ⟨"q", "q", ["t"]⟩),
      .request 0 (.use "a"), .request 0 (.createView "w" ⟨"q", "q", ["v"]⟩)]
    let after : List Event := [.request 1 (.use "a"), .request 1 (.drop .view ["w"]),
      .request 1 (.use "b"), .request 1 (.drop .view ["v"]),
      .request 1 (.use "a"), .request 1 (.drop .table ["t"]),
      .request 1 (.dropDatabase "b"), .request 1 (.dropDatabase "a")]
    ∃ c' s', ((start [{}, {}]).run before).2.RunsTo after c' ∧ c'.access = .ready s' ∧
      s'.HasNoRows := by
  intro before after
  have hbefore : ((start [{}, {}]).run before).2.access =
      .ready ⟨[⟨1, "a"⟩, ⟨2, "b"⟩],
        [⟨1, .table, "t", 1⟩, ⟨2, .view, "v", 2⟩, ⟨3, .view, "w", 1⟩], [1],
        [⟨2, "q"⟩, ⟨3, "q"⟩], [⟨1, 1, "n", "int", true⟩], [⟨2, 1⟩, ⟨3, 2⟩], 2, 3, 1⟩ := by
    decide +kernel
  have hsessions : ((start [{}, {}]).run before).2.sessions.length = 2 := by decide +kernel
  obtain ⟨s, xs, hend, h⟩ := catalogs_can_be_emptied [{}, {}] before
  rw [hend] at hbefore hsessions ⊢
  have hwho : 1 < xs.length := hsessions ▸ Nat.one_lt_two
  obtain rfl := Access.ready.inj hbefore
  obtain ⟨s', ys, hnone, hrun⟩ := h [⟨3, .view, "w", 1⟩, ⟨2, .view, "v", 2⟩, ⟨1, .table, "t", 1⟩]
    [⟨2, "b"⟩, ⟨1, "a"⟩] (fun _ => 1) (fun _ => 1) (by decide) (by decide) (by decide)
    (fun _ => hwho) (fun _ => hwho)
  exact ⟨_, s', hrun, rfl, hnone⟩

end Catalog

end SchemaCatalog
