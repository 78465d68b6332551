import SchemaCatalog.Proofs.Catalog.Runs
import SchemaCatalog.Proofs.Store.History

/-!
# Views stay resolved

When a view is created, each name that its query reads from is resolved to the oldest object of that
name in any database. `dependencies_stay_resolved` says that these names would be resolved to the
same objects at any later time, as long as the view lives: its dependencies are always those to
which the names given by the visitor of the creating session are resolved.

An object that a view reads from cannot be dropped, which keeps it in the store; that it remains the
oldest of its name is `Store.Evolves.oldest?_eq`.
-/

namespace SchemaCatalog

/-- The oldest object that a label is the name of. -/
def Store.anyObject? (s : Store) (name : Label) : Option ObjectRow := name.stored?.bind s.oldest?

namespace Session

variable {x : Session} {s : Store}

/-- The numbers that names are resolved to are those of the oldest objects of these names. -/
theorem resolve_eq_ok {names : List Label} {ids : List Id} (h : resolve s names = .ok ids) :
    (∀ n ∈ names, ∃ o, s.anyObject? n = some o ∧ o.id ∈ ids) ∧
      ∀ id ∈ ids, ∃ n ∈ names, ∃ o, s.anyObject? n = some o ∧ o.id = id := by
  induction names generalizing ids with
  | nil =>
    obtain rfl := Except.ok.inj h
    exact ⟨by simp, by simp⟩
  | cons name rest ih =>
    obtain ⟨-, -, h⟩ := bind_eq_ok_iff.mp h
    split at h
    · simp at h
    · rename_i o ho
      cases hrest : resolve s rest with
      | error f => rw [hrest] at h; simp [Except.map] at h
      | ok ids' =>
        rw [hrest] at h
        obtain rfl := Except.ok.inj h
        obtain ⟨hnames, hids⟩ := ih hrest
        constructor
        · rintro n hn
          rcases List.mem_cons.mp hn with rfl | hn
          · exact ⟨o, ho, List.mem_cons_self⟩
          · obtain ⟨o', ho', hid⟩ := hnames n hn
            exact ⟨o', ho', List.mem_cons_of_mem _ hid⟩
        · rintro id hid
          rcases List.mem_cons.mp hid with rfl | hid
          · exact ⟨name, List.mem_cons_self, o, ho, rfl⟩
          · obtain ⟨n, hn, hres⟩ := hids id hid
            exact ⟨n, List.mem_cons_of_mem _ hn, hres⟩

/-- What a successful `CREATE VIEW` adds to the views and to the dependencies. -/
theorem adds_of_run_createView {name : Label} {query : ViewQuery} {e : Effect}
    (h : x.run s (.createView name query) = .ok e) :
    ∃ ids text, resolve s (x.visitor query) = .ok ids ∧
      e.store.lastObject = s.lastObject + 1 ∧
      e.store.views = s.views ++ [⟨s.lastObject + 1, text⟩] ∧
      e.store.dependencies = s.dependencies ++ ids.eraseDups.map (⟨s.lastObject + 1, ·⟩) := by
  cases carriesOut_of_run h with
  | @createView _ _ sel ids row s' _ hids hview =>
    obtain ⟨text, definition, s₁, -, -, hrow, hdeps⟩ := Store.createView_eq_ok hview
    obtain ⟨-, -, rfl, rfl⟩ := Store.insertObject?_eq_some_iff.mp hrow
    obtain ⟨-, -, -, rfl⟩ := Store.insertDependencies?_eq_some_iff.mp hdeps
    exact ⟨ids, definition, hids, rfl, rfl, rfl⟩

end Session

/-- Edits that add no view leave no view that was not there. -/
theorem Store.Edits.views_subset {s s' : Store} (h : Store.Edits .noView s s') :
    s'.views ⊆ s.views := by
  induction h with
  | refl => exact List.Subset.refl _
  | tail _ hstep ih =>
    refine List.Subset.trans ?_ ih
    cases hstep with
    | insertDatabase hrow =>
      obtain ⟨-, rfl, rfl⟩ := insertDatabase?_eq_some_iff.mp hrow
      exact List.Subset.refl _
    | insertTable hrow =>
      obtain ⟨-, -, rfl, rfl⟩ := insertObject?_eq_some_iff.mp hrow
      exact List.Subset.refl _
    | insertView _ _ hadmits => exact hadmits.elim
    | insertColumn hrow =>
      obtain ⟨name, dataType, -, -, -, -, rfl, rfl⟩ := insertColumn?_eq_some_iff.mp hrow
      exact List.Subset.refl _
    | removeObject hremove =>
      obtain ⟨-, rfl⟩ := removeObject?_eq_some_iff.mp hremove
      exact List.filter_sublist.subset
    | removeColumn columnId => exact List.Subset.refl _
    | removeDatabase _ => exact List.Subset.refl _

namespace Catalog

variable {c : Catalog} {s s' : Store} {e : Event}

/-- An event adds the view numbered `id`, and the session that handles it lists `names` as what the
view reads from. -/
def CreatesView (c : Catalog) (e : Event) (id : Id) (names : List Label) : Prop :=
  ∃ i x name query s s',
    e.request? = some (i, .createView name query) ∧ c.sessions[i]? = some x ∧
      names = x.visitor query ∧
      c.access = .ready s ∧ (c.step e).2.access = .ready s' ∧
      id ∉ s.views.map (·.id) ∧ id ∈ s'.views.map (·.id)

/-- A new view comes from a `CREATE VIEW`. -/
theorem createsView_of_new (hc : c.access = .ready s) (he : e ≠ .clear)
    (hc' : (c.step e).2.access = .ready s') {id : Id} (hold : id ∉ s.views.map (·.id))
    (hnew : id ∈ s'.views.map (·.id)) : ∃ names, c.CreatesView e id names := by
  have hsame : (c.step e).2 ≠ c := by
    intro h
    rw [h, hc] at hc'
    exact hold (Access.ready.inj hc' ▸ hnew)
  cases hr : e.request? with
  | none =>
    by_cases hsetUp : e = .setUp
    · exact absurd (hsetUp ▸ step_setUp hc) hsame
    · exact absurd (step_of_request?_eq_none hr hsetUp he) hsame
  | some p =>
    obtain ⟨i, r⟩ := p
    have hstep := step_of_request? (c := c) hr
    cases hx : c.sessions[i]? with
    | none => exact absurd (by rw [hstep, handled, hx]) hsame
    | some x =>
      by_cases hkind : r.kind? = some .createView
      · cases r with
        | createView name query =>
          exact ⟨_, i, x, name, query, s, s', hr, hx, rfl, hc, hc', hold, hnew⟩
        | _ => simp [Request.kind?] at hkind
      · -- any other request only removes views
        obtain ⟨s₁, hs₁, hedits⟩ :
            ∃ s₁, (x.handle r (.ready s)).access = .ready s₁ ∧ Store.Edits .noView s s₁ :=
          x.handle_ready r s fun h => absurd h hkind
        rw [hstep, handled_of_getElem? hx, hc, hs₁] at hc'
        obtain rfl := Access.ready.inj hc'
        obtain ⟨v, hv, hid⟩ := List.mem_map.mp hnew
        exact absurd (List.mem_map.mpr ⟨v, hedits.views_subset hv, hid⟩) hold

/-- Every view that a run adds has been created by one of its events. -/
theorem exists_createsView {es : List Event} (hc : c.access = .ready s) (hes : .clear ∉ es)
    (hc' : (c.run es).2.access = .ready s') {id : Id} (hold : id ∉ s.views.map (·.id))
    (hnew : id ∈ s'.views.map (·.id)) :
    ∃ before e after names, es = before ++ e :: after ∧
      (c.run before).2.CreatesView e id names := by
  induction es generalizing c s with
  | nil =>
    obtain rfl := Access.ready.inj (hc.symm.trans hc')
    exact absurd hnew hold
  | cons e rest ih =>
    rw [List.mem_cons, not_or] at hes
    have he : e ≠ .clear := fun he => hes.1 he.symm
    obtain ⟨s₁, hs₁, -⟩ := step_ready hc he
    by_cases hid : id ∈ s₁.views.map (·.id)
    · obtain ⟨names, hcreates⟩ := createsView_of_new hc he hs₁ hold hid
      exact ⟨[], e, rest, names, rfl, hcreates⟩
    · obtain ⟨before, e', after, names, rfl, hcreates⟩ := ih hs₁ hes.2 hc' hid
      exact ⟨e :: before, e', after, names, rfl, hcreates⟩

/-- A new view reads from the objects that are, at that time, the oldest of the listed names. -/
theorem CreatesView.resolved {id : Id} {names : List Label} (h : c.CreatesView e id names)
    (hc : c.access = .ready s) (hs : s.Valid) (hc' : (c.step e).2.access = .ready s') :
    id = s'.lastObject ∧
      (∀ n ∈ names, ∃ o, s.anyObject? n = some o ∧ (⟨id, o.id⟩ : Dependency) ∈ s'.dependencies) ∧
      ∀ objectId, (⟨id, objectId⟩ : Dependency) ∈ s'.dependencies →
        ∃ n ∈ names, ∃ o, s.anyObject? n = some o ∧ o.id = objectId := by
  obtain ⟨i, x, name, query, s₀, s₁, hr, hx, rfl, hc₀, hc₁, hold, hnew⟩ := h
  obtain rfl := Access.ready.inj (hc.symm.trans hc₀)
  obtain rfl := Access.ready.inj (hc'.symm.trans hc₁)
  rw [step_of_request? hr, handled_of_getElem? hx, hc] at hc'
  rw [Session.handle_eq, Session.attempt] at hc'
  cases hrun : x.run s (.createView name query) with
  | error f =>
    rw [hrun] at hc'
    exact absurd (Access.ready.inj hc' ▸ hnew) hold
  | ok effect =>
    rw [hrun] at hc'
    obtain rfl := Access.ready.inj hc'
    obtain ⟨ids, text, hids, hlast, hviews, hdeps⟩ := Session.adds_of_run_createView hrun
    obtain ⟨hnames, hobjects⟩ := Session.resolve_eq_ok hids
    obtain rfl : id = s.lastObject + 1 := by
      rw [hviews, List.map_append, List.mem_append] at hnew
      exact List.mem_singleton.mp (hnew.resolve_left hold)
    refine ⟨hlast.symm, fun n hn => ?_, fun objectId he => ?_⟩
    · obtain ⟨o, ho, hid⟩ := hnames n hn
      refine ⟨o, ho, hdeps ▸ List.mem_append_right _ (List.mem_map_of_mem ?_)⟩
      exact List.mem_eraseDups.mpr hid
    · rcases List.mem_append.mp (hdeps ▸ he) with he | he
      · -- no view that was there has the new number
        exact absurd (hs.view_le (hs.dependency_view _ he)) (Int.not_le.mpr (Int.lt_succ _))
      · obtain ⟨id', hid', heq⟩ := List.mem_map.mp he
        obtain rfl := (Dependency.mk.inj heq).2
        exact hobjects id' (List.mem_eraseDups.mp hid')

/-- The dependencies of a view do not change as long as it lives, and neither does what the names
are resolved to. -/
theorem CreatesView.stays_resolved {id : Id} {names : List Label} {s'' : Store}
    (h : c.CreatesView e id names) (hc : c.access = .ready s) (hs : s.Valid)
    (hc' : (c.step e).2.access = .ready s') (hstep : s.Evolves s')
    (hlater : s'.Evolves s'') (hs'' : s''.Valid) (hlives : id ∈ s''.views.map (·.id)) :
    (∀ n ∈ names, (s''.anyObject? n).isSome = true) ∧
      ∀ objectId, (⟨id, objectId⟩ : Dependency) ∈ s''.dependencies ↔
        ∃ n ∈ names, ∃ o, s''.anyObject? n = some o ∧ o.id = objectId := by
  obtain ⟨hid, hnames, hobjects⟩ := h.resolved hc hs hc'
  -- no dependency of the view is added later, and none is lost while it lives
  have hsame : ∀ objectId, (⟨id, objectId⟩ : Dependency) ∈ s''.dependencies ↔
      (⟨id, objectId⟩ : Dependency) ∈ s'.dependencies := by
    intro objectId
    constructor
    · intro he
      rcases hlater.dependencies _ he with he | hlt
      · exact he
      · exact absurd hlt (hid ▸ Int.lt_irrefl _)
    · exact fun he => hlater.dependency_kept _ he hlives
  -- a name is resolved as when the view was created, since its object cannot have been dropped
  have hresolved : ∀ n ∈ names, s''.anyObject? n = s.anyObject? n := by
    intro n hn
    obtain ⟨o, ho, he⟩ := hnames n hn
    obtain ⟨name, hname, holdest⟩ := Option.bind_eq_some_iff.mp ho
    have hstays := hs''.dependency_object _ ((hsame o.id).mpr he)
    rw [ho, Store.anyObject?, hname]
    exact (hstep.trans hs hlater).oldest?_eq hs hs'' holdest hstays
  refine ⟨fun n hn => ?_, fun objectId => ?_⟩
  · obtain ⟨o, ho, -⟩ := hnames n hn
    rw [hresolved n hn, ho]
    rfl
  · rw [hsame]
    constructor
    · intro he
      obtain ⟨n, hn, o, ho, hid'⟩ := hobjects objectId he
      exact ⟨n, hn, o, by rw [hresolved n hn, ho], hid'⟩
    · rintro ⟨n, hn, o, ho, rfl⟩
      obtain ⟨o', ho', he⟩ := hnames n hn
      rw [hresolved n hn, ho'] at ho
      exact Option.some.inj ho ▸ he

/-- **Views stay resolved.** After any run that does not clear the store, every view has been
created by some event of the run; and whichever event created it, the view's dependencies lead to
exactly the objects to which the names that were listed then are resolved now. -/
theorem dependencies_stay_resolved (sessions : List Session) (es : List Event)
    (hes : .clear ∉ es) :
    ∃ s, ((start sessions).run es).2.access = .ready s ∧ ∀ v ∈ s.views,
      (∃ before e after names, es = before ++ e :: after ∧
        ((start sessions).run before).2.CreatesView e v.id names) ∧
      ∀ before e after names, es = before ++ e :: after →
        ((start sessions).run before).2.CreatesView e v.id names →
          (∀ n ∈ names, (s.anyObject? n).isSome = true) ∧
          ∀ objectId, (⟨v.id, objectId⟩ : Dependency) ∈ s.dependencies ↔
            ∃ n ∈ names, ∃ o, s.anyObject? n = some o ∧ o.id = objectId := by
  obtain ⟨s, hs, hedits⟩ := run_ready (c := start sessions) rfl hes
  refine ⟨s, hs, fun v hv => ⟨?_, ?_⟩⟩
  · exact exists_createsView (c := start sessions) rfl hes hs (by simp [Store.empty])
      (List.mem_map_of_mem hv)
  · rintro before e after names rfl hcreates
    rw [List.mem_append, List.mem_cons, not_or, not_or] at hes
    obtain ⟨s₀, hs₀, hedits₀⟩ := run_ready (c := start sessions) rfl hes.1
    obtain ⟨s₁, hs₁, hedits₁⟩ := step_ready hs₀ fun he => hes.2.1 he.symm
    obtain ⟨s₂, hs₂, hedits₂⟩ := run_ready hs₁ hes.2.2
    rw [run_append_snd, run_cons_snd, hs₂] at hs
    obtain rfl := Access.ready.inj hs
    have hvalid₀ := hedits₀.valid Store.valid_empty
    have hvalid₁ := hedits₁.valid hvalid₀
    exact hcreates.stays_resolved hs₀ hvalid₀ hs₁ (hedits₁.evolves hvalid₀)
      (hedits₂.evolves hvalid₁) (hedits₂.valid hvalid₁) (List.mem_map_of_mem hv)

/-- A view reads from the older of two tables of one name. The younger one is dropped and created
again, and the older one cannot be dropped: the view still reads from it. -/
theorem dependencies_stay_resolved_namesakes :
    let before : List Event :=
      [.request 0 (.createDatabase "a"), .request 0 (.createTable "t" []),
       .request 1 (.createDatabase "b"), .request 1 (.createTable "t" [])]
    let create : Event := .request 1 (.createView "v" ⟨"select", "select", ["t"]⟩)
    let after : List Event :=
      [.request 1 (.drop .table ["t"]), .request 1 (.createTable "t" []),
       .request 0 (.drop .table ["t"])]
    Event.clear ∉ before ++ create :: after ∧
      ∃ s, ((start [{}, {}]).run (before ++ create :: after)).2.access = .ready s ∧
        ∀ objectId, (⟨3, objectId⟩ : Dependency) ∈ s.dependencies ↔
          ∃ n ∈ ([.text "t"] : List Label), ∃ o, s.anyObject? n = some o ∧ o.id = objectId := by
  intro before create after
  have hes : Event.clear ∉ before ++ create :: after := by simp [before, create, after]
  have hbefore : ((start [{}, {}]).run before).2.access =
      .ready ⟨[⟨1, "a"⟩, ⟨2, "b"⟩], [⟨1, .table, "t", 1⟩, ⟨2, .table, "t", 2⟩], [1, 2], [], [], [],
        2, 2, 0⟩ := by
    decide +kernel
  have hcreate : (((start [{}, {}]).run before).2.step create).2.access =
      .ready ⟨[⟨1, "a"⟩, ⟨2, "b"⟩],
        [⟨1, .table, "t", 1⟩, ⟨2, .table, "t", 2⟩, ⟨3, .view, "v", 2⟩], [1, 2], [⟨3, "select"⟩], [],
        [⟨3, 1⟩], 2, 3, 0⟩ := by
    decide +kernel
  have hafter : ((start [{}, {}]).run (before ++ create :: after)).2.access =
      .ready ⟨[⟨1, "a"⟩, ⟨2, "b"⟩],
        [⟨1, .table, "t", 1⟩, ⟨3, .view, "v", 2⟩, ⟨4, .table, "t", 2⟩], [1, 4], [⟨3, "select"⟩], [],
        [⟨3, 1⟩], 2, 4, 0⟩ := by
    decide +kernel
  obtain ⟨s, hs, hviews⟩ := dependencies_stay_resolved [{}, {}] (before ++ create :: after) hes
  refine ⟨hes, s, hs, ?_⟩
  obtain rfl := Access.ready.inj (hs.symm.trans hafter)
  refine ((hviews ⟨3, "select"⟩ (by decide)).2 before create after ["t"] rfl ?_).2
  exact ⟨1, { current := some ⟨2, "b"⟩ }, "v", _, _, _, rfl, rfl, rfl, hbefore, hcreate,
    by decide, by decide⟩

end Catalog

end SchemaCatalog
