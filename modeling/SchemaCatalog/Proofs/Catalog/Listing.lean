import Mathlib.Data.List.Sort
import Mathlib.Data.String.Basic
import SchemaCatalog.Proofs.Catalog.Selection
import SchemaCatalog.Proofs.Session.Frame
import SchemaCatalog.Proofs.Session.Loops

/-!
# What `SHOW TABLES` tells of the past

`Catalog.tables_listed_by_history` says which names `SHOW TABLES` shows at any moment of a run that
does not clear the store: those for which the last request that has created or dropped an object of
the name in the database (`Catalog.history`) was a `CREATE TABLE`. Every name is shown once, and
they are in the order of their characters.

A request changes which tables a database has only by creating or dropping an object of the name
(`Session.run_hasTable_iff`), and then the request alone tells whether there is a table of the name
afterwards (`Session.run_hasTable_of_concerns`). The number of a database that has been dropped is
not given out again, so all that is in the history of a database that exists has been done to this
database.
-/

namespace SchemaCatalog

/-! ### Objects that a request is about -/

/-- The names of the objects that a request creates or drops, if it succeeds. -/
def Request.objectNames : Request → List Label
  | .createTable name _ | .createView name _ => [name]
  | .drop _ names => names
  | _ => []

/-- Whether a request creates or drops an object of a name, if it succeeds. -/
def Request.concerns (r : Request) (name : String) : Bool :=
  r.objectNames.any (·.stored? = some name)

namespace Request

variable {r : Request} {o : ObjectRow} {name : String}

theorem concerns_eq_true_iff :
    r.concerns name = true ↔ ∃ label ∈ r.objectNames, label.stored? = some name := by
  simp [concerns]

theorem Creates.concerns (h : r.Creates o) : r.concerns o.name = true := by
  rw [concerns_eq_true_iff]
  cases r with
  | createTable label | createView label => exact ⟨label, List.mem_cons_self, h.2⟩
  | _ => exact h.elim

/-- A request that aims at an object and does not concern it is an `ALTER TABLE`. -/
theorem AimsAt.concerns (h : r.AimsAt o) (hkind : r.kind? ≠ some .alterTable) :
    r.concerns o.name = true := by
  rw [concerns_eq_true_iff]
  cases r with
  | drop kind labels => exact h.2
  | alterTable label => exact absurd rfl hkind
  | _ => exact h.elim

end Request

namespace Store

variable {s s' : Store} {id : Id} {name : String}

/-! ### Tables of a database -/

/-- A database has a table of a name. -/
def HasTable (s : Store) (databaseId : Id) (name : String) : Prop :=
  ∃ o ∈ s.objects, o.databaseId = databaseId ∧ o.kind = .table ∧ o.name = name

theorem mem_names_iff : name ∈ s.names id .table ↔ s.HasTable id name := by
  rw [names, List.mem_mergeSort]
  simp only [List.mem_map, List.mem_filter, objectsOf, decide_eq_true_eq, and_assoc, HasTable]

/-- Stores with the same objects of a name in a database have the same tables of that name there. -/
theorem hasTable_congr
    (h : ∀ o : ObjectRow, o.databaseId = id → o.name = name → (o ∈ s'.objects ↔ o ∈ s.objects)) :
    s'.HasTable id name ↔ s.HasTable id name := by
  refine exists_congr fun o => and_congr_left fun hprops => ?_
  exact h o hprops.1 hprops.2.2

/-- A database has one object of a name at most. -/
theorem Valid.eq_of_name_eq (hs : s.Valid) {o o' : ObjectRow} (ho : o ∈ s.objects)
    (ho' : o' ∈ s.objects) (hdb : o.databaseId = o'.databaseId) (hname : o.name = o'.name) :
    o = o' :=
  List.inj_on_of_nodup_map hs.object_names ho ho' (Prod.ext hdb hname)

/-- The names of the tables are in strict order. -/
theorem Valid.pairwise_names (hs : s.Valid) (id : Id) :
    (s.names id .table).Pairwise (· < ·) := by
  have hsorted : (s.names id .table).Pairwise (· ≤ ·) := List.pairwise_mergeSort' _ _
  have hnodup : (s.names id .table).Nodup := by
    rw [names, (List.mergeSort_perm _ _).nodup_iff]
    refine List.Nodup.map_on (fun o ho o' ho' hname => ?_)
      (((hs.object_numbers.filter _).nodup.of_map).filter _)
    obtain ⟨ho, -⟩ := List.mem_filter.mp ho
    obtain ⟨ho', -⟩ := List.mem_filter.mp ho'
    obtain ⟨ho, hin⟩ := List.mem_filter.mp ho
    obtain ⟨ho', hin'⟩ := List.mem_filter.mp ho'
    exact hs.eq_of_name_eq ho ho'
      ((of_decide_eq_true hin).trans (of_decide_eq_true hin').symm) hname
  exact (hsorted.and hnodup).imp fun h => lt_of_le_of_ne h.1 h.2

/-- A database of this number is gone for good. -/
def IsGone (s : Store) (id : Id) : Prop := id ≤ s.lastDatabase ∧ id ∉ s.databases.map (·.id)

theorem IsGone.mono (h : s.IsGone id) (hlater : s.Evolves s') : s'.IsGone id :=
  ⟨Int.le_trans h.1 hlater.lastDatabase_le, hlater.database_gone h.1 h.2⟩

theorem isGone_of_dropDatabase (hs : s.Valid) {d : DatabaseRow} (hd : d ∈ s.databases)
    (h : s.dropDatabase d = .ok s') : s'.IsGone d.id := by
  obtain ⟨s₁, hkeeps, rfl⟩ := dropDatabase_keeps hs h
  have hle : d.id ≤ s.lastDatabase := (hs.database_numbers.bounds _ (List.mem_map_of_mem hd)).2
  refine ⟨hle.trans_eq hkeeps.lastDatabase.symm, fun hmem => ?_⟩
  obtain ⟨d', hd', hid⟩ := List.mem_map.mp hmem
  exact of_decide_eq_true (List.mem_filter.mp hd').2 hid

end Store

namespace Session

variable {x : Session} {s : Store} {r : Request} {e : Effect} {id : Id} {name : String}

/-! ### What a request does to the tables -/

/-- A request that neither creates nor drops an object of a name in a database leaves it at that
whether the database has a table of the name, unless the database goes. -/
theorem run_hasTable_iff (hs : s.Valid) (h : x.run s r = .ok e) (hlive : ¬ e.store.IsGone id)
    (hnot : r.concerns name = true → ∀ sel ∈ x.current, sel.id ≠ id) :
    e.store.HasTable id name ↔ s.HasTable id name := by
  refine Store.hasTable_congr fun o hdb hname => ?_
  by_cases hscoped : r.isScoped = true
  · by_cases hkind : r.kind? = some .alterTable
    · cases carriesOut_of_run h with
      | alterTable _ _ halter => rw [(objects_of_alter halter).1]
      | _ => simp [Request.kind?] at hkind
    · obtain ⟨sel, hsel, -, hkeeps⟩ := run_keeps hs hscoped h
      have hkeeps : s.Keeps e.store (· = o) := by
        refine hkeeps _ ?_
        rintro o' hin hmeant rfl
        have hconcerns : r.concerns o'.name = true := by
          rcases hmeant with ⟨hcreates, -⟩ | ⟨haims, -⟩
          · exact hcreates.concerns
          · exact haims.concerns hkind
        exact hnot (hname ▸ hconcerns) sel (current_of_selected hsel) (hin.symm.trans hdb)
      exact hkeeps.mem_objects_iff rfl
  · cases carriesOut_of_run h with
    | createDatabase hcreate =>
      obtain ⟨text, -, hrow⟩ := Store.createDatabase_eq_ok hcreate
      obtain ⟨-, rfl, rfl⟩ := Store.insertDatabase?_eq_some_iff.mp hrow
      exact Iff.rfl
    | use => exact Iff.rfl
    | @dropDatabase _ d _ hrow hdrop =>
      have hgone := Store.isGone_of_dropDatabase hs (mem_of_lookUpDatabase hrow).1 hdrop
      have hother : o.databaseId ≠ d.id := by
        rintro hin
        rw [← hin, hdb] at hgone
        exact hlive hgone
      obtain ⟨s₁, hkeeps, rfl⟩ := Store.dropDatabase_keeps hs hdrop
      exact hkeeps.mem_objects_iff hother
    | _ => exact absurd rfl hscoped

/-- After a request has created or dropped an object of a name, the database has a table of the name
exactly if the request was a `CREATE TABLE`. -/
theorem run_hasTable_of_concerns (hs : s.Valid) (h : x.run s r = .ok e) {sel : Selection}
    (hsel : x.current = some sel) (hconcerns : r.concerns name = true) :
    e.store.HasTable sel.id name ↔ r.kind? = some .createTable := by
  have hedits : Store.Edits .resolved s e.store := run_edits h fun _ => rfl
  have hvalid := hedits.valid hs
  obtain ⟨label, hlabel, hstored⟩ := Request.concerns_eq_true_iff.mp hconcerns
  cases carriesOut_of_run h with
  | @createTable _ _ sel' row s' hsel' hcreate =>
    obtain rfl := List.mem_singleton.mp hlabel
    obtain rfl := Option.some.inj (hsel.symm.trans (current_of_selected hsel'))
    obtain ⟨text, hname, rfl, hobjects⟩ := Store.createTable_row hcreate
    obtain rfl := Option.some.inj (hname.symm.trans hstored)
    have hmem : _ ∈ s'.objects := hobjects ▸ List.mem_append_right _ List.mem_cons_self
    exact iff_of_true ⟨_, hmem, rfl, rfl, rfl⟩ rfl
  | @createView _ _ sel' _ row s' hsel' _ hcreate =>
    obtain rfl := List.mem_singleton.mp hlabel
    obtain rfl := Option.some.inj (hsel.symm.trans (current_of_selected hsel'))
    obtain ⟨text, hname, rfl, hobjects⟩ := Store.createView_row hcreate
    obtain rfl := Option.some.inj (hname.symm.trans hstored)
    have hmem : _ ∈ s'.objects := hobjects ▸ List.mem_append_right _ List.mem_cons_self
    refine iff_of_false ?_ (by simp [Request.kind?])
    -- the view is the only object of the name
    rintro ⟨o, ho, hdb, hkind, hname⟩
    rw [hvalid.eq_of_name_eq ho hmem hdb hname] at hkind
    cases hkind
  | drop hsel' hdrop =>
    obtain rfl := Option.some.inj (hsel.symm.trans (current_of_selected hsel'))
    refine iff_of_false ?_ (by simp [Request.kind?])
    rintro ⟨o, ho, hdb, -, rfl⟩
    exact (mem_objects_of_dropNames hs hdrop ho).2 hdb label hlabel hstored
  | _ => exact absurd hlabel List.not_mem_nil

end Session

namespace Catalog

variable {c : Catalog} {s s' : Store} {e : Event} {id : Id} {name : String} {r : Request}

/-! ### Histories -/

/-- The request that an event makes of a session that has selected the given database, if the
request succeeds. -/
def requestIn? (c : Catalog) (databaseId : Id) (e : Event) : Option Request :=
  if (c.step e).1.isFailure then none
  else do
    let (i, r) ← e.request?
    let x ← c.sessions[i]?
    let sel ← x.current
    if sel.id = databaseId then some r else none

/-- The requests that create or drop an object of the given name in a database in the course of a
run, in their order. Those that are refused do not count. -/
def history (c : Catalog) (databaseId : Id) (name : String) : List Event → List Request
  | [] => []
  | e :: rest =>
    ((c.requestIn? databaseId e).filter (·.concerns name)).toList ++
      (c.step e).2.history databaseId name rest

/-- One more event comes last in the history. -/
theorem history_concat (es : List Event) :
    c.history id name (es ++ [e]) = c.history id name es ++
      (((c.run es).2.requestIn? id e).filter (·.concerns name)).toList := by
  induction es generalizing c with
  | nil => exact List.append_nil _
  | cons e' rest ih =>
    rw [List.cons_append, history, history, ih, List.append_assoc]
    rfl

theorem isFailure_of_handle_eq_error {i : Nat} (hr : e.request? = some (i, r)) {x : Session}
    (hx : c.sessions[i]? = some x) {err : CatalogError}
    (herr : (x.handle r c.access).answer = .error err) : (c.step e).1.isFailure = true := by
  cases e with
  | request j r' =>
    obtain ⟨rfl, rfl⟩ := Prod.mk.inj (Option.some.inj hr)
    simp only [step, hx, herr, Reply.isFailure]
  | line j text =>
    rw [Event.request?] at hr
    split at hr
    · rename_i stmt hread
      obtain ⟨rfl, rfl⟩ := Prod.mk.inj (Option.some.inj hr)
      simp only [step, hx, Session.runLine, hread, herr, Reply.isFailure]
    · simp at hr
  | setUp | clear => simp [Event.request?] at hr

/-- An event that makes a request with success leads to the store that the request leads to. -/
theorem requestIn?_eq_some (hc : c.access = .ready s) (h : c.requestIn? id e = some r) :
    ∃ (x : Session) (sel : Selection) (effect : Effect), x.current = some sel ∧ sel.id = id ∧
      x.run s r = .ok effect ∧ (c.step e).2.access = .ready effect.store := by
  rw [requestIn?] at h
  split_ifs at h with hfailure
  obtain ⟨⟨i, r'⟩, hr, h⟩ := Option.bind_eq_some_iff.mp h
  obtain ⟨x, hx, h⟩ := Option.bind_eq_some_iff.mp h
  obtain ⟨sel, hsel, h⟩ := Option.bind_eq_some_iff.mp h
  split_ifs at h with hid
  obtain rfl := Option.some.inj h
  rw [step_of_request? hr, handled_of_getElem? hx, hc]
  cases hrun : x.run s r' with
  | error f =>
    have herr : (x.handle r' c.access).answer = .error f.error := by
      rw [hc, Session.handle_eq, Session.attempt, hrun]
    exact absurd (isFailure_of_handle_eq_error hr hx herr) hfailure
  | ok effect =>
    refine ⟨x, sel, effect, hsel, hid, hrun, ?_⟩
    simp only [Session.handle_eq, Session.attempt, hrun, Access.after]

/-- A request that succeeds and is made of a session that has selected the database is the request
of the event. -/
theorem requestIn?_of_selected {i : Nat} (hr : e.request? = some (i, r))
    (hfailure : (c.step e).1.isFailure = false) {x : Session} (hx : c.sessions[i]? = some x)
    {sel : Selection} (hsel : x.current = some sel) : c.requestIn? sel.id e = some r := by
  rw [requestIn?, hfailure, hr]
  simp [hx, hsel]

/-- Whether a database has a table of a name is told by the event, if this has created or dropped an
object of the name there, and is as before otherwise. -/
theorem hasTable_step_iff (hc : c.access = .ready s) (hs : s.Valid) (he : e ≠ .clear)
    (hc' : (c.step e).2.access = .ready s') (hlive : ¬ s'.IsGone id) :
    s'.HasTable id name ↔
      match (c.requestIn? id e).filter (·.concerns name) with
      | some r => r.kind? = some .createTable
      | none => s.HasTable id name := by
  cases hrequest : (c.requestIn? id e).filter (·.concerns name) with
  | some r =>
    obtain ⟨hr, hconcerns⟩ := Option.filter_eq_some_iff.mp hrequest
    obtain ⟨x, sel, effect, hsel, rfl, hrun, hstep⟩ := requestIn?_eq_some hc hr
    obtain rfl := Access.ready.inj (hc'.symm.trans hstep)
    exact Session.run_hasTable_of_concerns hs hrun hsel hconcerns
  | none =>
    rcases step_eq_or_run hc he with heq | ⟨j, x, r, effect, hr, hfailure, hx, hrun, heq⟩
    · obtain rfl : s = s' := Access.ready.inj (hc.symm.trans (heq ▸ hc'))
      exact Iff.rfl
    · obtain rfl : effect.store = s' :=
        Access.ready.inj ((congrArg Catalog.access heq).symm.trans hc')
      refine Session.run_hasTable_iff hs hrun hlive fun hconcerns sel hsel hid => ?_
      have hin := requestIn?_of_selected hr hfailure hx hsel
      rw [hid] at hin
      rw [hin, Option.filter_some, if_pos hconcerns] at hrequest
      cases hrequest

/-- A database that is not gone has a table of a name exactly if the last request of its history was
a `CREATE TABLE`. -/
theorem hasTable_run_iff (hc : c.access = .ready s) (hs : s.Valid) (hempty : s.objects = [])
    {es : List Event} (hes : .clear ∉ es) :
    ∃ s', (c.run es).2.access = .ready s' ∧ s'.Valid ∧ ∀ id name, ¬ s'.IsGone id →
      (s'.HasTable id name ↔
        ∃ r ∈ (c.history id name es).getLast?, r.kind? = some .createTable) := by
  induction es using List.reverseRecOn with
  | nil =>
    refine ⟨s, hc, hs, fun id name _ => iff_of_false ?_ ?_⟩
    · rintro ⟨o, ho, -⟩
      rw [hempty] at ho
      exact absurd ho List.not_mem_nil
    · rintro ⟨r, hr, -⟩
      exact absurd hr (Option.not_mem_none r)
  | append_singleton es e ih =>
    rw [List.mem_append, not_or, List.mem_singleton] at hes
    obtain ⟨s₁, hc₁, hs₁, hknown⟩ := ih hes.1
    have he : e ≠ .clear := fun h => hes.2 h.symm
    obtain ⟨s₂, hc₂, hedits⟩ := step_ready hc₁ he
    have hrun : (c.run (es ++ [e])).2 = ((c.run es).2.step e).2 := by
      rw [run_append_snd]
      rfl
    refine ⟨s₂, hrun ▸ hc₂, hedits.valid hs₁, fun id name hlive => ?_⟩
    rw [hasTable_step_iff hc₁ hs₁ he hc₂ hlive, history_concat]
    cases ((c.run es).2.requestIn? id e).filter (·.concerns name) with
    | some r => simp
    | none =>
      have hlive₁ : ¬ s₁.IsGone id := fun hgone => hlive (hgone.mono (hedits.evolves hs₁))
      rw [Option.toList_none, List.append_nil]
      exact hknown id name hlive₁

/-- **Listing tables.** At every moment of a run that does not clear the store, for every session
that has selected a database that exists: `SHOW TABLES` shows names in strict order, namely those of
the tables of the database. These are the names of which the last object that has been created or
dropped there, by any session, has been created as a table. -/
theorem tables_listed_by_history (sessions : List Session) (es : List Event) (hes : .clear ∉ es) :
    ∃ s, ((start sessions).run es).2.access = .ready s ∧
      ∀ (x : Session) (d : DatabaseRow), x.WorksIn s d →
        ∃ names : List String,
          (x.handle .showTables (.ready s)).answer =
            .ok (some (names.map fun name => [name])) ∧
          names.Pairwise (· < ·) ∧
          (∀ name, name ∈ names ↔
            ∃ r ∈ ((start sessions).history d.id name es).getLast?, r.kind? = some .createTable) ∧
          (∀ name, name ∈ names ↔
            ∃ o ∈ s.objects, o.databaseId = d.id ∧ o.kind = .table ∧ o.name = name) ∧
          ∀ v ∈ s.objects, v.databaseId = d.id → v.kind = .view → v.name ∉ names := by
  obtain ⟨s, hs, hvalid, hhistory⟩ :=
    hasTable_run_iff (c := start sessions) rfl Store.valid_empty rfl hes
  refine ⟨s, hs, fun x d hx => ⟨s.names d.id .table, ?_, hvalid.pairwise_names d.id,
    fun name => ?_, fun name => Store.mem_names_iff, fun v hv hdb hkind hname => ?_⟩⟩
  · obtain ⟨sel, hselected, hid⟩ := hx.selected hvalid
    rw [Session.handle_eq, Session.attempt, Session.run_showTables, hselected, ok_bind, hid]
  · have hlive : ¬ s.IsGone d.id := fun hgone => hgone.2 (List.mem_map_of_mem hx.mem)
    rw [Store.mem_names_iff, hhistory d.id name hlive]
  · obtain ⟨o, ho, hdb', hkind', hsame⟩ := Store.mem_names_iff.mp hname
    obtain rfl := hvalid.eq_of_name_eq ho hv (hdb'.trans hdb.symm) hsame
    rw [hkind] at hkind'
    cases hkind'

/-- One name is that of a table, a view and again a table, and a table of another database; another
name is dropped as a table and comes back as a view; and of two requests for a table, one fails. -/
theorem tables_listed_by_history_recreated :
    let es : List Event := [.request 0 (.createDatabase "d"), .request 1 (.createDatabase "e"),
      .request 0 (.createTable "b" []), .request 0 (.createTable "a" []),
      .request 1 (.createTable "c" []), .request 0 (.createTable "c" []),
      .request 0 (.createTable "b" []), .request 0 (.drop .table ["b", "c"]),
      .request 0 (.createView "b" ⟨"SELECT", "SELECT", ["a"]⟩), .request 1 (.use "d"),
      .request 1 (.drop .view ["b"]), .request 1 (.createTable "b" []),
      .request 0 (.createView "c" ⟨"SELECT", "SELECT", ["a"]⟩), .request 1 (.drop .table ["a"])]
    let x : Session := { current := some ⟨1, "d"⟩ }
    ∃ s names, ((start [{}, {}]).run es).2.access = .ready s ∧
      (x.handle .showTables (.ready s)).answer = .ok (some (names.map fun name => [name])) ∧
      names = ["a", "b"] ∧
      ((start [{}, {}]).history 1 "b" es).map (·.kind?) =
        [some .createTable, some .drop, some .createView, some .drop, some .createTable] := by
  intro es x
  let s₀ : Store := ⟨[⟨1, "d"⟩, ⟨2, "e"⟩],
    [⟨2, .table, "a", 1⟩, ⟨3, .table, "c", 2⟩, ⟨6, .table, "b", 1⟩, ⟨7, .view, "c", 1⟩],
    [2, 3, 6], [⟨7, "SELECT"⟩], [], [⟨7, 2⟩], 2, 7, 0⟩
  have hs₀ : ((start [{}, {}]).run es).2.access = .ready s₀ := by decide +kernel
  obtain ⟨s, hs, h⟩ := tables_listed_by_history [{}, {}] es (by simp [es])
  obtain rfl : s₀ = s := Access.ready.inj (hs₀.symm.trans hs)
  obtain ⟨names, hanswer, hsorted, -, hnames, -⟩ := h x ⟨1, "d"⟩ ⟨by decide, _, rfl, rfl⟩
  have hlisted : names = ["a", "b"] := by
    refine hsorted.eq_of_mem_iff (by decide) fun name => (hnames name).trans ?_
    simp [s₀, eq_comm]
  exact ⟨s₀, names, hs, hanswer, hlisted, by decide +kernel⟩

end Catalog

end SchemaCatalog
