import SchemaCatalog.Proofs.Catalog.Runs
import SchemaCatalog.Proofs.Named.Tables

/-!
# A catalog answers as its named form

For every run of validated statements by any number of sessions, the replies of a catalog are those
of the catalog of names (`Catalog.replies_eq_named`). What relates the two is that the named form of
the store is the store of names, and that every session points to what its client points to; one
statement keeps that (`Catalog.step_refines`).

Nothing is supposed of the sessions but that they start without a selection and that the names they
take a validated query to read from are texts.
-/

namespace SchemaCatalog

open Named (Agree Points Client Pointer)

variable {s : Store} {x : Session} {y : Client}

/-! ### One statement -/

/-- What a view reads from is found out when a database is selected. -/
theorem Session.references_eq_ok (hcurrent : x.current ≠ none) {query : ViewQuery}
    {names : List String} (hnames : x.visitor query = names.map .text) :
    x.references query = .ok (names.map .text) := by
  rw [Session.references, if_neg hcurrent, hnames, forM_eq_ok (by simp), ok_bind]

/-- A statement about the selected database leaves databases and selections alone. -/
theorem Session.run_scoped_agree (hs : s.Valid)
    (hselected : Agree (fun sel name => (⟨sel.id, name⟩ : DatabaseRow) ∈ s.databases)
      (x.selected s) y.pointer.database)
    {stmt : Statement} (hscoped : stmt.kind.isScoped = true)
    (hnames : ∀ name query, stmt = .createView name query →
      x.visitor query.view = (y.names query).map .text) :
    Agree (fun e e' => e'.store = e.store.named ∧ e'.rows = e.rows ∧
      e.store.databases = s.databases ∧ e.current = x.current ∧ e'.pointer = y.pointer)
      (x.run s stmt.request) (y.execute s.named stmt) := by
  cases stmt with
  | createDatabase | use | dropDatabase => exact absurd hscoped Bool.false_ne_true
  -- all others look at the selection first, and then do on both sides the same, one after the other
  | createTable name columns =>
    rw [Statement.request, run_createTable]
    refine hselected.bind fun sel database _ hd => ?_
    refine (Store.createTable_agree hs hd name.text columns).bind fun r t _ h => ?_
    exact .ok ⟨h.1, rfl, h.2, rfl, rfl⟩
  | drop kind names =>
    rw [Statement.request, run_drop]
    refine hselected.bind fun sel database _ hd => ?_
    refine (Store.dropNames_agree hs hd kind names.1).bind fun s' t _ h => ?_
    exact .ok ⟨h.1, rfl, h.2, rfl, rfl⟩
  | alterTable name operations =>
    rw [Statement.request, run_alterTable]
    refine hselected.bind fun sel database _ hd => ?_
    refine (Store.lookUpTable_agree hs hd name.text).bind fun o t _ htable => ?_
    obtain ⟨ho, hkind, rfl⟩ := htable
    have halter := Store.alter_agree hs (hs.mem_tables ho hkind) operations.1 (.start hs)
    rw [← Store.namedObject_columns hkind] at halter
    refine halter.bind fun s' columns hs' hagree => ?_
    obtain ⟨hcolumns, honly⟩ := hagree
    have hedits : Store.Edits .noView s s' := Session.alter_edits hs'
    refine .ok ⟨?_, rfl, honly.databases, rfl, rfl⟩
    rw [hcolumns]
    exact (Store.named_setColumns hs (hedits.valid hs) (hedits.evolves hs) ho hkind honly).symm
  | showTables =>
    rw [Statement.request, run_showTables]
    refine hselected.bind fun sel database _ hd => ?_
    refine .ok ⟨rfl, ?_, rfl, rfl, rfl⟩
    exact congrArg (fun names => some (names.map fun name => [name])) (hs.named_tableNames hd)
  | explainTable name =>
    rw [Statement.request, run_explainTable]
    refine hselected.bind fun sel database _ hd => ?_
    refine (Store.lookUpTable_agree hs hd name.text).bind fun o t _ htable => ?_
    obtain ⟨ho, hkind, rfl⟩ := htable
    refine .ok ⟨rfl, congrArg some ?_, rfl, rfl, rfl⟩
    rw [Store.namedObject_columns hkind, List.map_map]
    rfl
  | createView name query =>
    -- what the view reads from is asked before the selection is looked at, but only if there is one
    by_cases hcurrent : x.current = none
    · have hnone : x.selected s = .error (.of .noDatabaseSelected) := by
        rw [Session.selected, hcurrent]
      rw [hnone] at hselected
      rw [Statement.request, run_createView, Session.references, if_pos hcurrent,
        error_bind, Client.execute, hselected.eq_error, error_bind]
      exact .error _
    · rw [Statement.request, run_createView,
        Session.references_eq_ok hcurrent (hnames name query rfl), ok_bind]
      refine hselected.bind fun sel database _ hd => ?_
      refine (Store.resolve_agree hs (y.names query)).bind fun ids places _ hagree => ?_
      obtain ⟨hids, hplaces⟩ := hagree
      refine (Store.createView_agree hs hd name.text query.text.text hids hplaces).bind
        fun r t _ h => ?_
      exact .ok ⟨h.1, rfl, h.2, rfl, rfl⟩

/-- A statement about the selected database leaves the selections of others alone. -/
theorem Named.Pointer.after_of_isScoped {stmt : Statement} (hscoped : stmt.kind.isScoped = true)
    (p : Pointer) : p.after stmt = p := by
  cases stmt with
  | dropDatabase => exact absurd hscoped Bool.false_ne_true
  | _ => rfl

/-- What a request does is what a statement does on names: to the store, to the selection of who
makes it and to those of all others, and in the rows that are shown. -/
structure EffectsAgree (s : Store) (stmt : Statement) (e : Effect) (e' : Named.Effect) : Prop where
  store : e'.store = e.store.named
  rows : e'.rows = e.rows
  pointer : Points e.store e.current e'.pointer
  others : ∀ current p, Points s current p → Points e.store current (p.after stmt)

/-- A session does with a statement what its client does on names. -/
theorem Session.run_agree (hs : s.Valid) (hb : s.Backward) (hp : Points s x.current y.pointer)
    (hnames : ∀ q : Query NonemptyString, x.visitor q.view = (y.names q).map .text)
    (stmt : Statement) :
    Agree (EffectsAgree s stmt) (x.run s stmt.request) (y.execute s.named stmt) := by
  by_cases hscoped : stmt.kind.isScoped = true
  · have hrun := run_scoped_agree hs (hp.selected_agree hs rfl) hscoped
      fun _ query _ => hnames query
    refine hrun.mono fun e e' hrun hagree => ?_
    obtain ⟨hstore, hrows, hdatabases, hcurrent, hpointer⟩ := hagree
    have hedits : Store.Edits .resolved s e.store := run_edits hrun fun _ => rfl
    have hothers : ∀ current p, Points s current p → Points e.store current p :=
      fun _ _ h => h.mono (hedits.evolves hs) (hdatabases ▸ List.Subset.refl _)
    refine ⟨hstore, hrows, ?_, fun current p h => ?_⟩
    · rw [hcurrent, hpointer]
      exact hothers _ _ hp
    · rw [Pointer.after_of_isScoped hscoped]
      exact hothers _ _ h
  · cases stmt with
    | createDatabase name =>
      rw [Statement.request, run_createDatabase]
      refine (Store.createDatabase_agree hs name.text).bind fun r t _ hagree => ?_
      obtain ⟨d, s'⟩ := r
      obtain ⟨hstore, hname, hdatabases, hlater⟩ := hagree
      have hkept : s.databases ⊆ s'.databases := hdatabases ▸ List.subset_append_left _ _
      have hcreated := hp.created hlater hdatabases
      dsimp only at hname hcreated
      rw [hname] at hcreated
      exact .ok ⟨hstore, rfl, hcreated, fun _ _ h => h.mono hlater hkept⟩
    | use name =>
      rw [Statement.request, run_use]
      refine (Store.lookUpDatabase_agree name.text).bind fun d _ _ hagree => ?_
      obtain ⟨hd, hname⟩ := hagree
      exact .ok ⟨rfl, rfl, hname ▸ .selected hd, fun _ _ h => h⟩
    | dropDatabase name =>
      rw [Statement.request, run_dropDatabase]
      refine (Store.lookUpDatabase_agree name.text).bind fun d _ _ hagree => ?_
      obtain ⟨hd, hname⟩ := hagree
      rw [← hname]
      refine (Store.dropDatabase_agree hs hb hd).bind fun s' t _ hdropped => ?_
      obtain ⟨hstore, hlast, hrest⟩ := hdropped
      refine .ok ⟨hstore, rfl, hp.givenUp hs hd hlast hrest, fun _ _ h => ?_⟩
      rw [Pointer.after, ← hname]
      exact h.lost hs hd hlast hrest
    | _ => exact absurd rfl hscoped

/-! ### Runs -/

/-- A session is represented by a client that lists the same names and points to what the session
has selected. -/
structure Represents (s : Store) (x : Session) (y : Client) : Prop where
  names : ∀ q : Query NonemptyString, x.visitor q.view = (y.names q).map .text
  pointer : Points s x.current y.pointer

/-- A catalog with a valid store is represented by its named form. -/
structure Catalog.Refines (c : Catalog) (s : Store) (t : Named.Catalog) : Prop where
  access : c.access = .ready s
  valid : s.Valid
  backward : s.Backward
  store : t.store = s.named
  sessions : ∀ i : Nat, Option.Rel (Represents s) c.sessions[i]? t.clients[i]?

/-- What a session is as a client, before it has selected anything. -/
def Session.client (x : Session) : Client where
  names q := (x.visitor q.view).map Label.shown

/-- Sessions stay represented when one of them makes a change that keeps all others represented. -/
private theorem rel_set {s s' : Store} {xs : List Session} {ys : List Client} {i : Nat}
    {f : Client → Client} {x' : Session} {y' : Client} (hx : xs[i]? = some x) (hy : ys[i]? = some y)
    (h : ∀ i : Nat, Option.Rel (Represents s) xs[i]? ys[i]?) (hself : Represents s' x' y')
    (hothers : ∀ x y, Represents s x y → Represents s' x (f y)) (j : Nat) :
    Option.Rel (Represents s') (xs.set i x')[j]? ((ys.map f).set i y')[j]? := by
  by_cases hij : i = j
  · subst hij
    have hxs : i < xs.length := (List.getElem?_eq_some_iff.mp hx).1
    have hys : i < (ys.map f).length := by
      rw [List.length_map]
      exact (List.getElem?_eq_some_iff.mp hy).1
    rw [List.getElem?_set_self hxs, List.getElem?_set_self hys]
    exact .some hself
  · have hj := h j
    rw [List.getElem?_set_ne hij, List.getElem?_set_ne hij, List.getElem?_map]
    generalize xs[j]? = x? at hj ⊢
    generalize ys[j]? = y? at hj ⊢
    cases hj with
    | none => exact .none
    | some hrepresents => exact .some (hothers _ _ hrepresents)

namespace Catalog

variable {c : Catalog} {t : Named.Catalog}

/-- One statement gets the same reply, and leads to catalogs of which one represents the other. -/
theorem step_refines (h : c.Refines s t) (i : Nat) (stmt : Statement) :
    (c.step (.request i stmt.request)).1 = (t.step i stmt).1 ∧
      ∃ s', (c.step (.request i stmt.request)).2.Refines s' (t.step i stmt).2 := by
  have hi := h.sessions i
  rw [step, Named.Catalog.step]
  generalize hx : c.sessions[i]? = x? at hi
  generalize hy : t.clients[i]? = y? at hi
  cases hi with
  | none => exact ⟨rfl, s, h⟩
  | @some x y hxy =>
    have hagree := x.run_agree h.valid h.backward hxy.pointer hxy.names stmt
    simp only [Session.handle_eq, Session.attempt, h.access, h.store]
    generalize hrun : x.run s stmt.request = a at hagree
    generalize y.execute s.named stmt = b at hagree
    cases hagree with
    | error f =>
      refine ⟨rfl, s, h.access ▸ ?_⟩
      rw [set_session_self hx]
      exact h
    | @ok e e' heffect =>
      have hedits : Store.Edits .resolved s e.store := Session.run_edits hrun fun _ => rfl
      refine ⟨congrArg (fun rows => Reply.answer (.ok rows)) heffect.rows.symm, e.store, rfl,
        hedits.valid h.valid, hedits.backward h.valid h.backward, heffect.store,
        rel_set hx hy h.sessions ?_ ?_⟩
      · exact ⟨hxy.names, heffect.pointer⟩
      · exact fun x' y' hxy' => ⟨hxy'.names, heffect.others _ _ hxy'.pointer⟩

/-- A run of statements gets the same replies. -/
theorem run_refines (h : c.Refines s t) (stmts : List (Nat × Statement)) :
    (c.run (stmts.map fun p => .request p.1 p.2.request)).1 = t.replies stmts := by
  induction stmts generalizing c t s with
  | nil => rfl
  | cons p rest ih =>
    obtain ⟨i, stmt⟩ := p
    obtain ⟨hreply, s', hnext⟩ := step_refines h i stmt
    rw [List.map_cons, run_cons_fst, Named.Catalog.replies, hreply, ih hnext]

/-- At the beginning, every session is represented by its client. -/
theorem start_refines {sessions : List Session}
    (hsessions : ∀ x ∈ sessions, x.current = none ∧
      ∀ q : Query NonemptyString, ∀ l ∈ x.visitor q.view, ∃ name, l = .text name) :
    (start sessions).Refines .empty (.start (sessions.map Session.client)) := by
  refine ⟨rfl, Store.valid_empty, Store.backward_empty, rfl, fun i => ?_⟩
  show Option.Rel _ sessions[i]? (sessions.map Session.client)[i]?
  rw [List.getElem?_map]
  cases hx : sessions[i]? with
  | none => exact .none
  | some x =>
    obtain ⟨hcurrent, htexts⟩ := hsessions x (List.mem_of_getElem? hx)
    refine .some ⟨fun q => ?_, hcurrent ▸ .nothing⟩
    calc x.visitor q.view
        = (x.visitor q.view).map id := (List.map_id _).symm
      _ = ((x.visitor q.view).map Label.shown).map .text := by
        rw [List.map_map]
        refine List.map_congr_left fun l hl => ?_
        obtain ⟨name, rfl⟩ := htexts q l hl
        rfl

/-- **Refinement.** In every run of validated statements, made by any number of sessions in any
order, a catalog that starts without rows gives the replies of the catalog of names. -/
theorem replies_eq_named (sessions : List Session)
    (hsessions : ∀ x ∈ sessions, x.current = none ∧
      ∀ q : Query NonemptyString, ∀ l ∈ x.visitor q.view, ∃ name, l = .text name)
    (stmts : List (Nat × Statement)) :
    ((start sessions).run (stmts.map fun p => .request p.1 p.2.request)).1 =
      (Named.Catalog.start (sessions.map Session.client)).replies stmts :=
  run_refines (start_refines hsessions) stmts

/-- A view stands in the way of dropping its table alone, but not of dropping the database. When
that is done and the name used again, the selection of the other session stays stale. -/
theorem replies_eq_named_stale :
    ((start [{}, {}]).run
      (([(0, .createDatabase ⟨"a", by decide⟩), (1, .use ⟨"a", by decide⟩),
         (1, .createTable ⟨"t", by decide⟩ []),
         (1, .createView ⟨"v", by decide⟩
          (.mk ⟨"select", by decide⟩ [⟨"t", by decide⟩] [])),
         (1, .drop .table ⟨[⟨"t", by decide⟩], by simp⟩),
         (1, .dropDatabase ⟨"a", by decide⟩), (1, .createDatabase ⟨"a", by decide⟩),
         (0, .showTables)] : List (Nat × Statement)).map
        fun p => .request p.1 p.2.request)).1 =
      [.answer (.ok none), .answer (.ok none), .answer (.ok none), .answer (.ok none),
       .answer (.error (.constraintViolation (.dropObject .table "t"))), .answer (.ok none),
       .answer (.ok none), .answer (.error (.notFound .database "a"))] := by
  have hsessions : ∀ x ∈ ([{}, {}] : List Session), x.current = none ∧
      ∀ q : Query NonemptyString, ∀ l ∈ x.visitor q.view, ∃ name, l = .text name := by
    intro x hx
    obtain rfl : x = {} := by simpa using hx
    refine ⟨rfl, fun q l hl => ?_⟩
    obtain ⟨name, -, rfl⟩ := List.mem_map.mp hl
    exact ⟨name.text, rfl⟩
  rw [replies_eq_named [{}, {}] hsessions]
  rfl

end Catalog

end SchemaCatalog
