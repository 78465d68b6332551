import SchemaCatalog.Proofs.Catalog.Atomicity
import SchemaCatalog.Proofs.Named.Sessions
import SchemaCatalog.Proofs.Session.Selection

/-!
# A session keeps to the database that it has selected

`Catalog.sessions_keep_to_selection` says what a selection is good for at any moment of a run that
does not clear the store. If the database of its number exists, it has the name that was selected,
and what the session asks for shows and changes nothing but that database (`Catalog.KeepsTo`). If it
does not, everything that the session asks for is refused, for as long as the session does not
select a database with `USE`: whatever is created in the meantime, by whomever and under whichever
name, has another number.

What is true of all moments comes from what is true of one event (`Catalog.step_eq_or_run`): it
changes nothing, or one session has made a request that has succeeded.
-/

namespace SchemaCatalog.Catalog

variable {c : Catalog} {s : Store} {e : Event} {i : Nat} {sel : Selection}

/-! ### One event -/

/-- What an event does to a catalog with a store that can be changed, if anything: one of the
sessions has made a request that has succeeded. -/
theorem step_eq_or_run (hc : c.access = .ready s) (he : e ≠ .clear) :
    (c.step e).2 = c ∨ ∃ j x r effect, e.request? = some (j, r) ∧ (c.step e).1.isFailure = false ∧
      c.sessions[j]? = some x ∧ x.run s r = .ok effect ∧
      (c.step e).2 =
        ⟨.ready effect.store, c.sessions.set j { x with current := effect.current }⟩ := by
  cases hfailure : (c.step e).1.isFailure with
  | true => exact .inl (step_of_isFailure hfailure)
  | false =>
    cases hr : e.request? with
    | none =>
      by_cases hsetUp : e = .setUp
      · exact .inl (hsetUp ▸ step_setUp hc)
      · exact .inl (step_of_request?_eq_none hr hsetUp he)
    | some p =>
      obtain ⟨j, r⟩ := p
      rw [step_of_request? hr]
      cases hx : c.sessions[j]? with
      | none => exact .inl (by rw [handled, hx])
      | some x =>
        rw [handled_of_getElem? hx, hc]
        cases hrun : x.run s r with
        | error f =>
          simp only [Session.handle_eq, Session.attempt, hrun]
          exact .inl (by rw [set_session_self hx, ← hc])
        | ok effect =>
          refine .inr ⟨j, x, r, effect, rfl, rfl, hx, hrun, ?_⟩
          simp only [Session.handle_eq, Session.attempt, hrun, Access.after]

/-! ### Selections that fit -/

/-- The store can be changed, and what the sessions have selected fits it. -/
structure Fits (c : Catalog) (s : Store) : Prop where
  access : c.access = .ready s
  valid : s.Valid
  selections : ∀ x ∈ c.sessions, ∀ sel ∈ x.current, sel.Fits s

theorem Fits.step (h : c.Fits s) (he : e ≠ .clear) : ∃ s', (c.step e).2.Fits s' := by
  rcases step_eq_or_run h.access he with heq | ⟨j, x, r, effect, -, -, hx, hrun, heq⟩
  · exact ⟨s, heq.symm ▸ h⟩
  · have hedits : Store.Edits .resolved s effect.store := Session.run_edits hrun fun _ => rfl
    have hvalid := hedits.valid h.valid
    have hlater := hedits.evolves h.valid
    refine ⟨effect.store, heq ▸ ⟨rfl, hvalid, fun y hy => ?_⟩⟩
    rcases List.mem_or_eq_of_mem_set hy with hy | rfl
    · exact fun sel hsel => (h.selections y hy sel hsel).mono hlater
    · exact (Session.run_reselects h.valid hrun).fits h.valid hvalid hlater
        (h.selections x (List.mem_of_getElem? hx))

theorem Fits.run {es : List Event} (h : c.Fits s) (hes : .clear ∉ es) :
    ∃ s', (c.run es).2.Fits s' := by
  induction es generalizing c s with
  | nil => exact ⟨s, h⟩
  | cons e rest ih =>
    rw [List.mem_cons, not_or] at hes
    obtain ⟨s₁, h₁⟩ := h.step fun he => hes.1 he.symm
    exact ih h₁ hes.2

/-! ### Selections of databases that are gone -/

/-- A session selects a database with `USE`. -/
def Uses (c : Catalog) (i : Nat) (e : Event) : Prop :=
  (∃ name, e.request? = some (i, .use name)) ∧ (c.step e).1.isFailure = false

/-- In a run, a session never selects a database with `USE`. -/
def NeverUses (c : Catalog) (i : Nat) : List Event → Prop
  | [] => True
  | e :: rest => ¬ c.Uses i e ∧ (c.step e).2.NeverUses i rest

/-- A session has selected a database that does not exist any more. -/
structure Stale (c : Catalog) (i : Nat) (sel : Selection) (s : Store) : Prop where
  access : c.access = .ready s
  valid : s.Valid
  session : ∃ x, c.sessions[i]? = some x ∧ x.current = some sel
  id_le : sel.id ≤ s.lastDatabase
  gone : sel.id ∉ s.databases.map (·.id)

theorem Stale.step (h : c.Stale i sel s) (he : e ≠ .clear) (huses : ¬ c.Uses i e) :
    ∃ s', (c.step e).2.Stale i sel s' := by
  rcases step_eq_or_run h.access he with heq | ⟨j, x, r, effect, hr, hfailure, hx, hrun, heq⟩
  · exact ⟨s, heq.symm ▸ h⟩
  · have hedits : Store.Edits .resolved s effect.store := Session.run_edits hrun fun _ => rfl
    have hlater := hedits.evolves h.valid
    refine ⟨effect.store, heq ▸ ⟨rfl, hedits.valid h.valid, ?_,
      Int.le_trans h.id_le hlater.lastDatabase_le, hlater.database_gone h.id_le h.gone⟩⟩
    obtain ⟨y, hy, hcurrent⟩ := h.session
    by_cases hji : j = i
    · subst hji
      obtain rfl : y = x := Option.some.inj (hy.symm.trans hx)
      have hlt : j < c.sessions.length := (List.getElem?_eq_some_iff.mp hx).1
      refine ⟨_, List.getElem?_set_self hlt, ?_⟩
      -- the request is not a `USE`, since that would have succeeded
      have hreselects := Session.run_reselects h.valid hrun
      rw [hcurrent] at hreselects
      exact hreselects.eq_of_gone h.gone fun name hname => huses ⟨⟨name, hname ▸ hr⟩, hfailure⟩
    · exact ⟨y, (List.getElem?_set_ne hji).trans hy, hcurrent⟩

theorem Stale.run {es : List Event} (h : c.Stale i sel s) (hes : .clear ∉ es)
    (huses : c.NeverUses i es) : ∃ s', (c.run es).2.Stale i sel s' := by
  induction es generalizing c s with
  | nil => exact ⟨s, h⟩
  | cons e rest ih =>
    rw [List.mem_cons, not_or] at hes
    obtain ⟨s₁, h₁⟩ := h.step (fun he => hes.1 he.symm) huses.1
    exact ih h₁ hes.2 huses.2

/-- What a session asks for in a database that does not exist any more is refused. -/
theorem Stale.step_request (h : c.Stale i sel s) {x : Session} (hx : c.sessions[i]? = some x)
    {r : Request} (hscoped : r.isScoped = true) (hlists : x.Lists r) :
    c.step (.request i r) = (.answer (.error (.notFound .database sel.name)), c) := by
  obtain ⟨y, hy, hcurrent⟩ := h.session
  obtain rfl : y = x := Option.some.inj (hy.symm.trans hx)
  have hreply : (c.step (.request i r)).1 = .answer (.error (.notFound .database sel.name)) := by
    simp only [Catalog.step, hx, Session.handle_eq, Session.attempt, h.access,
      Session.run_of_gone hcurrent h.gone hscoped hlists]
    rfl
  exact Prod.ext hreply (step_of_isFailure (hreply ▸ rfl))

/-! ### Selections of databases that exist -/

/-- A request about the selected database changes nothing but the store, and there nothing outside
of that database. -/
theorem step_scoped (hc : c.access = .ready s) (hs : s.Valid) {x : Session}
    (hx : c.sessions[i]? = some x) {r : Request} (hscoped : r.isScoped = true) :
    ∃ s', (x.handle r (.ready s)).access = .ready s' ∧
      c.step (.request i r) =
        (.answer (x.handle r (.ready s)).answer, { c with access := .ready s' }) ∧
      s'.Valid ∧ s'.databases = s.databases ∧
      ∀ sel, x.selected s = .ok sel → s.OnlyIn s' sel.id := by
  obtain ⟨s', haccess, hsession, hvalid, hdatabases, honly⟩ := x.handle_onlyIn hs hscoped
  refine ⟨s', haccess, ?_, hvalid, hdatabases, honly⟩
  simp only [step, hx, hc, hsession, haccess]
  rw [set_session_self hx]

/-- A session keeps to a database, which is in the store. -/
structure KeepsTo (c : Catalog) (i : Nat) (s : Store) (d : DatabaseRow) : Prop where
  /-- All that a request about the selected database changes belongs to that database. -/
  changes : ∀ r : Request, r.isScoped = true →
    ∃ s', (c.step (.request i r)).2 = { c with access := .ready s' } ∧ s.OnlyIn s' d.id
  /-- On any other store that holds the same of the database, a statement about the selected
  database is answered in the same way, and the same becomes of the database; what a view refers to
  must be the same, too. -/
  reads : ∀ (x : Session) (stmt : Statement) (t : Store), c.sessions[i]? = some x →
    stmt.kind.isScoped = true → t.Valid → d ∈ t.databases →
    s.named.part d.name = t.named.part d.name → x.RefersAlike s t stmt →
    (c.step (.request i stmt.request)).1 =
        (({ c with access := .ready t } : Catalog).step (.request i stmt.request)).1 ∧
      (c.step (.request i stmt.request)).2.access.part? d.name =
        (({ c with access := .ready t } : Catalog).step (.request i stmt.request)).2.access.part?
          d.name

theorem keepsTo (hc : c.access = .ready s) (hs : s.Valid) {x : Session}
    (hx : c.sessions[i]? = some x) {d : DatabaseRow} (hworks : x.WorksIn s d) :
    c.KeepsTo i s d where
  changes r hscoped := by
    obtain ⟨hd, sel, hcurrent, hid⟩ := hworks
    obtain ⟨s', -, hstep, -, -, honly⟩ := step_scoped hc hs hx hscoped
    refine ⟨s', by rw [hstep], ?_⟩
    rw [hid]
    exact honly sel (Session.selected_of_mem hcurrent hs hd hid)
  reads y stmt t hy hscoped ht hd hpart hrefers := by
    obtain rfl : x = y := Option.some.inj (hx.symm.trans hy)
    obtain ⟨hanswer, hpart'⟩ :=
      Session.handle_alike hs ht hworks ⟨hd, hworks.current⟩ hpart hscoped hrefers
    simp only [step, hx, hc]
    exact ⟨congrArg Reply.answer hanswer, hpart'⟩

/-- **Selections.** At every moment of a run that does not clear the store, what a session has
selected determines what it can do. If there is a database of the selected number, it has the
selected name, and the session keeps to it. If there is none, the requests of the session about the
selected database are refused and change nothing, now and after everything that happens until the
session makes a `USE` that succeeds. -/
theorem sessions_keep_to_selection (sessions : List Session)
    (hsessions : ∀ x ∈ sessions, x.current = none) (es : List Event) (hes : .clear ∉ es)
    (i : Nat) (x : Session) (hx : ((start sessions).run es).2.sessions[i]? = some x)
    (sel : Selection) (hsel : x.current = some sel) :
    ∃ s, ((start sessions).run es).2.access = .ready s ∧
      (∀ d ∈ s.databases, d.id = sel.id →
        sel.name.stored? = some d.name ∧ ((start sessions).run es).2.KeepsTo i s d) ∧
      (sel.id ∉ s.databases.map (·.id) → ∀ es', .clear ∉ es' →
        ((start sessions).run es).2.NeverUses i es' →
        ∃ y, ((start sessions).run (es ++ es')).2.sessions[i]? = some y ∧ y.current = some sel ∧
          ∀ r : Request, r.isScoped = true → y.Lists r →
            ((start sessions).run (es ++ es')).2.step (.request i r) =
              (.answer (.error (.notFound .database sel.name)),
                ((start sessions).run (es ++ es')).2)) := by
  have hstart : (start sessions).Fits .empty := by
    refine ⟨rfl, Store.valid_empty, fun x hx sel hsel => ?_⟩
    rw [hsessions x hx] at hsel
    exact absurd hsel (Option.not_mem_none sel)
  obtain ⟨s, h⟩ := hstart.run hes
  have hfits := h.selections x (List.mem_of_getElem? hx) sel hsel
  refine ⟨s, h.access, fun d hd hid => ⟨hfits.name d hd hid, ?_⟩, fun hgone es' hes' huses => ?_⟩
  · exact keepsTo h.access h.valid hx ⟨hd, sel, hsel, hid⟩
  · have hstale : ((start sessions).run es).2.Stale i sel s :=
      ⟨h.access, h.valid, ⟨x, hx, hsel⟩, hfits.id_le, hgone⟩
    obtain ⟨s', h'⟩ := hstale.run hes' huses
    rw [← run_append_snd] at h'
    obtain ⟨y, hy, hcurrent⟩ := h'.session
    exact ⟨y, hy, hcurrent, fun r hscoped hlists => h'.step_request hy hscoped hlists⟩

/-- The second session drops the database that both have selected, and creates another one of that
name. It keeps to the new database, and the first session is refused. -/
theorem sessions_keep_to_selection_recreated :
    let before : List Event :=
      [.request 0 (.createDatabase "a"), .request 1 (.use "a"), .request 1 (.dropDatabase "a")]
    let after : List Event := [.request 1 (.createDatabase "a")]
    let c := ((start [{}, {}]).run (before ++ after)).2
    ∃ s, c.access = .ready s ∧ s.databases = [⟨2, "a"⟩] ∧ c.KeepsTo 1 s ⟨2, "a"⟩ ∧
      c.step (.request 0 .showTables) = (.answer (.error (.notFound .database "a")), c) := by
  intro before after c
  have hsessions : ∀ x ∈ ([{}, {}] : List Session), x.current = none := by simp
  obtain ⟨s, hs, hlive, -⟩ := sessions_keep_to_selection [{}, {}] hsessions (before ++ after)
    (by simp [before, after]) 1 { current := some ⟨2, "a"⟩ } rfl ⟨2, "a"⟩ rfl
  obtain ⟨s₀, hs₀, -, hgone⟩ := sessions_keep_to_selection [{}, {}] hsessions before
    (by simp [before]) 0 { current := some ⟨1, "a"⟩ } rfl ⟨1, "a"⟩ rfl
  have hnever : ((start [{}, {}]).run before).2.NeverUses 0 after := by
    refine ⟨?_, trivial⟩
    rintro ⟨⟨name, huse⟩, -⟩
    simp [Event.request?] at huse
  obtain rfl := Access.ready.inj hs₀
  obtain ⟨y, hy, -, hrefused⟩ := hgone (by decide) after (by simp [after]) hnever
  obtain rfl := Access.ready.inj hs
  exact ⟨_, rfl, rfl, (hlive ⟨2, "a"⟩ List.mem_cons_self rfl).2, hrefused .showTables rfl trivial⟩

end SchemaCatalog.Catalog
