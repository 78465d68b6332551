import SchemaCatalog.Proofs.Catalog.Consistency
import SchemaCatalog.Proofs.Catalog.Selection

/-!
# Sessions in different databases

Two sessions that work in different databases do not notice each other, as long as both make
statements about tables: each gets the replies that it would get alone
(`Catalog.sessions_do_not_interfere`). In whichever order the statements of the two are made, those
of one session are a part of all in their own order; so they are kept here in one list, with the
place of the session beside each statement.

The stores of the two runs differ in the other database and in all numbers. What they have in common
is the part that the session's own database is (`Catalog.Beside`).
-/

namespace SchemaCatalog.Catalog

variable {c c' : Catalog} {s t : Store} {d : DatabaseRow} {k : Nat}

/-! ### Replies -/

/-- The replies to statements, each of which is made by one of the sessions. -/
def replies (c : Catalog) (stmts : List (Nat × Statement)) : List Reply :=
  (c.run (stmts.map fun p => .request p.1 p.2.request)).1

/-- The replies that one of the sessions gets. -/
def repliesTo (c : Catalog) (k : Nat) (stmts : List (Nat × Statement)) : List Reply :=
  ((stmts.zip (c.replies stmts)).filter (·.1.1 = k)).map (·.2)

theorem replies_cons (p : Nat × Statement) (rest : List (Nat × Statement)) :
    c.replies (p :: rest) = (c.step (.request p.1 p.2.request)).1 ::
      (c.step (.request p.1 p.2.request)).2.replies rest := rfl

/-- What a session is replied to its own statement. -/
theorem repliesTo_cons_self {p : Nat × Statement} (hp : p.1 = k) (rest : List (Nat × Statement)) :
    c.repliesTo k (p :: rest) = (c.step (.request p.1 p.2.request)).1 ::
      (c.step (.request p.1 p.2.request)).2.repliesTo k rest := by
  rw [repliesTo, replies_cons, List.zip_cons_cons, List.filter_cons_of_pos (by simpa using hp)]
  rfl

/-- The reply to a statement of another session is not among those to a session. -/
theorem repliesTo_cons_other {p : Nat × Statement} (hp : p.1 ≠ k)
    (rest : List (Nat × Statement)) :
    c.repliesTo k (p :: rest) = (c.step (.request p.1 p.2.request)).2.repliesTo k rest := by
  rw [repliesTo, replies_cons, List.zip_cons_cons, List.filter_cons_of_neg (by simpa using hp)]
  rfl

/-! ### One run beside the other -/

/-- Two catalogs with the same sessions and the same databases, and in one of these the same
objects. -/
structure Beside (d : DatabaseRow) (c c' : Catalog) (s t : Store) : Prop where
  access : c.access = .ready s
  access' : c'.access = .ready t
  sessions : c'.sessions = c.sessions
  valid : s.Valid
  valid' : t.Valid
  databases : t.databases = s.databases
  part : s.named.part d.name = t.named.part d.name

namespace Beside

variable {x : Session} {stmt : Statement}

/-- A statement about the tables of the database is replied to in the same way on both sides. -/
theorem step_both (h : Beside d c c' s t) (hx : c.sessions[k]? = some x) (hworks : x.WorksIn s d)
    (htables : stmt.isAboutTables = true) :
    (c.step (.request k stmt.request)).1 = (c'.step (.request k stmt.request)).1 ∧
      ∃ s' t', (c.step (.request k stmt.request)).2 = { c with access := .ready s' } ∧
        s'.databases = s.databases ∧
        Beside d { c with access := .ready s' } (c'.step (.request k stmt.request)).2 s' t' := by
  have hscoped := Statement.isScoped_of_isAboutTables htables
  have hrequest : stmt.request.isScoped = true := by rw [Statement.isScoped_request, hscoped]
  have hx' : c'.sessions[k]? = some x := by rw [h.sessions, hx]
  obtain ⟨s', hs', hstep, hvalid, hdatabases, -⟩ := step_scoped h.access h.valid hx hrequest
  obtain ⟨t', ht', hstep', hvalid', hdatabases', -⟩ := step_scoped h.access' h.valid' hx' hrequest
  have hworks' : x.WorksIn t d := hworks.of_databases_eq h.databases
  obtain ⟨hanswer, hpart⟩ := Session.handle_alike h.valid h.valid' hworks hworks' h.part hscoped
    (by cases stmt with | createView => exact absurd htables Bool.false_ne_true | _ => trivial)
  rw [hs', ht', Access.part?_ready, Access.part?_ready] at hpart
  rw [hstep, hstep']
  refine ⟨congrArg Reply.answer hanswer, s', t', rfl, hdatabases, rfl, rfl, h.sessions, hvalid,
    hvalid', ?_, Option.some.inj hpart⟩
  rw [hdatabases, hdatabases', h.databases]

/-- A statement about the tables of another database leaves the two sides beside each other,
although it is made on one of them only. -/
theorem step_other (h : Beside d c c' s t) (hd : d ∈ s.databases) (hx : c.sessions[k]? = some x)
    {d' : DatabaseRow} (hworks : x.WorksIn s d') (hne : d' ≠ d)
    (htables : stmt.isAboutTables = true) :
    ∃ s', (c.step (.request k stmt.request)).2 = { c with access := .ready s' } ∧
      s'.databases = s.databases ∧ Beside d { c with access := .ready s' } c' s' t := by
  have hscoped := Statement.isScoped_of_isAboutTables htables
  obtain ⟨s', hs', hstep, hvalid, hdatabases, -⟩ :=
    step_scoped h.access h.valid hx (r := stmt.request)
      (by rw [Statement.isScoped_request, hscoped])
  have hid : d'.id ≠ d.id := fun hid =>
    hne (h.valid.database_numbers.eq_of_number_eq hworks.mem hd hid)
  have hpart := Session.handle_part_other h.valid hworks hd hid htables
  rw [hs', Access.part?_ready] at hpart
  refine ⟨s', by rw [hstep], hdatabases, rfl, h.access', h.sessions, hvalid, h.valid', ?_, ?_⟩
  · rw [hdatabases, h.databases]
  · rw [Option.some.inj hpart, h.part]

/-- A session is replied as if it were alone, if all others work in other databases. -/
theorem repliesTo_eq (h : Beside d c c' s t) (hx : c.sessions[k]? = some x) (hworks : x.WorksIn s d)
    {stmts : List (Nat × Statement)} (htables : ∀ p ∈ stmts, p.2.isAboutTables = true)
    (hothers : ∀ p ∈ stmts, p.1 ≠ k →
      ∃ y d', c.sessions[p.1]? = some y ∧ y.WorksIn s d' ∧ d' ≠ d) :
    c.repliesTo k stmts = c'.replies (stmts.filter (·.1 = k)) := by
  induction stmts generalizing c c' s t with
  | nil => rfl
  | cons p rest ih =>
    obtain ⟨htable, htables⟩ := List.forall_mem_cons.mp htables
    obtain ⟨hother, hothers⟩ := List.forall_mem_cons.mp hothers
    -- whoever makes the statement, the sessions work where they did
    have hrest : ∀ s' : Store, s'.databases = s.databases → ∀ p ∈ rest, p.1 ≠ k →
        ∃ y d', c.sessions[p.1]? = some y ∧ y.WorksIn s' d' ∧ d' ≠ d := by
      intro s' hdatabases p hp hne
      obtain ⟨y, d', hy, hy', hd'⟩ := hothers p hp hne
      exact ⟨y, d', hy, hy'.of_databases_eq hdatabases, hd'⟩
    by_cases hp : p.1 = k
    · have hx' : c.sessions[p.1]? = some x := by rw [hp, hx]
      obtain ⟨hreply, s', t', hstep, hdatabases, hnext⟩ := h.step_both hx' hworks htable
      rw [repliesTo_cons_self hp, List.filter_cons_of_pos (by simpa using hp), replies_cons, hreply,
        hstep, ih hnext hx (hworks.of_databases_eq hdatabases) htables (hrest s' hdatabases)]
    · obtain ⟨y, d', hy, hy', hd'⟩ := hother hp
      obtain ⟨s', hstep, hdatabases, hnext⟩ := h.step_other hworks.mem hy hy' hd' htable
      rw [repliesTo_cons_other hp, List.filter_cons_of_neg (by simpa using hp), hstep,
        ih hnext hx (hworks.of_databases_eq hdatabases) htables (hrest s' hdatabases)]

end Beside

/-- **Isolation.** However a catalog has been used, let two sessions have selected two different
databases that exist. In whatever order they make statements about tables, each gets the replies
that it gets when it makes its own statements alone. -/
theorem sessions_do_not_interfere (sessions : List Session) (us : List Usage) (s : Store)
    (hs : ((start sessions).useAll us).access = .ready s) (i j : Nat) (x y : Session)
    (hx : ((start sessions).useAll us).sessions[i]? = some x)
    (hy : ((start sessions).useAll us).sessions[j]? = some y) (d d' : DatabaseRow)
    (hd : x.WorksIn s d) (hd' : y.WorksIn s d') (hne : d ≠ d') (stmts : List (Nat × Statement))
    (hstmts : ∀ p ∈ stmts, (p.1 = i ∨ p.1 = j) ∧ p.2.isAboutTables = true) :
    ((start sessions).useAll us).repliesTo i stmts =
        ((start sessions).useAll us).replies (stmts.filter (·.1 = i)) ∧
      ((start sessions).useAll us).repliesTo j stmts =
        ((start sessions).useAll us).replies (stmts.filter (·.1 = j)) := by
  obtain ⟨s', hs', hvalid⟩ := useAll_ready (c := start sessions) rfl Store.valid_empty us
  obtain rfl := Access.ready.inj (hs.symm.trans hs')
  have hbeside : ∀ d, Beside d ((start sessions).useAll us) ((start sessions).useAll us) s s :=
    fun d => ⟨hs, hs, rfl, hvalid, hvalid, rfl, rfl⟩
  constructor
  · refine (hbeside d).repliesTo_eq hx hd (fun p hp => (hstmts p hp).2) fun p hp hp' => ?_
    exact ⟨y, d', (hstmts p hp).1.resolve_left hp' ▸ hy, hd', hne.symm⟩
  · refine (hbeside d').repliesTo_eq hy hd' (fun p hp => (hstmts p hp).2) fun p hp hp' => ?_
    exact ⟨x, d, (hstmts p hp).1.resolve_right hp' ▸ hx, hd, hne⟩

/-- Two sessions have a table of the same name, each in its own database. One of them drops it, and
the other still has it. -/
theorem sessions_do_not_interfere_namesakes :
    let us : List Usage :=
      [.event (.request 0 (.createDatabase "a")), .event (.request 1 (.createDatabase "b"))]
    let t : NonemptyString := ⟨"t", by decide⟩
    let stmts : List (Nat × Statement) :=
      [(0, .createTable t []), (1, .createTable t [⟨⟨"x", by decide⟩, ⟨"INT", by decide⟩, true⟩]),
       (0, .drop .table ⟨[t], by simp⟩), (1, .explainTable t), (0, .explainTable t)]
    let c := (start [{}, {}]).useAll us
    c.repliesTo 0 stmts = [.answer (.ok none), .answer (.ok none),
        .answer (.error (.notFound (.object .table) "t"))] ∧
      c.repliesTo 1 stmts = [.answer (.ok none), .answer (.ok (some [["x", "INT", "PRI"]]))] := by
  intro us t stmts c
  obtain ⟨s, hs, -⟩ := useAll_ready (c := start [{}, {}]) rfl Store.valid_empty us
  have hc : (start [{}, {}]).useAll us =
      ⟨.ready ⟨[⟨1, "a"⟩, ⟨2, "b"⟩], [], [], [], [], [], 2, 0, 0⟩,
        [{ current := some ⟨1, "a"⟩ }, { current := some ⟨2, "b"⟩ }]⟩ := rfl
  have hdatabases : s.databases = [⟨1, "a"⟩, ⟨2, "b"⟩] := by
    rw [hc] at hs
    rw [← Access.ready.inj hs]
  have hstmts : ∀ p ∈ stmts, (p.1 = 0 ∨ p.1 = 1) ∧ p.2.isAboutTables = true := by
    simp [stmts, Statement.isAboutTables]
  obtain ⟨hfirst, hsecond⟩ := sessions_do_not_interfere [{}, {}] us s hs 0 1
    { current := some ⟨1, "a"⟩ } { current := some ⟨2, "b"⟩ } (by rw [hc]; rfl) (by rw [hc]; rfl)
    ⟨1, "a"⟩ ⟨2, "b"⟩ ⟨by simp [hdatabases], _, rfl, rfl⟩ ⟨by simp [hdatabases], _, rfl, rfl⟩
    (by decide) stmts hstmts
  constructor
  · rw [hfirst, hc]
    rfl
  · rw [hsecond, hc]
    rfl

end SchemaCatalog.Catalog
