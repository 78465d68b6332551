import SchemaCatalog.Proofs.Catalog.Runs

/-!
# All or nothing

A request that is refused leaves no trace: neither in the rows and counters of the store nor in what
any session has selected, and therefore not in anything that happens later. Its handler works in
place and may fail in the middle of a loop, when rows have been added and removed already; that all
of this is taken back, and that the session has not been touched by then, is
`Session.handle_of_error`. So the refused requests and lines of a run can be left out
(`Catalog.withoutFailures`), and all the others go as before.
-/

namespace SchemaCatalog

/-- Whether a request or a line has been refused. -/
def Reply.isFailure : Reply → Bool
  | .answer (.error _) | .line false _ _ => true
  | _ => false

namespace Session

variable {x : Session} {a : Access}

/-- A line that fails changes neither the session nor the store. -/
theorem runLine_of_failure {text : String} (h : (x.runLine text a).succeeded = false) :
    (x.runLine text a).session = x ∧ (x.runLine text a).access = a := by
  rw [runLine] at h ⊢
  split
  · exact ⟨rfl, rfl⟩
  · rename_i stmt hread
    rw [hread] at h
    dsimp only at h ⊢
    split at h
    · simp at h
    · rename_i err herr
      exact handle_of_error herr

end Session

namespace Catalog

variable {c : Catalog} {e : Event}

/-- A request or line that is refused leaves the catalog as it was. -/
theorem step_of_isFailure (h : (c.step e).1.isFailure = true) : (c.step e).2 = c := by
  cases e with
  | request i r =>
    rw [step] at h ⊢
    cases hx : c.sessions[i]? with
    | none => rfl
    | some x =>
      simp only [hx] at h ⊢
      cases herr : (x.handle r c.access).answer with
      | ok rows => simp [herr, Reply.isFailure] at h
      | error err =>
        obtain ⟨hsession, haccess⟩ := Session.handle_of_error herr
        rw [hsession, haccess, set_session_self hx]
  | line i text =>
    rw [step] at h ⊢
    cases hx : c.sessions[i]? with
    | none => rfl
    | some x =>
      simp only [hx] at h ⊢
      cases hsucceeded : (x.runLine text c.access).succeeded with
      | true => simp [hsucceeded, Reply.isFailure] at h
      | false =>
        obtain ⟨hsession, haccess⟩ := Session.runLine_of_failure hsucceeded
        rw [hsession, haccess, set_session_self hx]
  | setUp =>
    rw [step] at h ⊢
    cases hinit : c.access.initialized with
    | ok a => simp [hinit, withTables, Reply.isFailure] at h
    | error outage => rfl
  | clear =>
    rw [step] at h ⊢
    cases hclear : c.access.cleared with
    | ok a => simp [hclear, withTables, Reply.isFailure] at h
    | error outage => rfl

/-- The events of a run without the requests and lines that are refused in it. -/
def withoutFailures (c : Catalog) : List Event → List Event
  | [] => []
  | e :: rest =>
    if (c.step e).1.isFailure then (c.step e).2.withoutFailures rest
    else e :: (c.step e).2.withoutFailures rest

/-- Leaving out what is refused changes neither where a run ends nor the other replies. -/
theorem run_withoutFailures (es : List Event) :
    (c.run (c.withoutFailures es)).2 = (c.run es).2 ∧
      (c.run (c.withoutFailures es)).1 = (c.run es).1.filter (!·.isFailure) := by
  induction es generalizing c with
  | nil => exact ⟨rfl, rfl⟩
  | cons e rest ih =>
    rw [withoutFailures]
    split_ifs with h
    · -- the rest of the run begins with the catalog as it was before the refused event
      have hstep := step_of_isFailure h
      rw [run_cons_snd, run_cons_fst, List.filter_cons_of_neg (by simp [h]), hstep]
      exact ih
    · rw [run_cons_snd, run_cons_fst, run_cons_snd, run_cons_fst,
        List.filter_cons_of_pos (by simpa using h)]
      exact ⟨ih.1, congrArg _ ih.2⟩

/-- **Atomicity.** In every catalog, a request that is refused leaves the store and all sessions as
they were; and in every run, the requests and lines that are refused can be left out. -/
theorem failures_leave_no_trace (c : Catalog) :
    (∀ i r err, (c.step (.request i r)).1 = .answer (.error err) →
      (c.step (.request i r)).2 = c) ∧
    ∀ es, (c.run (c.withoutFailures es)).2 = (c.run es).2 ∧
      (c.run (c.withoutFailures es)).1 = (c.run es).1.filter (!·.isFailure) :=
  ⟨fun _ _ _ h => step_of_isFailure (by rw [h]; rfl), fun es => run_withoutFailures es⟩

/-- A `DROP` of two tables, of which only the first exists, drops neither: in place, the first one
is gone when the second one is not found. -/
theorem failures_leave_no_trace_drop :
    let c := ((start [{}]).run [.request 0 (.createDatabase "shop"),
      .request 0 (.createTable "a" [])]).2
    let drop : Event := .request 0 (.drop .table ["a", "b"])
    ∃ s s', c.access = .ready s ∧ s.objects = [⟨1, .table, "a", 1⟩] ∧
      Handler.dropNames 1 .table ["a", "b"] s =
        .error (.of (.notFound (.object .table) "b")) s' ∧ s'.objects = [] ∧
      (c.step drop).1 = .answer (.error (.notFound (.object .table) "b")) ∧
      (c.step drop).2 = c := by
  intro c drop
  have hrefused : (c.step drop).1 = .answer (.error (.notFound (.object .table) "b")) := rfl
  have hstore : c.access =
      .ready ⟨[⟨1, "shop"⟩], [⟨1, .table, "a", 1⟩], [1], [], [], [], 1, 1, 0⟩ := by
    decide +kernel
  exact ⟨_, _, hstore, rfl, rfl, rfl, hrefused, (failures_leave_no_trace c).1 0 _ _ hrefused⟩

end Catalog

end SchemaCatalog
