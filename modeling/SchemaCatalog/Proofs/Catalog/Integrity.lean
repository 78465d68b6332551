import SchemaCatalog.Proofs.Catalog.Consistency
import SchemaCatalog.Proofs.Session.Refusals

/-!
# What the store refuses is what the error says

A store can refuse a change for many reasons: what a row belongs to does not exist, nothing can be
kept as a name, a name is taken, rows refer to the row that is to be deleted. Whichever it is, the
one who has asked for the change reports a collision of names or a dependent view.

`Catalog.integrity_errors_not_misreported` says that these reports are right for all statements, on
every store that can come up. Of the six notes that tell of a refused change three are never
written, and the other three only in the situations of `Session.StoreRefuses`.
-/

namespace SchemaCatalog.Catalog

/-- **Integrity errors.** However a catalog has been used, and whatever statement a session handles
then: the rows of a new table or view are never refused, nor is the last row of a dropped database.
A change is refused by the store exactly when a database of that name exists, when a table has by
then a column of that name, or when a view reads by then from the object that is to be dropped. A
name that is said to be taken is, and a view stands in the way of what is said to be restricted. -/
theorem integrity_errors_not_misreported (sessions : List Session) (us : List Usage) :
    ∃ s, ((start sessions).useAll us).access = .ready s ∧
      ∀ (x : Session) (stmt : Statement),
        (∀ name kind, ∀ n ∈ (x.handle stmt.request (.ready s)).notes,
          n ≠ .tableRefused name ∧ n ≠ .viewRefused name ∧ n ≠ .integrityFailed kind) ∧
        (∀ n err, (x.handle stmt.request (.ready s)).notes = [n] ∧
            (x.handle stmt.request (.ready s)).answer = .error err ↔ x.StoreRefuses s stmt n err) ∧
        ∀ err, (x.handle stmt.request (.ready s)).answer = .error err → err.blamesRows = true →
          (∃ n, x.StoreRefuses s stmt n err) ∨ x.FindsTaken s stmt err := by
  obtain ⟨s, hs, hvalid⟩ := useAll_ready (c := start sessions) rfl Store.valid_empty us
  refine ⟨s, hs, fun x stmt => ?_⟩
  rw [Session.handle_eq, Session.attempt]
  cases hrun : x.run s stmt.request with
  | ok e =>
    dsimp only
    refine ⟨fun name kind n hn => ?_, fun n err => iff_of_false (by simp) fun hrefuses => ?_,
      by simp⟩
    · -- the note of a success is not one of a refusal
      have hlevel := Session.level_of_run_eq_ok hrun n (Option.mem_toList.mp hn)
      refine ⟨?_, ?_, ?_⟩ <;>
      · rintro rfl
        simp [Note.level] at hlevel
    · rw [hrefuses.run_eq_error] at hrun
      simp at hrun
  | error f =>
    dsimp only
    have haccounted := Session.run_accounted hvalid hrun
    -- a note is there only if the store has refused a change
    have hrefused : ∀ n, f.note = some n → x.StoreRefuses s stmt n f.error := by
      intro n hnote
      rcases haccounted with ⟨n', hn', hrefuses⟩ | ⟨hnone, -⟩
      · obtain rfl := Option.some.inj (hnote.symm.trans hn')
        exact hrefuses
      · simp [hnone] at hnote
    refine ⟨fun name kind n hn => ?_, fun n err => ⟨?_, fun hrefuses => ?_⟩, ?_⟩
    · exact (hrefused n (Option.mem_toList.mp hn)).note_ne name kind
    · rintro ⟨hnotes, herr⟩
      have hnote : n ∈ f.note := Option.mem_toList.mp (hnotes ▸ List.mem_singleton_self n)
      rw [← Except.error.inj herr]
      exact hrefused n hnote
    · rw [hrefuses.run_eq_error] at hrun
      obtain rfl := Except.error.inj hrun
      exact ⟨rfl, rfl⟩
    · intro err herr hblames
      rw [← Except.error.inj herr] at hblames ⊢
      rcases haccounted with ⟨n, -, hrefuses⟩ | ⟨-, hfound | hplain⟩
      · exact .inl ⟨n, hrefuses⟩
      · exact .inr hfound
      · simp [hplain] at hblames

/-- The second of two operations adds a column that the first one has added: there the store refuses
the new row, for the name. -/
theorem integrity_errors_not_misreported_alter :
    let create : Event := .request 0 (.createTable "t" [⟨"a", "int", true⟩])
    let b : ColumnDef := ⟨⟨"b", by decide⟩, ⟨"int", by decide⟩, false⟩
    let alter : Statement := .alterTable ⟨"t", by decide⟩ ⟨[.addColumn b, .addColumn b], by simp⟩
    let c := (start [{}]).useAll [.event (.request 0 (.createDatabase "shop")), .event create]
    ∃ x ∈ c.sessions, ∃ s, c.access = .ready s ∧
      x.StoreRefuses s alter (.columnRefused "b") (.alreadyExists .column "b") := by
  intro create b alter c
  obtain ⟨s, hs, h⟩ := integrity_errors_not_misreported [{}]
    [.event (.request 0 (.createDatabase "shop")), .event create]
  refine ⟨{ current := some ⟨1, "shop"⟩ }, List.mem_cons_self, s, hs, ?_⟩
  obtain rfl := Access.ready.inj hs
  exact ((h { current := some ⟨1, "shop"⟩ } alter).2.1 _ _).mp ⟨rfl, rfl⟩

end SchemaCatalog.Catalog
