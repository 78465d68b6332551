import SchemaCatalog.Proofs.Catalog.Runs

/-!
# Every store of a catalog is consistent

A catalog is used in two ways: its sessions handle requests and lines, and its store is called
directly, in transactions of which only what is committed stays. `usages_consistent` says that
every store that comes up in this way is consistent, also inside a transaction that is still open.

Nothing is supposed of the names and numbers that direct calls are given, of the sessions, or of
the success of anything.
-/

namespace SchemaCatalog

/-- A use that is made of a catalog. -/
inductive Usage
  | event (e : Event)
  /-- Calls on the store, in a transaction of their own that is given up at the end. -/
  | calls (cs : List Call)

namespace Catalog

/-- Lets a catalog be used once. A store that cannot be changed is not called directly. -/
def use (c : Catalog) : Usage → Catalog
  | .event e => (c.step e).2
  | .calls cs =>
    match c.access with
    | .ready s => { c with access := .ready ((Transaction.begin s).run cs).committed }
    | _ => c

/-- Lets a catalog be used again and again. -/
def useAll (c : Catalog) (us : List Usage) : Catalog := us.foldl use c

/-- A transaction begins with a store that is valid inside and outside. -/
private theorem begin_valid {s : Store} (h : s.Valid) : (Transaction.begin s).Valid := ⟨h, h⟩

/-- One use keeps an invariant. -/
theorem use_invariant {P : Store → Prop} (hP : Store.IsInvariant P) {c : Catalog} {s : Store}
    (hc : c.access = .ready s) (hs : P s) (u : Usage) :
    ∃ s', (c.use u).access = .ready s' ∧ P s' := by
  cases u with
  | calls cs =>
    rw [use, hc]
    have hrun : P ((Transaction.begin s).run cs).committed :=
      (Transaction.run_invariant hP ⟨hs, hs⟩ cs).1
    exact ⟨_, rfl, hrun⟩
  | event e =>
    by_cases he : e = .clear
    · rw [use, he, step_clear hc]
      exact ⟨.empty, rfl, hP.empty⟩
    · obtain ⟨s', hc', hedits⟩ := step_ready hc he
      exact ⟨s', hc', hP.edits hedits hs⟩

/-- Every use of a catalog keeps an invariant. -/
theorem useAll_invariant {P : Store → Prop} (hP : Store.IsInvariant P) {c : Catalog} {s : Store}
    (hc : c.access = .ready s) (hs : P s) (us : List Usage) :
    ∃ s', (c.useAll us).access = .ready s' ∧ P s' := by
  induction us generalizing c s with
  | nil => exact ⟨s, hc, hs⟩
  | cons u rest ih =>
    obtain ⟨s₁, hc₁, hs₁⟩ := use_invariant hP hc hs u
    exact ih hc₁ hs₁

/-- Every use of a catalog keeps the store valid. -/
theorem useAll_ready {c : Catalog} {s : Store} (hc : c.access = .ready s) (hs : s.Valid)
    (us : List Usage) : ∃ s', (c.useAll us).access = .ready s' ∧ s'.Valid :=
  useAll_invariant Store.isInvariant_valid hc hs us

/-- **Consistency.** However a catalog has been used, its store can be changed and is consistent,
and so is what any further calls see of it in a transaction. -/
theorem usages_consistent (sessions : List Session) (us : List Usage) :
    ∃ s, ((start sessions).useAll us).access = .ready s ∧ s.Consistent ∧
      ∀ cs, ((Transaction.begin s).run cs).working.Consistent := by
  obtain ⟨s, hs, hvalid⟩ := useAll_ready (c := start sessions) rfl Store.valid_empty us
  exact ⟨s, hs, hvalid.consistent, fun cs => ((begin_valid hvalid).run cs).2.consistent⟩

end Catalog

end SchemaCatalog
