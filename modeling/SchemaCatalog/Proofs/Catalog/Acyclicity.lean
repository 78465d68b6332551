import SchemaCatalog.Proofs.Catalog.Runs
import SchemaCatalog.Proofs.Store.Dropping

/-!
# Views read from what is older

Whatever has happened to a catalog, every view in its store has a greater number than the objects
it reads from. Numbers therefore decrease along every chain of views that read from each other, so
no chain comes back to where it began (`Catalog.dependencies_point_backwards`), whichever databases
it leads through.

Dropping a database with the newest object first relies on that: of the objects that stand in the
way of each other none is left when its turn comes, and only what reads from outside can make it
fail (`Store.Backward.dropDatabase_isOk_iff`).

Stores that are called directly are left out here. A direct call gives the numbers that a view reads
from, and they may be its own.
-/

namespace SchemaCatalog

namespace Store

variable {s : Store}

/-- The object numbered `viewId` is a view that reads from the object numbered `objectId`. -/
def ReadsFrom (s : Store) (viewId objectId : Id) : Prop :=
  (⟨viewId, objectId⟩ : Dependency) ∈ s.dependencies

namespace Backward

/-- Numbers decrease along a chain of views. -/
theorem lt_of_transGen (hb : s.Backward) {a b : Id} (h : Relation.TransGen s.ReadsFrom a b) :
    b < a := by
  induction h with
  | single he => exact hb _ he
  | tail _ he ih => exact Int.lt_trans (hb _ he) ih

/-- No chain of views comes back to where it began. -/
theorem not_transGen_self (hb : s.Backward) (id : Id) : ¬ Relation.TransGen s.ReadsFrom id id :=
  fun hcycle => Int.lt_irrefl id (hb.lt_of_transGen hcycle)

/-- A database can be dropped exactly if nothing outside of it reads from one of its objects. -/
theorem dropDatabase_isOk_iff (hb : s.Backward) (hs : s.Valid) (d : DatabaseRow) :
    (∃ s', s.dropDatabase d = .ok s') ↔
      ∀ e ∈ s.dependencies, e.objectId ∈ (s.objectsOf d.id).map (·.id) →
        e.viewId ∈ (s.objectsOf d.id).map (·.id) := by
  rw [hb.dropDatabase_eq_match hs d]
  cases hheld : (s.objectsOf d.id).reverse.find? fun o =>
      s.isReadByOthers ((s.objectsOf d.id).map (·.id)) o.id with
  | some o =>
    refine iff_of_false (by simp) fun hinside => ?_
    have ho : o ∈ s.objectsOf d.id := List.mem_reverse.mp (List.mem_of_find?_eq_some hheld)
    have hread := List.find?_some hheld
    obtain ⟨e, he, hobject, hview⟩ := isReadByOthers_eq_true_iff.mp hread
    exact hview (hinside e he (hobject ▸ List.mem_map_of_mem ho))
  | none =>
    refine iff_of_true ⟨_, rfl⟩ fun e he hobject => ?_
    by_contra hview
    obtain ⟨o, ho, hid⟩ := List.mem_map.mp hobject
    have hfree := List.find?_eq_none.mp hheld o (List.mem_reverse.mpr ho)
    exact hfree (isReadByOthers_eq_true_iff.mpr ⟨e, he, hid.symm, hview⟩)

end Backward

end Store

namespace Catalog

variable {c : Catalog} {s : Store}

/-- Every event keeps views newer than what they read from. -/
theorem step_backward (hc : c.access = .ready s) (hs : s.Valid) (hb : s.Backward) (e : Event) :
    ∃ s', (c.step e).2.access = .ready s' ∧ s'.Valid ∧ s'.Backward := by
  by_cases he : e = .clear
  · rw [he, step_clear hc]
    exact ⟨.empty, rfl, Store.valid_empty, Store.backward_empty⟩
  · obtain ⟨s', hc', hedits⟩ := step_ready hc he
    exact ⟨s', hc', hedits.valid hs, hedits.backward hs hb⟩

/-- Every run keeps views newer than what they read from. -/
theorem run_backward (hc : c.access = .ready s) (hs : s.Valid) (hb : s.Backward)
    (es : List Event) : ∃ s', (c.run es).2.access = .ready s' ∧ s'.Valid ∧ s'.Backward := by
  induction es generalizing c s with
  | nil => exact ⟨s, hc, hs, hb⟩
  | cons e rest ih =>
    obtain ⟨s₁, hc₁, hs₁, hb₁⟩ := step_backward hc hs hb e
    exact ih hc₁ hs₁ hb₁

/-- **Dependencies point backwards.** After every run, each view has a greater number than what it
reads from; so there is no cycle of views, and a database can be dropped unless a view outside of it
reads from one of its objects. -/
theorem dependencies_point_backwards (sessions : List Session) (es : List Event) :
    ∃ s, ((start sessions).run es).2.access = .ready s ∧
      (∀ e ∈ s.dependencies, e.objectId < e.viewId) ∧
      (∀ id, ¬ Relation.TransGen s.ReadsFrom id id) ∧
      ∀ d ∈ s.databases, (∃ s', s.dropDatabase d = .ok s') ↔
        ∀ e ∈ s.dependencies, e.objectId ∈ (s.objectsOf d.id).map (·.id) →
          e.viewId ∈ (s.objectsOf d.id).map (·.id) := by
  obtain ⟨s, hs, hvalid, hb⟩ :=
    run_backward (c := start sessions) rfl Store.valid_empty Store.backward_empty es
  exact ⟨s, hs, hb, hb.not_transGen_self, fun d _ => hb.dropDatabase_isOk_iff hvalid d⟩

end Catalog

end SchemaCatalog
