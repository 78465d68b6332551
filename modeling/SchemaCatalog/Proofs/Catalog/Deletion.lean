import SchemaCatalog.Proofs.Catalog.Consistency
import SchemaCatalog.Proofs.Catalog.Removal

/-!
# Databases that are deleted by calls

A direct call may give a new view any numbers to read from, and its own is among those that the
store accepts: by the time it is looked for, the view exists. A number that is yet to be given out
is not accepted. So in every store that calls and events lead to, views are not older than what they
read from (`Store.WeaklyBackward`), and an object of a database stands in the way of dropping the
database exactly if it reads from itself or a view outside of the database reads from it
(`Store.IsStuck`).

`Catalog.databases_deleted_unless_stuck` says when a database is deleted and what the refusal names.
Only views outside keep a database none of whose views reads from itself. In general there need not
be another database at all (`Catalog.not_kept_by_others_only`).
-/

namespace SchemaCatalog

namespace Store

variable {s : Store} {d : DatabaseRow}

theorem isInvariant_weaklyBackward : IsInvariant fun s => s.Valid ∧ s.WeaklyBackward where
  empty := ⟨valid_empty, weaklyBackward_empty⟩
  edit h hs := ⟨h.valid hs.1, h.weaklyBackward hs.1 hs.2⟩

/-- A database cannot be dropped exactly if one of its objects is stuck. -/
theorem WeaklyBackward.dropDatabase_eq_error_iff (hb : s.WeaklyBackward) (hs : s.Valid) :
    (∃ f, s.dropDatabase d = .error f) ↔ ∃ o, s.IsStuck d.id o := by
  constructor
  · rintro ⟨f, hf⟩
    by_contra hfree
    obtain ⟨s', hdrop, -⟩ := hb.dropDatabase_of_not_isStuck hs hfree
    rw [hdrop] at hf
    cases hf
  · intro hstuck
    obtain ⟨o, -, -, hdrop⟩ := hb.dropDatabase_of_isStuck hs hstuck
    exact ⟨_, hdrop⟩

/-- Where nothing in a database reads from itself, something in it is stuck exactly if a view
outside reads from it. -/
theorem exists_isStuck_iff
    (hself : ∀ e ∈ s.dependencies, s.Contains d.id e.objectId → e.viewId ≠ e.objectId) :
    (∃ o, s.IsStuck d.id o) ↔
      ∃ e ∈ s.dependencies, s.Contains d.id e.objectId ∧ ¬ s.Contains d.id e.viewId := by
  rw [← exists_isHeld_iff]
  constructor
  · rintro ⟨o, ho⟩
    exact ⟨o, ho.isHeld hself⟩
  · rintro ⟨o, ho⟩
    exact ⟨o, ho.isStuck⟩

end Store

namespace Catalog

/-- **Deleting databases.** However a catalog has been used, and whatever further calls have been
made on its store: a database is deleted unless one of its objects reads from itself or a view
outside of the database reads from one. Then the newest such object is named, and otherwise the
database goes with all that belongs to it. If nothing in the database reads from itself, only views
outside of it keep it. -/
theorem databases_deleted_unless_stuck (sessions : List Session) (us : List Usage) :
    ∃ s₀, ((start sessions).useAll us).access = .ready s₀ ∧ ∀ (cs : List Call),
      let s := ((Transaction.begin s₀).run cs).working
      ∀ d ∈ s.databases,
        ((∃ f, s.dropDatabase d = .error f) ↔ ∃ o, s.IsStuck d.id o) ∧
        (∀ f, s.dropDatabase d = .error f →
          ∃ o, s.IsStuck d.id o ∧ (∀ o', s.IsStuck d.id o' → o'.id ≤ o.id) ∧
            f.error = .constraintViolation (.dropDatabase d.name o.kind o.name)) ∧
        (∀ s', s.dropDatabase d = .ok s' → s'.IsLeftWithout s d.id) ∧
        ((∀ e ∈ s.dependencies, s.Contains d.id e.objectId → e.viewId ≠ e.objectId) →
          ((∃ f, s.dropDatabase d = .error f) ↔
            ∃ e ∈ s.dependencies, s.Contains d.id e.objectId ∧ ¬ s.Contains d.id e.viewId)) := by
  obtain ⟨s₀, hs₀, hkept⟩ := useAll_invariant (c := start sessions)
    Store.isInvariant_weaklyBackward rfl ⟨Store.valid_empty, Store.weaklyBackward_empty⟩ us
  refine ⟨s₀, hs₀, fun cs => ?_⟩
  intro s d hd
  obtain ⟨hvalid, hb⟩ : s.Valid ∧ s.WeaklyBackward :=
    (Transaction.run_invariant (t := .begin s₀) Store.isInvariant_weaklyBackward
      ⟨hkept, hkept⟩ cs).2
  have hfails := hb.dropDatabase_eq_error_iff (d := d) hvalid
  refine ⟨hfails, fun f hf => ?_, fun s' hs' => ?_, fun hself => ?_⟩
  · obtain ⟨o, ho, hnewest, hdrop⟩ := hb.dropDatabase_of_isStuck hvalid (hfails.mp ⟨f, hf⟩)
    obtain rfl := Except.error.inj (hf.symm.trans hdrop)
    exact ⟨o, ho, hnewest, rfl⟩
  · have hfree : ¬ ∃ o, s.IsStuck d.id o := by
      intro hstuck
      obtain ⟨f, hf⟩ := hfails.mpr hstuck
      rw [hs'] at hf
      cases hf
    obtain ⟨s'', hdrop, hleft⟩ := hb.dropDatabase_of_not_isStuck hvalid hfree
    obtain rfl := Except.ok.inj (hs'.symm.trans hdrop)
    exact hleft
  · rw [hfails, Store.exists_isStuck_iff hself]

/-- A view is created that reads from the number it is about to be given. Its database, the only
one, cannot be deleted, though no view is outside of it. -/
theorem not_kept_by_others_only :
    let cs : List Call := [.createDatabase "d", .createView (.number 1) "v" "q" [.number 1]]
    let s := ((Transaction.begin .empty).run cs).working
    let d : DatabaseRow := ⟨1, "d"⟩
    s.databases = [d] ∧
      s.dropDatabase d = .error ⟨some (.dropRefused .view "v"),
        .constraintViolation (.dropDatabase "d" .view "v")⟩ ∧
      ¬ ∃ e ∈ s.dependencies, s.Contains d.id e.objectId ∧ ¬ s.Contains d.id e.viewId := by
  intro cs s d
  refine ⟨rfl, rfl, ?_⟩
  rintro ⟨e, he, -, hout⟩
  obtain rfl : e = ⟨1, 1⟩ := List.mem_singleton.mp he
  exact hout (by decide)

end Catalog

end SchemaCatalog
