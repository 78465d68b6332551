import SchemaCatalog.Proofs.Catalog.Consistency
import SchemaCatalog.Proofs.Catalog.Selection
import SchemaCatalog.Proofs.Session.Frame

/-!
# What stays when something happens

`Catalog.requests_keep_frame` says for every event that makes a request, whatever comes of it, what
it leaves alone: the other sessions, and every database that the request is not about, with all that
belongs to it. That a view reads from objects of other databases makes no difference.
-/

namespace SchemaCatalog.Catalog

/-- **Frame.** However a catalog has been used: a request that a session makes then leaves the other
sessions as they were, and every database that it is not about, with its objects and their rows. A
`USE`, a `SHOW TABLES` and an `EXPLAIN TABLE` change no row at all. -/
theorem requests_keep_frame (sessions : List Session) (us : List Usage) (e : Event) (i : Nat)
    (r : Request) (hr : e.request? = some (i, r)) :
    ∃ s s', ((start sessions).useAll us).access = .ready s ∧
      (((start sessions).useAll us).step e).2.access = .ready s' ∧
      (∀ j, j ≠ i → (((start sessions).useAll us).step e).2.sessions[j]? =
        ((start sessions).useAll us).sessions[j]?) ∧
      (r.isReading = true → s' = s) ∧
      ∀ x, ((start sessions).useAll us).sessions[i]? = some x →
        ∀ d, ¬ x.IsAbout d r → s.Untouched s' d := by
  obtain ⟨s, hs, hvalid⟩ := useAll_ready (c := start sessions) rfl Store.valid_empty us
  have he : e ≠ .clear := by
    rintro rfl
    simp [Event.request?] at hr
  rcases step_eq_or_run hs he with heq | ⟨j, x, r', effect, hr', -, hx, hrun, heq⟩
  · -- nothing has changed
    rw [heq]
    exact ⟨s, s, hs, hs, fun _ _ => rfl, fun _ => rfl, fun _ _ _ _ => .refl⟩
  · obtain ⟨rfl, rfl⟩ := Prod.mk.inj (Option.some.inj (hr.symm.trans hr'))
    rw [heq]
    refine ⟨s, effect.store, hs, rfl, fun j hj => ?_, fun hreading => ?_, fun y hy d hd => ?_⟩
    · exact List.getElem?_set_ne hj.symm
    · exact Session.store_of_isReading hreading hrun
    · obtain rfl := Option.some.inj (hx.symm.trans hy)
      exact Session.run_untouched hvalid hrun hd

/-- A view of one database reads from a table of another one. When the first database is dropped,
the dependency goes with the view, and the table stays with its column. -/
theorem requests_keep_frame_drop :
    let before : List Usage := [.event (.request 0 (.createDatabase "a")),
      .event (.request 0 (.createTable "t" [⟨"n", "int", true⟩])),
      .event (.request 0 (.createDatabase "b")), .event (.request 1 (.use "b")),
      .event (.request 1 (.createView "v" ⟨"select n from t", "select n from t", ["t"]⟩))]
    let c := (start [{}, {}]).useAll before
    let dropped := (c.step (.request 0 (.dropDatabase "b"))).2
    ∃ s s', c.access = .ready s ∧ dropped.access = .ready s' ∧ s.dependencies = [⟨2, 1⟩] ∧
      s'.dependencies = [] ∧ s.Untouched s' ⟨1, "a"⟩ ∧ dropped.sessions[1]? = c.sessions[1]? := by
  intro before c dropped
  have hbefore : c.access = .ready ⟨[⟨1, "a"⟩, ⟨2, "b"⟩], [⟨1, .table, "t", 1⟩, ⟨2, .view, "v", 2⟩],
      [1], [⟨2, "select n from t"⟩], [⟨1, 1, "n", "int", true⟩], [⟨2, 1⟩], 2, 2, 1⟩ := by
    decide +kernel
  have hdropped : dropped.access = .ready ⟨[⟨1, "a"⟩], [⟨1, .table, "t", 1⟩], [1], [],
      [⟨1, 1, "n", "int", true⟩], [], 2, 2, 1⟩ := by
    decide +kernel
  obtain ⟨s, s', hs, hs', hsessions, -, hframe⟩ := requests_keep_frame [{}, {}] before
    (.request 0 (.dropDatabase "b")) 0 (.dropDatabase "b") rfl
  obtain rfl := Access.ready.inj (hs.symm.trans hbefore)
  obtain rfl := Access.ready.inj (hs'.symm.trans hdropped)
  refine ⟨_, _, hbefore, hdropped, rfl, rfl, ?_, hsessions 1 (by decide)⟩
  exact hframe { current := some ⟨1, "a"⟩ } rfl ⟨1, "a"⟩ (by simp [Session.IsAbout, Label.stored?])

end SchemaCatalog.Catalog
