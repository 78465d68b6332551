import SchemaCatalog.Proofs.Catalog.Runs
import SchemaCatalog.Proofs.Store.History

/-!
# The identity of rows

A number stands for one row for ever. `Lasting` says what that means for a list of rows at three
moments of a run, and `Catalog.rows_keep_identity` says that it holds of databases, of objects with
what views add to them, and of columns, at any three moments of a run that does not clear the store.

All of it comes down to `Continues`: a later row either was there before, just as it is, or has a
number that the counter had not reached.
-/

namespace SchemaCatalog

/-- What is known of the rows of a list at three moments, the counter of which stands at `last` at
the second one. -/
structure Lasting {α : Type} (number : α → Int) (rows₁ rows₂ rows₃ : List α) (last : Int) :
    Prop where
  /-- A row that is still there is what it was. -/
  same : ∀ r ∈ rows₁, ∀ r' ∈ rows₂, number r' = number r → r' = r
  /-- A number that is gone does not come back. -/
  gone : ∀ r ∈ rows₁, number r ∉ rows₂.map number → number r ∉ rows₃.map number
  /-- A number that is not there at the second moment is given out afterwards, if it is there at
  the third. -/
  above : ∀ r ∈ rows₃, number r ∉ rows₂.map number → last < number r
  /-- Numbers that are given out afterwards are greater than any that were there at the first. -/
  below : ∀ r ∈ rows₁, number r ≤ last

/-- Rows that continue from one moment to the next last. -/
theorem Continues.lasting {α : Type} {number : α → Int} {rows₁ rows₂ rows₃ : List α}
    {last₁ last₂ : Int} (h : Continues number rows₁ rows₂ last₁)
    (h' : Continues number rows₂ rows₃ last₂) (hle : last₁ ≤ last₂)
    (hrows : Numbered (rows₁.map number) last₁) :
    Lasting number rows₁ rows₂ rows₃ last₂ := by
  have hold : ∀ r ∈ rows₁, number r ≤ last₁ :=
    fun r hr => (hrows.bounds _ (List.mem_map_of_mem hr)).2
  refine ⟨fun r hr r' hr' hsame => ?_, fun r hr hgone hback => hgone ?_, fun r hr hnew => ?_,
    fun r hr => Int.le_trans (hold r hr) hle⟩
  · -- the number had been given out at the first moment, so the later row is one of the first rows
    have hmem : r' ∈ rows₁ := h.mem_of_le hr' (hsame ▸ hold r hr)
    exact hrows.eq_of_number_eq hmem hr hsame
  · obtain ⟨r', hr', hsame⟩ := List.mem_map.mp hback
    have hmem : r' ∈ rows₂ := h'.mem_of_le hr' (hsame ▸ Int.le_trans (hold r hr) hle)
    exact hsame ▸ List.mem_map_of_mem hmem
  · by_contra hle'
    exact hnew (List.mem_map_of_mem (h'.mem_of_le hr (Int.not_lt.mp hle')))

/-- What is known of a store at three moments. -/
structure Store.RowsLast (s₁ s₂ s₃ : Store) : Prop where
  databases : Lasting (·.id) s₁.databases s₂.databases s₃.databases s₂.lastDatabase
  objects : Lasting (·.id) s₁.objects s₂.objects s₃.objects s₂.lastObject
  views : Lasting (·.id) s₁.views s₂.views s₃.views s₂.lastObject
  columns : Lasting (·.id) s₁.columns s₂.columns s₃.columns s₂.lastColumn
  /-- A view that is still there has the text it had. -/
  definitions : ∀ o ∈ s₁.objects, o ∈ s₂.objects → o.kind = .view →
    s₂.definition o.id = s₁.definition o.id

/-- The rows of valid stores last. -/
theorem Store.Evolves.rowsLast {s₁ s₂ s₃ : Store} (h : s₁.Evolves s₂) (h' : s₂.Evolves s₃)
    (hs₁ : s₁.Valid) (hs₂ : s₂.Valid) : s₁.RowsLast s₂ s₃ where
  databases := h.databases.lasting h'.databases h.lastDatabase_le hs₁.database_numbers
  objects := h.objects.lasting h'.objects h.lastObject_le hs₁.object_numbers
  views := h.views.lasting h'.views h.lastObject_le hs₁.view_numbers
  columns := h.columns.lasting h'.columns h.lastColumn_le hs₁.column_numbers
  definitions _ ho ho' hkind :=
    h.definition_eq hs₁ (hs₁.mem_views ho hkind) (hs₂.mem_views ho' hkind) hs₂

namespace Catalog

/-- **The identity of rows.** Let there be three moments of a run that does not clear the store. A
row of the first moment is at the second one what it was, or its number is gone, and then it is gone
at the third as well; and a number that is new at the third moment, compared with the second, is
greater than any that there was at the first. -/
theorem rows_keep_identity (sessions : List Session) (es₁ es₂ es₃ : List Event)
    (hes : .clear ∉ es₁ ++ es₂ ++ es₃) :
    ∃ s₁ s₂ s₃, ((start sessions).run es₁).2.access = .ready s₁ ∧
      ((start sessions).run (es₁ ++ es₂)).2.access = .ready s₂ ∧
      ((start sessions).run (es₁ ++ es₂ ++ es₃)).2.access = .ready s₃ ∧ s₁.RowsLast s₂ s₃ := by
  rw [List.mem_append, List.mem_append, not_or, not_or] at hes
  obtain ⟨⟨hes₁, hes₂⟩, hes₃⟩ := hes
  obtain ⟨s₁, hs₁, hedits₁⟩ := run_ready (c := start sessions) rfl hes₁
  obtain ⟨s₂, hs₂, hedits₂⟩ := run_ready hs₁ hes₂
  obtain ⟨s₃, hs₃, hedits₃⟩ := run_ready hs₂ hes₃
  have hvalid₁ := hedits₁.valid Store.valid_empty
  have hvalid₂ := hedits₂.valid hvalid₁
  refine ⟨s₁, s₂, s₃, hs₁, ?_, ?_, ?_⟩
  · rw [run_append_snd, hs₂]
  · rw [run_append_snd, run_append_snd, hs₃]
  · exact (hedits₂.evolves hvalid₁).rowsLast (hedits₃.evolves hvalid₂) hvalid₁ hvalid₂

/-- A table loses its last column and gets another one of that name. The first number is gone, and
the new column has a greater one. -/
theorem rows_keep_identity_column :
    let before : List Event :=
      [.request 0 (.createDatabase "shop"),
       .request 0 (.createTable "t" [⟨"a", "INT", true⟩, ⟨"b", "INT", false⟩])]
    let drop : List Event := [.request 0 (.alterTable "t" [.dropColumn "b"])]
    let add : List Event := [.request 0 (.alterTable "t" [.addColumn ⟨"b", "INT", false⟩])]
    Event.clear ∉ before ++ drop ++ add ∧
      ∃ s₁ s₂ s₃, ((start [{}]).run before).2.access = .ready s₁ ∧
        ((start [{}]).run (before ++ drop)).2.access = .ready s₂ ∧
        ((start [{}]).run (before ++ drop ++ add)).2.access = .ready s₃ ∧ s₁.RowsLast s₂ s₃ ∧
        s₁.columns.map (·.id) = [1, 2] ∧ s₂.columns.map (·.id) = [1] ∧
        s₃.columns.map (·.id) = [1, 3] := by
  intro before drop add
  have hes : Event.clear ∉ before ++ drop ++ add := by simp [before, drop, add]
  have hbefore : ((start [{}]).run before).2.access =
      .ready ⟨[⟨1, "shop"⟩], [⟨1, .table, "t", 1⟩], [1], [],
        [⟨1, 1, "a", "INT", true⟩, ⟨2, 1, "b", "INT", false⟩], [], 1, 1, 2⟩ := by
    decide +kernel
  have hdrop : ((start [{}]).run (before ++ drop)).2.access =
      .ready ⟨[⟨1, "shop"⟩], [⟨1, .table, "t", 1⟩], [1], [],
        [⟨1, 1, "a", "INT", true⟩], [], 1, 1, 2⟩ := by
    decide +kernel
  have hadd : ((start [{}]).run (before ++ drop ++ add)).2.access =
      .ready ⟨[⟨1, "shop"⟩], [⟨1, .table, "t", 1⟩], [1], [],
        [⟨1, 1, "a", "INT", true⟩, ⟨3, 1, "b", "INT", false⟩], [], 1, 1, 3⟩ := by
    decide +kernel
  obtain ⟨s₁, s₂, s₃, hs₁, hs₂, hs₃, hlast⟩ := rows_keep_identity [{}] before drop add hes
  refine ⟨hes, s₁, s₂, s₃, hs₁, hs₂, hs₃, hlast, ?_, ?_, ?_⟩
  · rw [Access.ready.inj (hs₁.symm.trans hbefore)]
    rfl
  · rw [Access.ready.inj (hs₂.symm.trans hdrop)]
    rfl
  · rw [Access.ready.inj (hs₃.symm.trans hadd)]
    rfl

end Catalog

end SchemaCatalog
