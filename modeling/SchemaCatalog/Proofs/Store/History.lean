import SchemaCatalog.Proofs.Store.Edits

/-!
# What a store keeps over time

`Store.Evolves s s'` says what is known of a store `s'` that comes later than `s`: the counters have
not gone back; every row was there before, as it is, or has a number that had not been given out;
and the dependencies of a view stay as long as the view does. Chains of edits lead to such stores
(`Store.Edits.evolves`).

Two things follow for looking up objects by name. The oldest object of a name is the one with the
least number (`Store.Valid.oldest?_eq_some_iff`). And once it is in a store, an object that stays
remains the oldest of its name (`Store.Evolves.oldest?_eq`): no older one comes back, and what is
new has a greater number.
-/

namespace SchemaCatalog

/-! ### Rows over time -/

/-- Each of the later rows was there before, or has a number above `last`. -/
def Continues {α : Type} (number : α → Int) (rows rows' : List α) (last : Int) : Prop :=
  ∀ r ∈ rows', r ∈ rows ∨ last < number r

namespace Continues

variable {α : Type} {number : α → Int} {rows rows' rows'' : List α} {last last' : Int}

theorem of_subset (h : rows' ⊆ rows) : Continues number rows rows' last :=
  fun _ hr => .inl (h hr)

theorem refl : Continues number rows rows last := of_subset (List.Subset.refl rows)

theorem filter (p : α → Bool) : Continues number rows (rows.filter p) last :=
  of_subset List.filter_sublist.subset

theorem append {new : List α} (h : ∀ r ∈ new, last < number r) :
    Continues number rows (rows ++ new) last :=
  fun r hr => (List.mem_append.mp hr).imp id (h r)

theorem trans (h : Continues number rows rows' last) (h' : Continues number rows' rows'' last')
    (hle : last ≤ last') : Continues number rows rows'' last := by
  intro r hr
  rcases h' r hr with hr | hlt
  · exact h r hr
  · exact .inr (Int.lt_of_le_of_lt hle hlt)

/-- A later row whose number had been given out was there before. -/
theorem mem_of_le (h : Continues number rows rows' last) {r : α} (hr : r ∈ rows')
    (hle : number r ≤ last) : r ∈ rows :=
  (h r hr).resolve_right (Int.not_lt.mpr hle)

end Continues

/-- What is found first among numbered rows has the least number. -/
theorem Numbered.le_of_find? {α : Type} {rows : List α} {number : α → Int} {last : Int}
    {p : α → Bool} (h : Numbered (rows.map number) last) {a b : α}
    (ha : rows.find? p = some a) (hb : b ∈ rows) (hp : p b = true) : number a ≤ number b := by
  obtain ⟨-, before, after, rfl, hbefore⟩ := List.find?_eq_some_iff_append.mp ha
  rcases List.mem_append.mp hb with hb | hb
  · exact absurd hp (by simpa using hbefore b hb)
  · rcases List.mem_cons.mp hb with rfl | hb
    · exact Int.le_refl _
    · have hsorted := List.pairwise_append.mp (List.pairwise_map.mp h.increasing)
      exact Int.le_of_lt ((List.pairwise_cons.mp hsorted.2.1).1 b hb)

namespace Store

variable {source : ViewSource} {s s' s'' : Store}

/-! ### Later stores -/

/-- What is known of a later store. -/
structure Evolves (s s' : Store) : Prop where
  lastDatabase_le : s.lastDatabase ≤ s'.lastDatabase
  lastObject_le : s.lastObject ≤ s'.lastObject
  lastColumn_le : s.lastColumn ≤ s'.lastColumn
  databases : Continues (·.id) s.databases s'.databases s.lastDatabase
  objects : Continues (·.id) s.objects s'.objects s.lastObject
  views : Continues (·.id) s.views s'.views s.lastObject
  columns : Continues (·.id) s.columns s'.columns s.lastColumn
  dependencies : Continues (·.viewId) s.dependencies s'.dependencies s.lastObject
  /-- A view keeps what it reads from. -/
  dependency_kept : ∀ e ∈ s.dependencies, e.viewId ∈ s'.views.map (·.id) → e ∈ s'.dependencies

/-- The number of an object in a valid store has been given out. -/
theorem Valid.object_le (h : s.Valid) {o : ObjectRow} (ho : o ∈ s.objects) :
    o.id ≤ s.lastObject :=
  (h.object_numbers.bounds _ (List.mem_map_of_mem ho)).2

/-- The number of a view in a valid store has been given out. -/
theorem Valid.view_le (h : s.Valid) {id : Id} (hid : id ∈ s.views.map (·.id)) :
    id ≤ s.lastObject :=
  (h.view_numbers.bounds _ hid).2

namespace Evolves

theorem refl : Evolves s s :=
  ⟨Int.le_refl _, Int.le_refl _, Int.le_refl _, .refl, .refl, .refl, .refl, .refl,
    fun _ he _ => he⟩

theorem trans (hs : s.Valid) (h : Evolves s s') (h' : Evolves s' s'') : Evolves s s'' where
  lastDatabase_le := Int.le_trans h.lastDatabase_le h'.lastDatabase_le
  lastObject_le := Int.le_trans h.lastObject_le h'.lastObject_le
  lastColumn_le := Int.le_trans h.lastColumn_le h'.lastColumn_le
  databases := h.databases.trans h'.databases h.lastDatabase_le
  objects := h.objects.trans h'.objects h.lastObject_le
  views := h.views.trans h'.views h.lastObject_le
  columns := h.columns.trans h'.columns h.lastColumn_le
  dependencies := h.dependencies.trans h'.dependencies h.lastObject_le
  dependency_kept e he hview := by
    refine h'.dependency_kept e (h.dependency_kept e he ?_) hview
    -- the view was there in between: its number is too small for one that came after that
    obtain ⟨v, hv, hid⟩ := List.mem_map.mp hview
    have hle := Int.le_trans (hs.view_le (hs.dependency_view e he)) h.lastObject_le
    exact List.mem_map.mpr ⟨v, h'.views.mem_of_le hv (hid ▸ hle), hid⟩

end Evolves

private theorem lt_succ (n : Int) : n < n + 1 := Int.lt_succ n

theorem Edit.evolves (h : Edit source s s') : Evolves s s' := by
  cases h with
  | insertDatabase hrow =>
    obtain ⟨-, rfl, rfl⟩ := insertDatabase?_eq_some_iff.mp hrow
    exact { Evolves.refl (s := s) with
      lastDatabase_le := Int.le_of_lt (lt_succ _)
      databases := .append fun r hr => List.mem_singleton.mp hr ▸ lt_succ _ }
  | insertTable hrow =>
    obtain ⟨-, -, rfl, rfl⟩ := insertObject?_eq_some_iff.mp hrow
    exact { Evolves.refl (s := s) with
      lastObject_le := Int.le_of_lt (lt_succ _)
      objects := .append fun r hr => List.mem_singleton.mp hr ▸ lt_succ _ }
  | insertView hrow hdeps _ =>
    obtain ⟨-, -, rfl, rfl⟩ := insertObject?_eq_some_iff.mp hrow
    obtain ⟨-, -, -, rfl⟩ := insertDependencies?_eq_some_iff.mp hdeps
    exact { Evolves.refl (s := s) with
      lastObject_le := Int.le_of_lt (lt_succ _)
      objects := .append fun r hr => List.mem_singleton.mp hr ▸ lt_succ _
      views := .append fun r hr => List.mem_singleton.mp hr ▸ lt_succ _
      dependencies := .append fun e he => by
        obtain ⟨id, -, rfl⟩ := List.mem_map.mp he
        exact lt_succ _
      dependency_kept := fun e he _ => List.mem_append_left _ he }
  | insertColumn hrow =>
    obtain ⟨name, dataType, -, -, -, -, rfl, rfl⟩ := insertColumn?_eq_some_iff.mp hrow
    exact { Evolves.refl (s := s) with
      lastColumn_le := Int.le_of_lt (lt_succ _)
      columns := .append fun r hr => List.mem_singleton.mp hr ▸ lt_succ _ }
  | removeObject hremove =>
    obtain ⟨-, rfl⟩ := removeObject?_eq_some_iff.mp hremove
    exact { Evolves.refl (s := s) with
      objects := .filter _, views := .filter _, columns := .filter _, dependencies := .filter _
      dependency_kept := fun e he hview => by
        obtain ⟨v, hv, hid⟩ := List.mem_map.mp hview
        exact List.mem_filter.mpr ⟨he, hid ▸ (List.mem_filter.mp hv).2⟩ }
  | removeColumn columnId => exact { Evolves.refl (s := s) with columns := .filter _ }
  | removeDatabase _ => exact { Evolves.refl (s := s) with databases := .filter _ }

/-- A chain of edits leads to a later store. -/
theorem Edits.evolves (h : Edits source s s') (hs : s.Valid) : Evolves s s' := by
  induction h with
  | refl => exact .refl
  | tail _ hstep ih => exact ih.trans hs hstep.evolves

/-! ### The oldest object of a name -/

/-- The oldest object of a name is the one with the least number. -/
theorem Valid.oldest?_eq_some_iff (h : s.Valid) {name : String} {o : ObjectRow} :
    s.oldest? name = some o ↔
      o ∈ s.objects ∧ o.name = name ∧ ∀ o' ∈ s.objects, o'.name = name → o.id ≤ o'.id := by
  constructor
  · intro ho
    exact ⟨List.mem_of_find?_eq_some ho, by simpa using List.find?_some ho,
      fun o' ho' hname => h.object_numbers.le_of_find? ho ho' (by simpa using hname)⟩
  · rintro ⟨ho, hname, hleast⟩
    cases hfind : s.oldest? name with
    | none => exact absurd hname (by simpa using List.find?_eq_none.mp hfind o ho)
    | some o' =>
      have ho' : o' ∈ s.objects := List.mem_of_find?_eq_some hfind
      have hle := hleast o' ho' (by simpa using List.find?_some hfind)
      have hge := h.object_numbers.le_of_find? hfind ho (by simpa using hname)
      rw [h.object_numbers.eq_of_number_eq ho' ho (Int.le_antisymm hge hle)]

/-- The number of a database that is gone does not come back. -/
theorem Evolves.database_gone (h : Evolves s s') {id : Id} (hle : id ≤ s.lastDatabase)
    (hgone : id ∉ s.databases.map (·.id)) : id ∉ s'.databases.map (·.id) := by
  intro hback
  obtain ⟨d, hd, rfl⟩ := List.mem_map.mp hback
  exact hgone (List.mem_map_of_mem (h.databases.mem_of_le hd hle))

/-- An object that is still there is still what it was. -/
theorem Evolves.object_of_id (h : Evolves s s') (hs : s.Valid) {o o' : ObjectRow}
    (ho : o ∈ s.objects) (ho' : o' ∈ s'.objects) (hid : o'.id = o.id) : o' = o := by
  have hle : o'.id ≤ s.lastObject := hid ▸ hs.object_le ho
  exact hs.object_numbers.eq_of_number_eq (h.objects.mem_of_le ho' hle) ho hid

/-- A view that stays has the text it had. -/
theorem Evolves.definition_eq (h : Evolves s s') (hs : s.Valid) {id : Id}
    (hid : id ∈ s.views.map (·.id)) (hid' : id ∈ s'.views.map (·.id)) (hs' : s'.Valid) :
    s'.definition id = s.definition id := by
  obtain ⟨v, hv, rfl⟩ := List.mem_map.mp hid
  obtain ⟨v', hv', hsame⟩ := List.mem_map.mp hid'
  have hmem := h.views.mem_of_le hv' (hsame ▸ hs.view_le hid)
  obtain rfl := hs.view_numbers.eq_of_number_eq hmem hv hsame
  rw [definition, definition, hs.view_numbers.find?_eq_some_iff.mpr ⟨hv, rfl⟩,
    hs'.view_numbers.find?_eq_some_iff.mpr ⟨hv', rfl⟩]

/-- As long as it is there, the oldest object of a name remains the oldest. -/
theorem Evolves.oldest?_eq (h : Evolves s s') (hs : s.Valid) (hs' : s'.Valid) {name : String}
    {o : ObjectRow} (ho : s.oldest? name = some o) (hstays : o.id ∈ s'.objects.map (·.id)) :
    s'.oldest? name = some o := by
  obtain ⟨hmem, hname, hleast⟩ := hs.oldest?_eq_some_iff.mp ho
  obtain ⟨o', ho', hid⟩ := List.mem_map.mp hstays
  obtain rfl := h.object_of_id hs hmem ho' hid
  refine hs'.oldest?_eq_some_iff.mpr ⟨ho', hname, fun other hother hsame => ?_⟩
  rcases h.objects other hother with hold | hnew
  · exact hleast other hold hsame
  · exact Int.le_of_lt (Int.lt_of_le_of_lt (hs.object_le hmem) hnew)

end Store

end SchemaCatalog
