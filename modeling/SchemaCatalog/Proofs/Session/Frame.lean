import SchemaCatalog.Proofs.Session.Selection

/-!
# What a request leaves alone

A request is about at most one database (`Session.IsAbout`): the one whose name it gives, if it
creates or drops a database, and otherwise the one that the session has selected. All other
databases are left as they are, with everything that belongs to them (`Session.run_untouched`). What
goes along when something is dropped belongs to the same database: an object has its rows and
columns with it, and the dependencies of a view belong to the view, wherever they lead.
-/

namespace SchemaCatalog

/-- Whether a request only looks something up. -/
def Request.isReading : Request → Bool
  | .use _ | .showTables | .explainTable _ => true
  | _ => false

/-- The database that a request is about. -/
def Session.IsAbout (x : Session) (d : DatabaseRow) : Request → Prop
  | .createDatabase name | .dropDatabase name => name.stored? = some d.name
  | r => r.isScoped = true ∧ ∃ sel ∈ x.current, sel.id = d.id

namespace Store

variable {s s' : Store} {d : DatabaseRow} {databaseId : Id}

/-! ### Databases that are left alone -/

/-- Two stores hold the same of a database: its row, its objects, and the rows that belong to each
of its objects. -/
structure Untouched (s s' : Store) (d : DatabaseRow) : Prop where
  row : d ∈ s'.databases ↔ d ∈ s.databases
  objects : d ∈ s.databases → s'.objectsOf d.id = s.objectsOf d.id
  rows : d ∈ s.databases → ∀ o ∈ s.objectsOf d.id, s'.rowsOf o.id = s.rowsOf o.id

theorem Untouched.refl : s.Untouched s d := ⟨.rfl, fun _ => rfl, fun _ _ _ => rfl⟩

/-- The objects of all other databases are left by what belongs to one database. -/
theorem OnlyIn.objectsOf_eq (h : OnlyIn s s' databaseId) {id : Id} (hne : id ≠ databaseId) :
    s'.objectsOf id = s.objectsOf id := by
  have hfilter : ∀ t : Store, t.objectsOf id =
      (t.objects.filter (·.databaseId ≠ databaseId)).filter (·.databaseId = id) := by
    intro t
    rw [objectsOf, filter_filter_eq]
    exact fun o _ hid hin => hne (hid.symm.trans hin)
  rw [hfilter, hfilter, h.objects]

/-- What belongs to one database leaves the objects of another, and all that belongs to them. -/
theorem OnlyIn.rowsOf_eq (h : OnlyIn s s' databaseId) (hne : d.id ≠ databaseId) :
    ∀ o ∈ s.objectsOf d.id, s'.rowsOf o.id = s.rowsOf o.id := by
  intro o ho
  obtain ⟨ho, hin⟩ := List.mem_filter.mp ho
  have hin : o.databaseId = d.id := of_decide_eq_true hin
  exact h.rows o ho (hin ▸ hne)

theorem OnlyIn.untouched (h : OnlyIn s s' databaseId) (hne : d.id ≠ databaseId) :
    s.Untouched s' d :=
  ⟨by rw [h.databases], fun _ => h.objectsOf_eq hne, fun _ => h.rowsOf_eq hne⟩

/-- The creation of a database leaves all databases of other names alone. -/
theorem createDatabase_untouched {name : Label} {row : DatabaseRow}
    (h : s.createDatabase name = .ok (row, s')) (hd : name.stored? ≠ some d.name) :
    s.Untouched s' d := by
  obtain ⟨text, hname, hrow⟩ := createDatabase_eq_ok h
  obtain ⟨-, rfl, rfl⟩ := insertDatabase?_eq_some_iff.mp hrow
  refine ⟨⟨fun hmem => ?_, fun hmem => List.mem_append_left _ hmem⟩, fun _ => rfl,
    fun _ _ _ => rfl⟩
  rcases List.mem_append.mp hmem with hmem | hmem
  · exact hmem
  · obtain rfl := List.mem_singleton.mp hmem
    exact absurd hname hd

/-- The objects that go with a database are its own. -/
theorem dropDatabase_keeps (hs : s.Valid) {dropped : DatabaseRow}
    (h : s.dropDatabase dropped = .ok s') :
    ∃ s₁, Keeps s s₁ (·.databaseId ≠ dropped.id) ∧ s' = s₁.removeDatabase dropped.id := by
  obtain ⟨s₁, hdrop, rfl⟩ := dropDatabase_eq_ok h
  refine ⟨s₁, dropObjects_keeps (fun o ho => ?_) hdrop, rfl⟩
  obtain ⟨ho, hin⟩ := List.mem_filter.mp (List.mem_reverse.mp ho)
  exact hs.notAmong ho fun hout => hout (of_decide_eq_true hin)

/-- When a database is dropped, nothing is missing in the others. -/
theorem dropDatabase_untouched (hs : s.Valid) {dropped : DatabaseRow}
    (hdropped : dropped ∈ s.databases) (h : s.dropDatabase dropped = .ok s') (hne : d ≠ dropped) :
    s.Untouched s' d := by
  obtain ⟨s₁, hkeeps, rfl⟩ := dropDatabase_keeps hs h
  have honly : OnlyIn s s₁ dropped.id := hkeeps.onlyIn
  have hid : d ∈ s.databases → d.id ≠ dropped.id := fun hd hid =>
    hne (hs.database_numbers.eq_of_number_eq hd hdropped hid)
  refine ⟨?_, fun hd => honly.objectsOf_eq (hid hd), fun hd => honly.rowsOf_eq (hid hd)⟩
  show d ∈ s₁.databases.filter (·.id ≠ dropped.id) ↔ d ∈ s.databases
  rw [List.mem_filter, decide_eq_true_eq, honly.databases]
  exact and_iff_left_of_imp hid

end Store

namespace Session

variable {x : Session} {s : Store} {r : Request} {e : Effect} {d : DatabaseRow}

/-! ### Requests -/

/-- A request that only looks something up changes no row. -/
theorem store_of_isReading (hr : r.isReading = true) (h : x.run s r = .ok e) : e.store = s := by
  cases carriesOut_of_run h with
  | use | showTables | explainTable => rfl
  | _ => exact absurd hr Bool.false_ne_true

theorem current_of_selected {sel : Selection} (h : x.selected s = .ok sel) :
    x.current = some sel := by
  rw [selected] at h
  split at h
  · simp at h
  · rename_i sel' hcurrent
    split at h
    · simp at h
    · rw [hcurrent, Except.ok.inj h]

/-- A request about the selected database is about that database. -/
theorem isAbout_of_selected (hscoped : r.isScoped = true) {sel : Selection}
    (hsel : x.selected s = .ok sel) (hid : sel.id = d.id) : x.IsAbout d r := by
  cases r with
  | createDatabase | use | dropDatabase | other | malformed =>
    exact absurd hscoped Bool.false_ne_true
  | _ => exact ⟨hscoped, sel, current_of_selected hsel, hid⟩

/-- A request that succeeds leaves every database alone that it is not about. -/
theorem run_untouched (hs : s.Valid) (h : x.run s r = .ok e) (hd : ¬ x.IsAbout d r) :
    s.Untouched e.store d := by
  by_cases hscoped : r.isScoped = true
  · -- what changes belongs to the selected database
    obtain ⟨sel, hsel, honly, -⟩ := run_onlyIn hs hscoped h
    exact honly.untouched fun hid => hd (isAbout_of_selected hscoped hsel hid.symm)
  · cases carriesOut_of_run h with
    | createDatabase hcreate => exact Store.createDatabase_untouched hcreate hd
    | use => exact .refl
    | dropDatabase hrow hdrop =>
      obtain ⟨hmem, hname⟩ := mem_of_lookUpDatabase hrow
      refine Store.dropDatabase_untouched hs hmem hdrop ?_
      rintro rfl
      exact hd hname
    | _ => exact absurd rfl hscoped

end Session

end SchemaCatalog
