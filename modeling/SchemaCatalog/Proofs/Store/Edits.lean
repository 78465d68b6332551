import Mathlib.Logic.Relation
import SchemaCatalog.Proofs.Store.Validity
import SchemaCatalog.Store.Transaction

/-!
# Changes as chains of edits

Whatever a catalog does to its store is a chain of *edits* (`Store.Edit`): seven ways of changing
rows, each of which keeps a store valid. A change of a store that succeeds is such a chain
(`createDatabase_edits` to `dropColumn_edits`), and so is a call that succeeds (`call_edits`).
What is to be known of all changes therefore has to be proved of the edits only: what is an
invariant of edits (`Store.IsInvariant`) is one of the calls in a transaction
(`Transaction.run_invariant`).

A view may be given numbers to read from, or the objects it reads from may have been looked up, and
then they exist before the view does. `ViewSource` tells these cases apart, and from changes that
add no view at all.
-/

namespace SchemaCatalog

@[simp] theorem ok_bind {ε α β : Type} {a : α} {f : α → Except ε β} :
    ((Except.ok a : Except ε α) >>= f) = f a := rfl

@[simp] theorem error_bind {ε α β : Type} {e : ε} {f : α → Except ε β} :
    ((Except.error e : Except ε α) >>= f) = .error e := rfl

/-- What the first part of a computation gives is what the second part goes on with. -/
theorem bind_eq_ok_iff {ε α β : Type} {x : Except ε α} {f : α → Except ε β} {b : β} :
    (x >>= f) = .ok b ↔ ∃ a, x = .ok a ∧ f a = .ok b := by
  cases x with
  | error e => exact iff_of_false (by simp [Bind.bind, Except.bind]) (by simp)
  | ok a => simp [Bind.bind, Except.bind]

/-- A computation fails in its first part, or in the second after the first has succeeded. -/
theorem bind_eq_error_iff {ε α β : Type} {x : Except ε α} {f : α → Except ε β} {e : ε} :
    (x >>= f) = .error e ↔ x = .error e ∨ ∃ a, x = .ok a ∧ f a = .error e := by
  cases x with
  | error e' => simp [Bind.bind, Except.bind]
  | ok a => simp [Bind.bind, Except.bind]

/-- A loop of checks that all succeed succeeds. -/
theorem forM_eq_ok {α : Type} {f : α → Except Failure Unit} {l : List α}
    (h : ∀ a ∈ l, f a = .ok ()) : l.forM f = .ok () := by
  induction l with
  | nil => rfl
  | cons a rest ih =>
    obtain ⟨ha, hrest⟩ := List.forall_mem_cons.mp h
    show (f a >>= fun _ => rest.forM f) = .ok ()
    rw [ha, ok_bind]
    exact ih hrest

/-- A loop of checks fails in one of the checks. -/
theorem exists_of_forM_eq_error {α : Type} {check : α → Except Failure Unit} {l : List α}
    {f : Failure} (h : l.forM check = .error f) : ∃ a ∈ l, check a = .error f := by
  induction l with
  | nil => exact absurd h (by simp [pure, Except.pure])
  | cons a rest ih =>
    have hrounds : (check a >>= fun _ => rest.forM check) = .error f := h
    rcases bind_eq_error_iff.mp hrounds with hfirst | ⟨-, -, hrest⟩
    · exact ⟨a, List.mem_cons_self, hfirst⟩
    · obtain ⟨b, hb, hcheck⟩ := ih hrest
      exact ⟨b, List.mem_cons_of_mem a hb, hcheck⟩

namespace Store

/-! ### Edits -/

/-- Where the numbers come from that new views read from. -/
inductive ViewSource
  /-- There are no new views. -/
  | noView
  /-- Objects have been looked up. -/
  | resolved
  /-- A caller gives the numbers. -/
  | given

/-- Whether a new view in a store may read from what has the given numbers. -/
def ViewSource.Admits (s : Store) (objectIds : List Id) : ViewSource → Prop
  | noView => False
  | resolved => ∀ id ∈ objectIds, id ∈ s.objects.map (·.id)
  | given => True

/-- A change of rows that keeps a store valid. -/
inductive Edit (source : ViewSource) : Store → Store → Prop
  | insertDatabase {s s' : Store} {name : String} {row : DatabaseRow} :
      s.insertDatabase? name = some (row, s') → Edit source s s'
  | insertTable {s s' : Store} {databaseId : Id} {name : String} {row : ObjectRow} :
      s.insertObject? .table databaseId name = some (row, s') →
      Edit source s (s'.insertTable row.id)
  | insertView {s s₁ s' : Store} {databaseId : Id} {name definition : String} {row : ObjectRow}
      {objectIds : List Id} :
      s.insertObject? .view databaseId name = some (row, s₁) →
      (s₁.insertView row.id definition).insertDependencies? row.id objectIds = some s' →
      source.Admits s objectIds →
      Edit source s s'
  | insertColumn {s s' : Store} {tableId : Id} {spec : ColumnSpec} {row : ColumnRow} :
      s.insertColumn? tableId spec = some (row, s') → Edit source s s'
  | removeObject {s s' : Store} {objectId : Id} :
      s.removeObject? objectId = some s' → Edit source s s'
  | removeColumn {s : Store} (columnId : Id) : Edit source s (s.removeColumn columnId)
  | removeDatabase {s : Store} {databaseId : Id} :
      (∀ o ∈ s.objects, o.databaseId ≠ databaseId) → Edit source s (s.removeDatabase databaseId)

/-- One edit after the other. -/
abbrev Edits (source : ViewSource) : Store → Store → Prop := Relation.ReflTransGen (Edit source)

variable {source : ViewSource} {s s' : Store}

theorem Edit.valid (h : Edit source s s') (hs : s.Valid) : s'.Valid := by
  cases h with
  | insertDatabase hrow => exact hs.insertDatabase hrow
  | insertTable hrow => exact hs.insertTable hrow
  | insertView hrow hdeps _ => exact hs.insertView hrow hdeps
  | insertColumn hrow => exact hs.insertColumn hrow
  | removeObject hrow => exact hs.removeObject hrow
  | removeColumn columnId => exact hs.removeColumn columnId
  | removeDatabase hempty => exact hs.removeDatabase hempty

theorem Edits.valid (h : Edits source s s') (hs : s.Valid) : s'.Valid := by
  induction h with
  | refl => exact hs
  | tail _ hstep ih => exact hstep.valid ih

/-! ### Changes -/

/-- A database that is created has a name that none had, and the next number. -/
theorem createDatabase_eq_ok {name : Label} {row : DatabaseRow}
    (h : s.createDatabase name = .ok (row, s')) :
    ∃ text, name.stored? = some text ∧ s.insertDatabase? text = some (row, s') := by
  rw [createDatabase_eq_bind] at h
  obtain ⟨-, -, h⟩ := bind_eq_ok_iff.mp h
  split at h
  · rename_i result hrow
    obtain rfl := Except.ok.inj h
    exact Option.bind_eq_some_iff.mp hrow
  · simp at h

theorem createDatabase_edits {name : Label} {row : DatabaseRow}
    (h : s.createDatabase name = .ok (row, s')) : Edits source s s' := by
  obtain ⟨text, -, hrow⟩ := createDatabase_eq_ok h
  exact .single (.insertDatabase hrow)

/-- Dropping objects one by one leaves all others. -/
theorem dropObjects_eq_ok {database : String} {rows : List ObjectRow}
    (h : s.dropObjects database rows = .ok s') :
    Edits source s s' ∧ s'.objects = s.objects.filter (·.id ∉ rows.map (·.id)) := by
  induction rows generalizing s with
  | nil =>
    obtain rfl := Except.ok.inj h
    exact ⟨.refl, by simp⟩
  | cons o rest ih =>
    rw [dropObjects_cons] at h
    split at h
    · rename_i s₁ hremove
      obtain ⟨hedits, hobjects⟩ := ih h
      refine ⟨.head (.removeObject hremove) hedits, ?_⟩
      obtain ⟨-, rfl⟩ := removeObject?_eq_some_iff.mp hremove
      rw [hobjects, List.filter_filter]
      refine List.filter_congr fun o' _ => Bool.eq_iff_iff.mpr ?_
      simp [and_comm]
    · simp at h

/-- Nothing is left in a database all objects of which have been dropped. -/
theorem dropObjects_leaves_none {database : DatabaseRow}
    (h : s.dropObjects database.name (s.objectsOf database.id).reverse = .ok s') :
    ∀ o ∈ s'.objects, o.databaseId ≠ database.id := by
  obtain ⟨-, hobjects⟩ : Edits .noView s s' ∧ _ := dropObjects_eq_ok h
  intro o ho hdb
  rw [hobjects] at ho
  obtain ⟨ho, hleft⟩ := List.mem_filter.mp ho
  refine (of_decide_eq_true hleft) (List.mem_map_of_mem ?_)
  exact List.mem_reverse.mpr (List.mem_filter.mpr ⟨ho, decide_eq_true hdb⟩)

/-- A database that nothing is left in is removed. -/
theorem removeDatabase?_eq_some {databaseId : Id}
    (h : ∀ o ∈ s.objects, o.databaseId ≠ databaseId) :
    s.removeDatabase? databaseId = some (s.removeDatabase databaseId) := by
  have hempty : ¬ (s.objects.any fun o => o.databaseId = databaseId) = true := by
    simpa [List.any_eq_true] using h
  rw [removeDatabase?, if_neg hempty]

/-- Once its objects have been dropped, the row of a database can always be removed. -/
theorem dropDatabase_eq (database : DatabaseRow) :
    s.dropDatabase database =
      (s.dropObjects database.name (s.objectsOf database.id).reverse).map
        (·.removeDatabase database.id) := by
  rw [dropDatabase_eq_bind]
  cases hdrop : s.dropObjects database.name (s.objectsOf database.id).reverse with
  | error f => rfl
  | ok s₁ =>
    rw [ok_bind, removeDatabase?_eq_some (dropObjects_leaves_none hdrop)]
    rfl

/-- A database that is dropped goes after its objects. -/
theorem dropDatabase_eq_ok {database : DatabaseRow} (h : s.dropDatabase database = .ok s') :
    ∃ s₁, s.dropObjects database.name (s.objectsOf database.id).reverse = .ok s₁ ∧
      s' = s₁.removeDatabase database.id := by
  rw [dropDatabase_eq] at h
  cases hdrop : s.dropObjects database.name (s.objectsOf database.id).reverse with
  | error f =>
    rw [hdrop] at h
    cases h
  | ok s₁ =>
    rw [hdrop] at h
    exact ⟨s₁, rfl, (Except.ok.inj h).symm⟩

theorem dropDatabase_edits {database : DatabaseRow} (h : s.dropDatabase database = .ok s') :
    Edits source s s' := by
  obtain ⟨s₁, hdrop, rfl⟩ := dropDatabase_eq_ok h
  obtain ⟨hedits, -⟩ : Edits source s s₁ ∧ _ := dropObjects_eq_ok hdrop
  exact .tail hedits (.removeDatabase (dropObjects_leaves_none hdrop))

theorem insertColumns_edits {tableId : Id} {refusal : Failure} {columns : List ColumnSpec}
    (h : s.insertColumns tableId refusal columns = .ok s') : Edits source s s' := by
  induction columns generalizing s with
  | nil =>
    obtain rfl := Except.ok.inj h
    exact .refl
  | cons spec rest ih =>
    rw [insertColumns_cons] at h
    obtain ⟨-, -, h⟩ := bind_eq_ok_iff.mp h
    split at h
    · rename_i row s₁ hrow
      exact .head (.insertColumn hrow) (ih h)
    · simp at h

/-- A table is created by the row of its object, its own row, and those of its columns. -/
theorem createTable_eq_ok {databaseId : Id} {name : Label} {columns : List ColumnSpec}
    {row : ObjectRow} (h : s.createTable databaseId name columns = .ok (row, s')) :
    ∃ text s₁ refusal, name.stored? = some text ∧
      s.insertObject? .table databaseId text = some (row, s₁) ∧
      (s₁.insertTable row.id).insertColumns row.id refusal columns = .ok s' := by
  rw [createTable_eq_bind] at h
  obtain ⟨-, -, h⟩ := bind_eq_ok_iff.mp h
  split at h
  · simp at h
  · rename_i row₁ s₁ hrow
    obtain ⟨text, hname, hrow⟩ := Option.bind_eq_some_iff.mp hrow
    obtain ⟨s₂, hcolumns, h⟩ := bind_eq_ok_iff.mp h
    obtain ⟨rfl, rfl⟩ := Prod.mk.inj (Except.ok.inj h)
    exact ⟨text, s₁, _, hname, hrow, hcolumns⟩

theorem createTable_edits {databaseId : Id} {name : Label} {columns : List ColumnSpec}
    {row : ObjectRow} (h : s.createTable databaseId name columns = .ok (row, s')) :
    Edits source s s' := by
  obtain ⟨text, s₁, refusal, -, hrow, hcolumns⟩ := createTable_eq_ok h
  exact .head (.insertTable hrow) (insertColumns_edits hcolumns)

/-- A view is created by the row of its object, its own row, and its dependencies. -/
theorem createView_eq_ok {databaseId : Id} {name definition : Label} {objectIds : List Id}
    {row : ObjectRow} (h : s.createView databaseId name definition objectIds = .ok (row, s')) :
    ∃ text query s₁, name.stored? = some text ∧ definition.stored? = some query ∧
      s.insertObject? .view databaseId text = some (row, s₁) ∧
      (s₁.insertView row.id query).insertDependencies? row.id objectIds = some s' := by
  rw [createView_eq_bind] at h
  obtain ⟨-, -, h⟩ := bind_eq_ok_iff.mp h
  split at h
  · simp at h
  · rename_i row₁ s₁ hrow
    obtain ⟨text, hname, hrow⟩ := Option.bind_eq_some_iff.mp hrow
    obtain ⟨-, -, h⟩ := bind_eq_ok_iff.mp h
    split at h
    · rename_i s₂ hdeps
      obtain ⟨rfl, rfl⟩ := Prod.mk.inj (Except.ok.inj h)
      obtain ⟨query, hquery, hdeps⟩ := Option.bind_eq_some_iff.mp hdeps
      exact ⟨text, query, s₁, hname, hquery, hrow, hdeps⟩
    · simp at h

theorem createView_edits {databaseId : Id} {name definition : Label} {objectIds : List Id}
    {row : ObjectRow} (h : s.createView databaseId name definition objectIds = .ok (row, s'))
    (hids : source.Admits s objectIds) :
    Edits source s s' := by
  obtain ⟨text, query, s₁, -, -, hrow, hdeps⟩ := createView_eq_ok h
  exact .single (.insertView hrow hdeps hids)

/-- What is dropped by name is there no more, or never was. -/
theorem cases_of_dropObject {databaseId : Id} {kind : ObjectKind} {name : Label} {n : Nat}
    (h : s.dropObject databaseId kind name = .ok (n, s')) :
    (n = 0 ∧ s' = s) ∨ ∃ o ∈ s.objects, o.databaseId = databaseId ∧ o.kind = kind ∧
      name.stored? = some o.name ∧ s.removeObject? o.id = some s' := by
  rw [dropObject_eq_bind] at h
  obtain ⟨-, -, h⟩ := bind_eq_ok_iff.mp h
  split at h
  · obtain ⟨hn, hs'⟩ := Prod.mk.inj (Except.ok.inj h)
    exact .inl ⟨hn.symm, hs'.symm⟩
  · rename_i o ho
    obtain ⟨text, hname, ho⟩ := Option.bind_eq_some_iff.mp ho
    have hfound := List.find?_some ho
    obtain ⟨hin, hkind, rfl⟩ := of_decide_eq_true hfound
    split at h
    · rename_i s₁ hremove
      obtain ⟨-, rfl⟩ := Prod.mk.inj (Except.ok.inj h)
      exact .inr ⟨o, List.mem_of_find?_eq_some ho, hin, hkind, hname, hremove⟩
    · simp at h

theorem dropObject_edits {databaseId : Id} {kind : ObjectKind} {name : Label} {n : Nat}
    (h : s.dropObject databaseId kind name = .ok (n, s')) : Edits source s s' := by
  rcases cases_of_dropObject h with ⟨-, rfl⟩ | ⟨o, -, -, -, -, hremove⟩
  · exact .refl
  · exact .single (.removeObject hremove)

theorem addColumn_edits {tableId : Id} {spec : ColumnSpec} {row : ColumnRow}
    (h : s.addColumn tableId spec = .ok (row, s')) : Edits source s s' := by
  rw [addColumn_eq_bind] at h
  obtain ⟨-, -, h⟩ := bind_eq_ok_iff.mp h
  split at h
  · rename_i result hrow
    obtain rfl := Except.ok.inj h
    exact .single (.insertColumn hrow)
  · simp at h

theorem dropColumn_edits (columnId : Id) : Edits source s (s.dropColumn columnId).2 :=
  .single (.removeColumn columnId)

/-! ### Calls -/

theorem change_eq_ok_iff {α : Type} {x : Except Failure α} {a : α} :
    change x = .ok a ↔ x = .ok a := by
  cases x <;> simp [change, Except.mapError]

private theorem callCreateView_edits {databaseId name definition : Label} {objectIds : List Label}
    {result : CallResult}
    (h : s.callCreateView databaseId name definition objectIds = .ok (result, s')) :
    Edits .given s s' := by
  obtain ⟨-, -, h⟩ := bind_eq_ok_iff.mp h
  obtain ⟨-, -, h⟩ := bind_eq_ok_iff.mp h
  obtain ⟨-, -, h⟩ := bind_eq_ok_iff.mp h
  obtain ⟨⟨row, s₁⟩, hview, h⟩ := bind_eq_ok_iff.mp h
  obtain ⟨-, -, h⟩ := bind_eq_ok_iff.mp h
  obtain ⟨-, rfl⟩ := Prod.mk.inj (Except.ok.inj h)
  exact createView_edits (change_eq_ok_iff.mp hview) trivial

/-- A call that succeeds is a chain of edits, whatever names and numbers it was given. -/
theorem call_edits {c : Call} {result : CallResult} (h : s.call c = .ok (result, s')) :
    Edits .given s s' := by
  cases c with
  | commit | rollback =>
    obtain ⟨-, rfl⟩ := Prod.mk.inj (Except.ok.inj h)
    exact .refl
  | database | databaseById | object | oldestObject | table | objectNames | columns =>
    -- calls that only look something up, after at most two checks of what was given
    simp only [call, bind_eq_ok_iff, Except.ok.injEq, Prod.mk.injEq] at h
    obtain ⟨-, -, h⟩ := h
    first
      | obtain ⟨-, rfl⟩ := h
        exact .refl
      | obtain ⟨-, -, -, rfl⟩ := h
        exact .refl
  | createDatabase name =>
    obtain ⟨⟨row, s₁⟩, hrow, h⟩ := bind_eq_ok_iff.mp h
    obtain ⟨-, rfl⟩ := Prod.mk.inj (Except.ok.inj h)
    exact createDatabase_edits (change_eq_ok_iff.mp hrow)
  | deleteDatabase id =>
    obtain ⟨-, -, h⟩ := bind_eq_ok_iff.mp h
    split at h
    · obtain ⟨-, rfl⟩ := Prod.mk.inj (Except.ok.inj h)
      exact .refl
    · obtain ⟨s₁, hdrop, h⟩ := bind_eq_ok_iff.mp h
      obtain ⟨-, rfl⟩ := Prod.mk.inj (Except.ok.inj h)
      exact dropDatabase_edits (change_eq_ok_iff.mp hdrop)
  | createTable databaseId name columns =>
    obtain ⟨specs, -, h⟩ := bind_eq_ok_iff.mp h
    obtain ⟨-, -, h⟩ := bind_eq_ok_iff.mp h
    obtain ⟨⟨row, s₁⟩, htable, h⟩ := bind_eq_ok_iff.mp h
    obtain ⟨-, rfl⟩ := Prod.mk.inj (Except.ok.inj h)
    exact createTable_edits (change_eq_ok_iff.mp htable)
  | createView databaseId name definition objectIds => exact callCreateView_edits h
  | deleteObject databaseId kind name =>
    obtain ⟨-, -, h⟩ := bind_eq_ok_iff.mp h
    obtain ⟨⟨n, s₁⟩, hdrop, h⟩ := bind_eq_ok_iff.mp h
    obtain ⟨-, rfl⟩ := Prod.mk.inj (Except.ok.inj h)
    exact dropObject_edits (change_eq_ok_iff.mp hdrop)
  | createColumn tableId column =>
    obtain ⟨spec, -, h⟩ := bind_eq_ok_iff.mp h
    obtain ⟨-, -, h⟩ := bind_eq_ok_iff.mp h
    obtain ⟨⟨row, s₁⟩, hcolumn, h⟩ := bind_eq_ok_iff.mp h
    obtain ⟨-, rfl⟩ := Prod.mk.inj (Except.ok.inj h)
    exact addColumn_edits (change_eq_ok_iff.mp hcolumn)
  | deleteColumn id =>
    obtain ⟨-, -, h⟩ := bind_eq_ok_iff.mp h
    obtain ⟨-, rfl⟩ := Prod.mk.inj (Except.ok.inj h)
    exact dropColumn_edits id.id
  | malformed flaw => exact absurd h (by simp [call])

/-! ### Invariants -/

/-- The empty store has a property, and every edit keeps it. -/
structure IsInvariant (P : Store → Prop) : Prop where
  empty : P .empty
  edit {s s' : Store} : Edit .given s s' → P s → P s'

/-- Numbers that have been looked up might have been given. -/
theorem Edit.given (h : Edit source s s') : Edit .given s s' := by
  cases h with
  | insertDatabase hrow => exact .insertDatabase hrow
  | insertTable hrow => exact .insertTable hrow
  | insertView hrow hdeps _ => exact .insertView hrow hdeps trivial
  | insertColumn hrow => exact .insertColumn hrow
  | removeObject hremove => exact .removeObject hremove
  | removeColumn columnId => exact .removeColumn columnId
  | removeDatabase hempty => exact .removeDatabase hempty

theorem IsInvariant.edits {P : Store → Prop} (hP : IsInvariant P) (h : Edits source s s')
    (hs : P s) : P s' := by
  induction h with
  | refl => exact hs
  | tail _ hstep ih => exact hP.edit hstep.given ih

theorem isInvariant_valid : IsInvariant Valid := ⟨valid_empty, fun h hs => h.valid hs⟩

end Store

/-! ### Transactions -/

namespace Transaction

/-- Carries out calls one after the other. -/
def run (t : Transaction) : List Call → Transaction
  | [] => t
  | c :: rest => (t.call c).2.run rest

/-- Both stores of a transaction are valid: what was committed last and what is seen inside. -/
def Valid (t : Transaction) : Prop := t.committed.Valid ∧ t.working.Valid

variable {t : Transaction} {P : Store → Prop}

/-- A call keeps an invariant, inside of a transaction and outside. -/
theorem call_invariant (hP : Store.IsInvariant P) (h : P t.committed ∧ P t.working) (c : Call) :
    P (t.call c).2.committed ∧ P (t.call c).2.working := by
  rw [Transaction.call.eq_def]
  split
  · exact ⟨h.2, h.2⟩
  · exact ⟨h.1, h.1⟩
  · split
    · rename_i result s hcall
      exact ⟨h.1, hP.edits (Store.call_edits hcall) h.2⟩
    · exact ⟨h.1, h.1⟩

/-- Calls one after the other keep an invariant. -/
theorem run_invariant (hP : Store.IsInvariant P) (h : P t.committed ∧ P t.working)
    (cs : List Call) : P (t.run cs).committed ∧ P (t.run cs).working := by
  induction cs generalizing t with
  | nil => exact h
  | cons c rest ih => exact ih (call_invariant hP h c)

theorem Valid.run (h : t.Valid) (cs : List Call) : (t.run cs).Valid :=
  run_invariant Store.isInvariant_valid h cs

end Transaction

end SchemaCatalog
