import Mathlib.Data.List.Find
import SchemaCatalog.Proofs.Named.Catalog
import SchemaCatalog.Proofs.Store.Edits

/-!
# The parts of a store of names

`Named.Store.part` is what a store holds of one database: its objects, and of which of its names
views of other databases read. Statements about the selected database depend on nothing else, the
names that a view refers to excepted. On two stores with the same part of the database they give the
same answer, and they leave two stores with the same part (`Client.execute_part`).

A statement about tables leaves the parts of all other databases as they are
(`Client.after_part_other`). That is not so for views: a view that is created or dropped makes a
difference to every database from which it reads.
-/

namespace SchemaCatalog

/-- Whether a statement is about tables only. -/
def Statement.isAboutTables : Statement → Bool
  | .createTable _ _ | .alterTable _ _ | .showTables | .explainTable _ => true
  | .drop kind _ => decide (kind = .table)
  | .createDatabase _ | .use _ | .dropDatabase _ | .createView _ _ => false

end SchemaCatalog

namespace SchemaCatalog.Named

/-- A table reads from nothing. -/
theorem Object.references_eq_empty {o : Object} (h : o.kind = .table) : o.references = ∅ := by
  obtain ⟨place, content⟩ := o
  cases content with
  | table => rfl
  | view => simp [kind] at h

/-- What a store holds of one database. -/
structure Part where
  objects : List Object
  /-- Whether a view of another database reads from the object of a name. -/
  isHeld : String → Bool

namespace Store

/-- What a store holds of a database. -/
def part (s : Store) (database : String) : Part where
  objects := s.objects.filter (·.place.database = database)
  isHeld name := s.isReferencedFromOutside ⟨database, name⟩

variable {s t : Store} {database : String} {name : String} {o : Object} {p : Place}

/-! ### What is looked up in a part -/

/-- An object that is looked up is at the place in question, and of the kind. -/
theorem of_objectOfKind? {kind : ObjectKind} (h : s.objectOfKind? kind p = some o) :
    o ∈ s.objects ∧ o.place = p ∧ o.kind = kind := by
  have hfound := List.find?_some h
  exact ⟨List.mem_of_find?_eq_some h, of_decide_eq_true hfound⟩

/-- What can only be in one database is looked up in its part. -/
theorem find?_part {q : Object → Bool} (hq : ∀ o, q o = true → o.place.database = database) :
    (s.part database).objects.find? q = s.objects.find? q := by
  rw [part, List.find?_filter]
  refine List.find?_congr fun o _ => Bool.eq_iff_iff.mpr ?_
  rw [decide_eq_true_eq, decide_eq_true_eq]
  exact and_iff_right_of_imp (hq o)

theorem objectOfKind?_eq_part (kind : ObjectKind) :
    s.objectOfKind? kind ⟨database, name⟩ =
      (s.part database).objects.find? fun o => o.place = ⟨database, name⟩ ∧ o.kind = kind :=
  (find?_part fun _ h => congrArg (·.database) (of_decide_eq_true h).1).symm

theorem object?_eq_part :
    s.object? ⟨database, name⟩ =
      (s.part database).objects.find? (·.place = ⟨database, name⟩) :=
  (find?_part fun _ h => congrArg (·.database) (of_decide_eq_true h)).symm

/-- Who reads from an object is in its database, or holds it from outside. -/
theorem isReferenced_eq_part :
    s.isReferenced ⟨database, name⟩ =
      ((s.part database).objects.any (⟨database, name⟩ ∈ ·.references) ||
        (s.part database).isHeld name) := by
  rw [Bool.eq_iff_iff, Bool.or_eq_true]
  simp only [isReferenced, part, isReferencedFromOutside, List.any_eq_true, List.mem_filter,
    decide_eq_true_eq]
  constructor
  · rintro ⟨o, ho, hread⟩
    by_cases hin : o.place.database = database
    · exact .inl ⟨o, ⟨ho, hin⟩, hread⟩
    · exact .inr ⟨o, ho, hin, hread⟩
  · rintro (⟨o, ⟨ho, -⟩, hread⟩ | ⟨o, ho, -, hread⟩)
    · exact ⟨o, ho, hread⟩
    · exact ⟨o, ho, hread⟩

theorem tableNames_eq_part :
    s.tableNames database =
      (((s.part database).objects.filter (·.kind = .table)).map (·.place.name)).mergeSort
        fun a b => decide (a ≤ b) := by
  rw [tableNames, part, List.filter_filter]
  congr 2
  refine List.filter_congr fun o _ => ?_
  simp [Bool.and_comm]

/-! ### Changes in the database -/

theorem part_add (ho : o.place.database = database) :
    (s.add o).part database = ⟨(s.part database).objects ++ [o], (s.part database).isHeld⟩ := by
  simp only [part, add, isReferencedFromOutside, List.filter_append, List.any_append]
  simp [ho]

theorem part_remove (hp : p.database = database) :
    (s.remove p).part database =
      ⟨(s.part database).objects.filter (·.place ≠ p), (s.part database).isHeld⟩ := by
  simp only [part, remove, isReferencedFromOutside, List.filter_filter, List.any_filter,
    Part.mk.injEq]
  refine ⟨List.filter_congr fun o _ => Bool.and_comm _ _, funext fun name => ?_⟩
  congr 1
  funext o
  -- what is removed is in the database, and therefore is not what reads from outside
  rw [Bool.eq_iff_iff]
  simp only [Bool.and_eq_true, decide_eq_true_eq, and_iff_right_iff_imp]
  rintro ⟨hout, -⟩ rfl
  exact hout hp

/-- Other columns leave an object where it is. -/
theorem place_ite_table (p : Place) (columns : List Column) (o : Object) :
    (if o.place = p then ⟨p, .table columns⟩ else o : Object).place = o.place := by
  split_ifs with h
  · exact h.symm
  · rfl

theorem part_setColumns (hp : p.database = database) (columns : List Column) :
    (s.setColumns p columns).part database =
      ⟨(s.part database).objects.map fun o => if o.place = p then ⟨p, .table columns⟩ else o,
        (s.part database).isHeld⟩ := by
  simp only [part, setColumns, isReferencedFromOutside, List.filter_map, List.any_map,
    Part.mk.injEq]
  refine ⟨congrArg _ (List.filter_congr fun o _ => ?_), funext fun name => ?_⟩
  · rw [Function.comp_apply, place_ite_table]
  · congr 1
    funext o
    rw [Function.comp_apply, place_ite_table, Bool.eq_iff_iff]
    simp only [decide_eq_true_eq]
    refine and_congr_right fun hout => ?_
    have hne : o.place ≠ p := by
      rintro rfl
      exact hout hp
    rw [if_neg hne]

/-! ### Changes elsewhere -/

theorem part_add_other (ho : o.place.database ≠ database) (hreads : o.references = ∅) :
    (s.add o).part database = s.part database := by
  simp only [part, add, isReferencedFromOutside, List.filter_append, List.any_append]
  simp [ho, hreads]

theorem part_remove_other (hp : p.database ≠ database)
    (hreads : ∀ o ∈ s.objects, o.place = p → o.references = ∅) :
    (s.remove p).part database = s.part database := by
  simp only [part, remove, isReferencedFromOutside, List.any_filter, Part.mk.injEq]
  refine ⟨?_, funext fun name => ?_⟩
  · refine filter_filter_eq fun o _ hin => ?_
    rintro rfl
    exact hp hin
  · refine Bool.eq_iff_iff.mpr ?_
    simp only [List.any_eq_true, Bool.and_eq_true, decide_eq_true_eq]
    constructor
    · rintro ⟨o, ho, -, hread⟩
      exact ⟨o, ho, hread⟩
    · rintro ⟨o, ho, hout, hread⟩
      refine ⟨o, ho, fun hsame => ?_, hout, hread⟩
      rw [hreads o ho hsame] at hread
      exact Finset.notMem_empty _ hread

theorem part_setColumns_other (hp : p.database ≠ database) (columns : List Column)
    (hreads : ∀ o ∈ s.objects, o.place = p → o.references = ∅) :
    (s.setColumns p columns).part database = s.part database := by
  simp only [part, setColumns, isReferencedFromOutside, List.filter_map, List.any_map,
    Part.mk.injEq]
  refine ⟨?_, funext fun name => ?_⟩
  · have hfilter : s.objects.filter ((fun o => decide (o.place.database = database)) ∘
        fun o => if o.place = p then ⟨p, .table columns⟩ else o) =
        s.objects.filter (·.place.database = database) := by
      refine List.filter_congr fun o _ => ?_
      rw [Function.comp_apply, place_ite_table]
    rw [hfilter]
    refine (List.map_congr_left fun o ho => ?_).trans (List.map_id _)
    have hin : o.place.database = database := of_decide_eq_true (List.mem_filter.mp ho).2
    have hne : o.place ≠ p := by
      rintro rfl
      exact hp hin
    exact if_neg hne
  · rw [Bool.eq_iff_iff, List.any_eq_true, List.any_eq_true]
    refine exists_congr fun o => and_congr_right fun ho => ?_
    rw [Function.comp_apply, place_ite_table, decide_eq_true_eq, decide_eq_true_eq]
    refine and_congr_right fun _ => ?_
    split_ifs with h
    · -- neither as it was nor with other columns does the table read from anything
      rw [hreads o ho h]
      rfl
    · rfl

end Store

/-! ### Two computations side by side -/

/-- Both computations succeed with related results, or both fail with the same error. -/
inductive Alike {α : Type} (R : α → α → Prop) :
    Except CatalogError α → Except CatalogError α → Prop
  | ok {a b : α} (h : R a b) : Alike R (.ok a) (.ok b)
  | error (e : CatalogError) : Alike R (.error e) (.error e)

namespace Alike

variable {α β : Type} {R : α → α → Prop} {S : β → β → Prop}

theorem bind {x y : Except CatalogError α} {f g : α → Except CatalogError β} (h : Alike R x y)
    (hfg : ∀ a b, R a b → Alike S (f a) (g b)) : Alike S (x >>= f) (y >>= g) := by
  cases h with
  | ok hab => exact hfg _ _ hab
  | error e => exact .error e

/-- Two computations that begin in the same way. -/
theorem bind_same (x : Except CatalogError α) {f g : α → Except CatalogError β}
    (hfg : ∀ a, x = .ok a → Alike S (f a) (g a)) : Alike S (x >>= f) (x >>= g) := by
  cases hx : x with
  | ok a => exact hfg a hx
  | error e => exact .error e

end Alike

namespace Store

variable {s t : Store} {database : String}

theorem requireFree_eq (h : s.part database = t.part database) (name : String) :
    s.requireFree ⟨database, name⟩ = t.requireFree ⟨database, name⟩ := by
  rw [requireFree, requireFree, object?_eq_part, object?_eq_part, h]

theorem lookUpTable_eq (h : s.part database = t.part database) (name : String) :
    s.lookUpTable ⟨database, name⟩ = t.lookUpTable ⟨database, name⟩ := by
  rw [lookUpTable, lookUpTable, objectOfKind?_eq_part, objectOfKind?_eq_part, h]

theorem of_lookUpTable {p : Place} {o : Object} (h : s.lookUpTable p = .ok o) :
    o ∈ s.objects ∧ o.place = p ∧ o.kind = .table := by
  rw [lookUpTable] at h
  split at h
  · rename_i o' ho
    obtain rfl := Except.ok.inj h
    exact of_objectOfKind? ho
  · simp at h

theorem createTable_alike (h : s.part database = t.part database) (name : String)
    (columns : List ColumnDef) :
    Alike (fun s' t' => s'.part database = t'.part database)
      (s.createTable ⟨database, name⟩ columns) (t.createTable ⟨database, name⟩ columns) := by
  rw [createTable, createTable, requireNewTable, requireNewTable, requireFree_eq h]
  refine .bind_same _ fun _ _ => .ok ?_
  rw [part_add rfl, part_add rfl, h]

theorem createView_alike (h : s.part database = t.part database) (name definition : String)
    (references : Finset Place) :
    Alike (fun s' t' => s'.part database = t'.part database)
      (s.createView ⟨database, name⟩ definition references)
      (t.createView ⟨database, name⟩ definition references) := by
  rw [createView, createView, requireFree_eq h]
  refine .bind_same _ fun _ _ => .ok ?_
  rw [part_add rfl, part_add rfl, h]

theorem dropNames_alike (h : s.part database = t.part database) (kind : ObjectKind)
    (names : List String) :
    Alike (fun s' t' => s'.part database = t'.part database)
      (s.dropNames database kind names) (t.dropNames database kind names) := by
  induction names generalizing s t with
  | nil => exact .ok h
  | cons name rest ih =>
    rw [dropNames, dropNames, objectOfKind?_eq_part, h, ← objectOfKind?_eq_part]
    cases hfind : t.objectOfKind? kind ⟨database, name⟩ with
    | none => exact .error _
    | some o =>
      obtain ⟨-, hplace, -⟩ := of_objectOfKind? hfind
      dsimp only
      rw [hplace, isReferenced_eq_part, h, ← isReferenced_eq_part]
      split_ifs
      · exact .error _
      · refine ih ?_
        rw [part_remove rfl, part_remove rfl, h]

/-- No two objects are at the same place. -/
def Separate (s : Store) : Prop :=
  ∀ o ∈ s.objects, ∀ o' ∈ s.objects, o.place = o'.place → o = o'

/-- Whatever is at the place of a table reads from nothing. -/
theorem Separate.references_eq_empty (hs : s.Separate) {o : Object} (ho : o ∈ s.objects)
    (hkind : o.kind = .table) : ∀ o' ∈ s.objects, o'.place = o.place → o'.references = ∅ := by
  intro o' ho' hplace
  rw [hs o' ho' o ho hplace]
  exact Object.references_eq_empty hkind

theorem dropNames_part_other {other : String} (hother : database ≠ other) (hs : s.Separate)
    {names : List String} {s' : Store} (h : s.dropNames database .table names = .ok s') :
    s'.part other = s.part other := by
  induction names generalizing s with
  | nil =>
    obtain rfl := Except.ok.inj h
    rfl
  | cons name rest ih =>
    rw [dropNames] at h
    split at h
    · simp at h
    · rename_i o ho
      obtain ⟨ho, hplace, hkind⟩ := of_objectOfKind? ho
      split_ifs at h
      have hrest : (s.remove o.place).Separate := fun o₁ ho₁ o₂ ho₂ =>
        hs o₁ (List.mem_filter.mp ho₁).1 o₂ (List.mem_filter.mp ho₂).1
      rw [ih hrest h]
      exact part_remove_other (by rwa [hplace]) (hs.references_eq_empty ho hkind)

/-- Names stand for the same places in two stores if each of them does. -/
theorem resolve_eq {names : List String}
    (h : ∀ name ∈ names, (s.oldest? name).map (·.place) = (t.oldest? name).map (·.place)) :
    s.resolve names = t.resolve names := by
  induction names with
  | nil => rfl
  | cons name rest ih =>
    obtain ⟨hname, hrest⟩ := List.forall_mem_cons.mp h
    rw [resolve, resolve, ih hrest]
    cases hs : s.oldest? name with
    | none =>
      rw [hs, Option.map_none, eq_comm, Option.map_eq_none_iff] at hname
      rw [hname]
    | some o =>
      rw [hs, Option.map_some, eq_comm, Option.map_eq_some_iff] at hname
      obtain ⟨o', ho', hplace⟩ := hname
      rw [ho']
      dsimp only
      rw [hplace]

end Store

/-! ### Statements -/

namespace Client

variable {y : Client} {s t : Store} {database : String} {stmt : Statement}

/-- The store after a statement, which stays as it is if the statement fails. -/
def after (y : Client) (s : Store) (stmt : Statement) : Store :=
  match y.execute s stmt with
  | .ok e => e.store
  | .error _ => s

theorem execute_alike (hy : y.pointer = .selected database)
    (h : s.part database = t.part database) (hscoped : stmt.kind.isScoped = true)
    (hnames : ∀ view query, stmt = .createView view query → ∀ name ∈ y.names query,
      (s.oldest? name).map (·.place) = (t.oldest? name).map (·.place)) :
    Alike (fun e e' => e.rows = e'.rows ∧ e.store.part database = e'.store.part database)
      (y.execute s stmt) (y.execute t stmt) := by
  have hselected : y.pointer.database = .ok database := by rw [hy, Pointer.database]
  cases stmt with
  | createDatabase | use | dropDatabase => exact absurd hscoped Bool.false_ne_true
  | createTable name columns =>
    simp only [execute, hselected, ok_bind]
    refine (Store.createTable_alike h name.text columns).bind fun s' t' h' => ?_
    exact .ok ⟨rfl, h'⟩
  | drop kind names =>
    simp only [execute, hselected, ok_bind]
    refine (Store.dropNames_alike h kind _).bind fun s' t' h' => ?_
    exact .ok ⟨rfl, h'⟩
  | alterTable name operations =>
    simp only [execute, hselected, ok_bind]
    rw [Store.lookUpTable_eq h]
    refine .bind_same _ fun table htable => .bind_same _ fun columns _ => .ok ⟨rfl, ?_⟩
    have hplace := (Store.of_lookUpTable htable).2.1
    dsimp only
    rw [hplace, Store.part_setColumns rfl, Store.part_setColumns rfl, h]
  | showTables =>
    simp only [execute, hselected, ok_bind]
    refine .ok ⟨?_, h⟩
    dsimp only
    rw [Store.tableNames_eq_part, Store.tableNames_eq_part, h]
  | explainTable name =>
    simp only [execute, hselected, ok_bind]
    rw [Store.lookUpTable_eq h]
    exact .bind_same _ fun table _ => .ok ⟨rfl, h⟩
  | createView name query =>
    simp only [execute, hselected, ok_bind]
    rw [Store.resolve_eq (hnames name query rfl)]
    refine .bind_same _ fun references _ => ?_
    refine (Store.createView_alike h name.text query.text.text references).bind fun s' t' h' => ?_
    exact .ok ⟨rfl, h'⟩

/-- What a statement about the selected database answers, and what it makes of the part of that
database, depends on nothing but that part and what names refer to. -/
theorem execute_part (hy : y.pointer = .selected database)
    (h : s.part database = t.part database) (hscoped : stmt.kind.isScoped = true)
    (hnames : ∀ view query, stmt = .createView view query → ∀ name ∈ y.names query,
      (s.oldest? name).map (·.place) = (t.oldest? name).map (·.place)) :
    (y.execute s stmt).map (·.rows) = (y.execute t stmt).map (·.rows) ∧
      (y.after s stmt).part database = (y.after t stmt).part database := by
  have halike := execute_alike hy h hscoped hnames
  rw [after, after]
  generalize y.execute s stmt = a at halike ⊢
  generalize y.execute t stmt = b at halike ⊢
  cases halike with
  | ok hab => exact ⟨congrArg Except.ok hab.1, hab.2⟩
  | error e => exact ⟨rfl, h⟩

/-- A statement about tables leaves the parts of other databases as they are. -/
theorem execute_part_other (hy : y.pointer = .selected database) {other : String}
    (hother : database ≠ other) (hs : s.Separate) (htables : stmt.isAboutTables = true)
    {e : Effect} (h : y.execute s stmt = .ok e) : e.store.part other = s.part other := by
  have hselected : y.pointer.database = .ok database := by rw [hy, Pointer.database]
  cases stmt with
  | createDatabase | use | dropDatabase | createView => exact absurd htables Bool.false_ne_true
  | createTable name columns =>
    rw [execute, hselected, ok_bind] at h
    obtain ⟨s', hcreate, h⟩ := bind_eq_ok_iff.mp h
    obtain rfl := Except.ok.inj h
    obtain ⟨-, -, hcreate⟩ := bind_eq_ok_iff.mp hcreate
    obtain rfl := Except.ok.inj hcreate
    exact Store.part_add_other hother rfl
  | drop kind names =>
    obtain rfl : kind = .table := of_decide_eq_true htables
    rw [execute, hselected, ok_bind] at h
    obtain ⟨s', hdrop, h⟩ := bind_eq_ok_iff.mp h
    obtain rfl := Except.ok.inj h
    exact Store.dropNames_part_other hother hs hdrop
  | alterTable name operations =>
    rw [execute, hselected, ok_bind] at h
    obtain ⟨table, htable, h⟩ := bind_eq_ok_iff.mp h
    obtain ⟨columns, -, h⟩ := bind_eq_ok_iff.mp h
    obtain rfl := Except.ok.inj h
    obtain ⟨ho, hplace, hkind⟩ := Store.of_lookUpTable htable
    refine Store.part_setColumns_other (by rwa [hplace]) columns ?_
    exact hs.references_eq_empty ho hkind
  | showTables =>
    rw [execute, hselected, ok_bind] at h
    obtain rfl := Except.ok.inj h
    rfl
  | explainTable name =>
    rw [execute, hselected, ok_bind] at h
    obtain ⟨table, -, h⟩ := bind_eq_ok_iff.mp h
    obtain rfl := Except.ok.inj h
    rfl

theorem after_part_other (hy : y.pointer = .selected database) {other : String}
    (hother : database ≠ other) (hs : s.Separate) (htables : stmt.isAboutTables = true) :
    (y.after s stmt).part other = s.part other := by
  rw [after]
  cases h : y.execute s stmt with
  | ok e => exact execute_part_other hy hother hs htables h
  | error err => rfl

end Client

end SchemaCatalog.Named
