import SchemaCatalog.Proofs.Session.Loops
import SchemaCatalog.Proofs.Session.Notes
import SchemaCatalog.Proofs.Session.Scope

/-!
# What a refusal blames

A statement can be refused because a name is taken or because a view reads from what is to be
dropped. Some of these refusals come from a look at the store beforehand (`Session.FindsTaken`), and
the others from the store itself, which refuses a change (`Session.StoreRefuses`). Whatever the
store refuses is reported as a collision or a restriction; that there is one each time is
`Session.run_accounted`, and that the store refuses a change whenever one of the listed situations
arises is `Session.StoreRefuses.run_eq_error`.

The store never refuses the rows of a new table or a new view: what could be wrong with them has
been found out before (`Store.createTable_eq_error_iff`, `Store.createView_eq_error_iff`).
-/

namespace SchemaCatalog

namespace Session

/-- A change for a statement is refused by the store itself: the note of it, and the error. The
store at that point is that which the changes before have left. -/
inductive StoreRefuses (x : Session) (s : Store) : Statement → Note → CatalogError → Prop
  /-- A database has exactly the name of the new one. -/
  | database {name : NonemptyString} (htaken : name.text ∈ s.databases.map (·.name)) :
      StoreRefuses x s (.createDatabase name) (.databaseRefused name.label)
        (.alreadyExists .database name.label)
  /-- The table has by then a column of exactly the name of the new one. -/
  | column {name : NonemptyString} {operations : NonemptyList Alteration} {sel : Selection}
      {table : ObjectRow} {before after : List Alteration} {c : ColumnDef} {s' : Store}
      (hsel : x.selected s = .ok sel) (htable : lookUpTable sel.id name.label s = .ok table)
      (hoperations : operations.1 = before ++ .addColumn c :: after)
      (hbefore : alter table.id (s.columnsOf table.id) s (before.map (·.request)) = .ok s')
      (htaken : c.name.text ∈ (s'.columnsOf table.id).map (·.name)) :
      StoreRefuses x s (.alterTable name operations) (.columnRefused c.name.label)
        (.alreadyExists .column c.name.label)
  /-- Some view reads by then from an object that a `DROP` names. -/
  | object {kind : ObjectKind} {names : NonemptyList NonemptyString} {sel : Selection}
      {before after : List NonemptyString} {name : NonemptyString} {s' : Store} {o : ObjectRow}
      {v : ViewRow} (hsel : x.selected s = .ok sel) (hnames : names.1 = before ++ name :: after)
      (hbefore : dropNames sel.id kind s (before.map (·.label)) = .ok s')
      (ho : s'.objectOfKind? sel.id kind name.text = some o)
      (hv : v ∈ s'.views) (hreads : (⟨v.id, o.id⟩ : Dependency) ∈ s'.dependencies) :
      StoreRefuses x s (.drop kind names) (.dropRefused kind name.label)
        (.constraintViolation (.dropObject kind name.label))
  /-- Some view reads by then from an object of a database that is dropped. -/
  | databaseObject {name : NonemptyString} {d : DatabaseRow} {before after : List ObjectRow}
      {o : ObjectRow} {s' : Store} {v : ViewRow} (hd : s.database? name.text = some d)
      (hobjects : (s.objectsOf d.id).reverse = before ++ o :: after)
      (hbefore : s.dropObjects d.name before = .ok s')
      (hv : v ∈ s'.views) (hreads : (⟨v.id, o.id⟩ : Dependency) ∈ s'.dependencies) :
      StoreRefuses x s (.dropDatabase name) (.dropRefused o.kind o.name)
        (.constraintViolation (.dropDatabase d.name o.kind o.name))

/-- A statement is refused for a name that is found to be taken before the store is changed. -/
inductive FindsTaken (x : Session) (s : Store) : Statement → CatalogError → Prop
  /-- An object of the selected database has the name of the new table. -/
  | table {name : NonemptyString} {columns : List ColumnDef} {sel : Selection} {o : ObjectRow}
      (hsel : x.selected s = .ok sel) (ho : o ∈ s.objects) (hin : o.databaseId = sel.id)
      (hname : o.name = name.text) :
      FindsTaken x s (.createTable name columns) (.alreadyExists (.object o.kind) name.label)
  /-- Several of the columns of the new table have the same name. -/
  | column {name : NonemptyString} {columns : List ColumnDef} {column : String}
      (hrepeated : 1 < (columns.map (·.name.text)).count column) :
      FindsTaken x s (.createTable name columns) (.alreadyExists .column column)
  /-- An object of the selected database has the name of the new view. -/
  | view {name : NonemptyString} {query : Query NonemptyString} {sel : Selection} {o : ObjectRow}
      (hsel : x.selected s = .ok sel) (ho : o ∈ s.objects) (hin : o.databaseId = sel.id)
      (hname : o.name = name.text) :
      FindsTaken x s (.createView name query) (.alreadyExists (.object o.kind) name.label)

/-- A refusal blames what there is already only if that is there, and has a note only if the store
itself has refused a change. -/
def Accounted (x : Session) (s : Store) (stmt : Statement) (f : Failure) : Prop :=
  (∃ n, f.note = some n ∧ x.StoreRefuses s stmt n f.error) ∨
    f.note = none ∧ (x.FindsTaken s stmt f.error ∨ f.error.blamesRows = false)

end Session

namespace Store

variable {s : Store} {d : DatabaseRow} {f : Failure}

/-- What is referred to is read by a view. -/
theorem Valid.exists_reader (hs : s.Valid) {id : Id} (h : s.isReferenced id = true) :
    ∃ v ∈ s.views, (⟨v.id, id⟩ : Dependency) ∈ s.dependencies := by
  obtain ⟨e, he, rfl⟩ := isReferenced_eq_true_iff.mp h
  obtain ⟨v, hv, hid⟩ := List.mem_map.mp (hs.dependency_view e he)
  exact ⟨v, hv, hid ▸ he⟩

/-! ### New tables and views -/

/-- A name is not free if an object of the database has it. -/
theorem requireFree_eq_error {databaseId : Id} {name : String}
    (h : s.requireFree databaseId (.text name) = .error f) :
    ∃ o ∈ s.objects, o.databaseId = databaseId ∧ o.name = name ∧
      f = .of (.alreadyExists (.object o.kind) (.text name)) := by
  rw [requireFree, requireStorable_text, ok_bind, Label.stored?, Option.bind_some] at h
  cases hfind : s.object? databaseId name with
  | none => simp [hfind] at h
  | some o =>
    rw [hfind] at h
    have hfound := List.find?_some hfind
    obtain ⟨hin, hname⟩ := of_decide_eq_true hfound
    exact ⟨o, List.mem_of_find?_eq_some hfind, hin, hname, (Except.error.inj h).symm⟩

/-- A table cannot be asked for if an object of the database has its name, or if a name of a column
is repeated. -/
theorem requireNewTable_eq_error {databaseId : Id} {name : String} {columns : List ColumnDef}
    (h : s.requireNewTable databaseId (.text name) (columns.map (·.spec)) = .error f) :
    s.requireFree databaseId (.text name) = .error f ∨
      ∃ column, 1 < (columns.map (·.name.text)).count column ∧
        f = .of (.alreadyExists .column (.text column)) := by
  rw [requireNewTable_eq_bind, bind_eq_error_iff] at h
  rcases h with hfree | ⟨-, -, h⟩
  · exact .inl hfree
  · cases hrepeated : Named.repeated? (columns.map (·.name.text)) with
    | none => simp [hrepeated] at h
    | some column =>
      rw [hrepeated] at h
      have hcount := List.find?_some hrepeated
      exact .inr ⟨column, of_decide_eq_true hcount, (Except.error.inj h).symm⟩

/-- A table that can be asked for is created: the store accepts all its rows. -/
theorem createTable_eq_error_iff (hs : s.Valid) (hd : d ∈ s.databases) (name : String)
    (columns : List ColumnDef) :
    s.createTable d.id (.text name) (columns.map (·.spec)) = .error f ↔
      s.requireNewTable d.id (.text name) (columns.map (·.spec)) = .error f := by
  cases hrequire : s.requireNewTable d.id (.text name) (columns.map (·.spec)) with
  | error f' =>
    rw [createTable_eq_bind, hrequire, error_bind, Except.error.injEq, Except.error.injEq]
  | ok u =>
    obtain ⟨hfree, hnodup⟩ := requireNewTable_eq_ok_iff.mp hrequire
    obtain ⟨hcreate, -⟩ := createTable_of_free hs hd hfree hnodup
    rw [hcreate]
    exact iff_of_false (by simp) (by simp)

/-- A view that can be asked for is created: the store accepts all its rows. -/
theorem createView_eq_error_iff (hs : s.Valid) (hd : d ∈ s.databases) (name definition : String)
    {ids : List Id} (hids : ∀ id ∈ ids, id ∈ s.objects.map (·.id)) :
    s.createView d.id (.text name) (.text definition) ids.eraseDups = .error f ↔
      s.requireFree d.id (.text name) = .error f := by
  have hplaces : ∀ p, p ∈ ((s.objects.filter (·.id ∈ ids)).map s.place).toFinset ↔
      ∃ o ∈ s.objects, o.id ∈ ids ∧ s.place o = p := by
    intro p
    simp [and_assoc]
  have hcreate := createView_agree hs hd name definition hids hplaces
  have hrequire := requireFree_agree hs hd name
  constructor
  · intro h
    have hnamed := (h ▸ hcreate).eq_error
    rw [Named.Store.createView] at hnamed
    rw [createView_eq_bind, requireNewView, requireReadable_text, ok_bind, bind_eq_error_iff] at h
    refine h.resolve_right ?_
    rintro ⟨⟨⟩, hok, -⟩
    rw [hok] at hrequire
    cases hfree : s.named.requireFree ⟨d.name, name⟩ with
    | error e =>
      rw [hfree] at hrequire
      cases hrequire
    | ok u =>
      rw [hfree, ok_bind] at hnamed
      simp at hnamed
  · intro h
    rw [createView_eq_bind, requireNewView, requireReadable_text, ok_bind, h, error_bind]

end Store

namespace Session

open Failure (IsOfCheck)
open Store (Edits)

variable {x : Session} {s : Store} {stmt : Statement} {f : Failure}

/-! ### Looking up -/

theorem mem_of_selected {sel : Selection} (h : x.selected s = .ok sel) :
    ∃ d ∈ s.databases, d.id = sel.id := by
  rw [selected] at h
  split at h
  · simp at h
  · split at h
    · simp at h
    · rename_i d hfind
      obtain rfl := Except.ok.inj h
      have hid := List.find?_some hfind
      exact ⟨d, List.mem_of_find?_eq_some hfind, of_decide_eq_true hid⟩

/-! ### Statements -/

/-- What is found out by a check blames nothing that there is. -/
theorem Accounted.of_check {α : Type} {m : Except Failure α} (hm : FailsOnly (IsOfCheck False) m)
    (h : m = .error f) : x.Accounted s stmt f :=
  .inr ⟨(hm f h).note, .inr (hm f h).error⟩

theorem createDatabase_accounted {name : NonemptyString}
    (h : x.run s (.createDatabase name.label) = .error f) :
    x.Accounted s (.createDatabase name) f := by
  rw [run_createDatabase] at h
  rcases bind_eq_error_iff.mp h with h | ⟨r, -, h⟩
  · rw [Store.createDatabase_eq_bind, NonemptyString.label, requireStorable_text, ok_bind,
      Label.stored?, Option.bind_some] at h
    cases hrow : s.insertDatabase? name.text with
    | some r => simp [hrow] at h
    | none =>
      rw [hrow] at h
      obtain rfl := Except.error.inj h
      refine .inl ⟨_, rfl, .database ?_⟩
      by_contra hnew
      have hsome : s.insertDatabase? name.text = some _ :=
        Store.insertDatabase?_eq_some_iff.mpr ⟨hnew, rfl, rfl⟩
      rw [hrow] at hsome
      simp at hsome
  · simp at h

theorem dropDatabase_accounted (hs : s.Valid) {name : NonemptyString}
    (h : x.run s (.dropDatabase name.label) = .error f) : x.Accounted s (.dropDatabase name) f := by
  rw [run_dropDatabase] at h
  rcases bind_eq_error_iff.mp h with h | ⟨d, hd, h⟩
  · exact .of_check (lookUpDatabase_failsOnly False.elim) h
  · rcases bind_eq_error_iff.mp h with h | ⟨r, -, h⟩
    · -- once its objects are gone, nothing refers to the row of the database
      rw [Store.dropDatabase_eq] at h
      have hdrop : s.dropObjects d.name (s.objectsOf d.id).reverse = .error f := by
        cases hdrop : s.dropObjects d.name (s.objectsOf d.id).reverse with
        | ok s₁ => simp [hdrop, Except.map] at h
        | error f' => rw [hdrop] at h; exact h
      obtain ⟨before, o, after, s', hobjects, hbefore, href, rfl⟩ :=
        Store.dropObjects_eq_error_iff.mp hdrop
      obtain ⟨hedits, -⟩ : Edits .noView s s' ∧ _ := Store.dropObjects_eq_ok hbefore
      obtain ⟨v, hv, hreads⟩ := (hedits.valid hs).exists_reader href
      have hname : s.database? name.text = some d := by
        rw [lookUpDatabase, NonemptyString.label, requireStorable_text, ok_bind, Label.stored?,
          Option.bind_some] at hd
        split at hd
        · simp at hd
        · rename_i d' hfind
          rw [hfind, Except.ok.inj hd]
      exact .inl ⟨_, rfl, .databaseObject hname hobjects hbefore hv hreads⟩
    · simp at h

theorem createTable_accounted (hs : s.Valid) {name : NonemptyString} {columns : List ColumnDef}
    (h : x.run s (.createTable name.label (columns.map (·.spec))) = .error f) :
    x.Accounted s (.createTable name columns) f := by
  rw [run_createTable] at h
  rcases bind_eq_error_iff.mp h with h | ⟨sel, hsel, h⟩
  · exact .of_check selected_failsOnly h
  · obtain ⟨d, hd, hid⟩ := mem_of_selected hsel
    rcases bind_eq_error_iff.mp h with h | ⟨r, -, h⟩
    · rw [← hid] at h
      have hrequire := (Store.createTable_eq_error_iff hs hd name.text columns).mp h
      rcases Store.requireNewTable_eq_error hrequire with hfree | ⟨column, hrepeated, rfl⟩
      · obtain ⟨o, ho, hin, hname, rfl⟩ := Store.requireFree_eq_error hfree
        exact .inr ⟨rfl, .inl (.table hsel ho (hin.trans hid) hname)⟩
      · exact .inr ⟨rfl, .inl (.column hrepeated)⟩
    · simp at h

theorem drop_accounted (hs : s.Valid) {kind : ObjectKind} {names : NonemptyList NonemptyString}
    (h : x.run s (.drop kind (names.1.map (·.label))) = .error f) :
    x.Accounted s (.drop kind names) f := by
  rw [run_drop] at h
  rcases bind_eq_error_iff.mp h with h | ⟨sel, hsel, h⟩
  · exact .of_check selected_failsOnly h
  · rcases bind_eq_error_iff.mp h with h | ⟨r, -, h⟩
    · obtain ⟨labels, label, labels', s', hlabels, hbefore, hround⟩ :=
        (dropNames_isLoop sel.id kind).eq_error_iff.mp h
      obtain ⟨before, rest, hnames, rfl, hrest⟩ := List.map_eq_append_iff.mp hlabels
      obtain ⟨name, after, rfl, rfl, rfl⟩ := List.map_eq_cons_iff.mp hrest
      -- the round of `name` has failed, on a store from which objects may be gone already
      rcases dropNames_singleton_eq_error_iff.mp hround with ⟨-, rfl⟩ | ⟨o, ho, href, rfl⟩
      · exact .inr ⟨rfl, .inr rfl⟩
      · have hedits : Edits .noView s s' := dropNames_edits hbefore
        obtain ⟨v, hv, hreads⟩ := (hedits.valid hs).exists_reader href
        exact .inl ⟨_, rfl, .object hsel hnames hbefore ho hv hreads⟩
    · simp at h

theorem alterTable_accounted (hs : s.Valid) {name : NonemptyString}
    {operations : NonemptyList Alteration}
    (h : x.run s (.alterTable name.label (operations.1.map (·.request))) = .error f) :
    x.Accounted s (.alterTable name operations) f := by
  rw [run_alterTable] at h
  rcases bind_eq_error_iff.mp h with h | ⟨sel, hsel, h⟩
  · exact .of_check selected_failsOnly h
  rcases bind_eq_error_iff.mp h with h | ⟨table, htable, h⟩
  · exact .of_check (lookUpTable_failsOnly False.elim) h
  rcases bind_eq_error_iff.mp h with h | ⟨r, -, h⟩
  · obtain ⟨requests, request, requests', s', hrequests, hbefore, hround⟩ :=
      (alter_isLoop table.id (s.columnsOf table.id)).eq_error_iff.mp h
    obtain ⟨before, rest, hoperations, rfl, hrest⟩ := List.map_eq_append_iff.mp hrequests
    obtain ⟨operation, after, rfl, rfl, rfl⟩ := List.map_eq_cons_iff.mp hrest
    cases operation with
    | addColumn c =>
      -- the table is still there, so only the name of the column can be in the way
      have hmem : table.id ∈ s'.tables := by
        obtain ⟨ho, -, hkind, -⟩ := mem_of_lookUpTable htable
        rw [(objects_of_alter hbefore).2]
        exact hs.mem_tables ho hkind
      by_cases htaken : c.name.text ∈ (s'.columnsOf table.id).map (·.name)
      · rw [Alteration.request, alter_addColumn, Store.addColumn_eq_bind,
          Store.requireNewColumn_spec, ok_bind, Store.insertColumn?_of_mem htaken] at hround
        obtain rfl := Except.error.inj hround
        exact .inl ⟨_, rfl, .column hsel htable hoperations hbefore htaken⟩
      · rw [Alteration.request, alter_addColumn, Store.addColumn_eq_bind,
          Store.requireNewColumn_spec, ok_bind, Store.insertColumn?_of_notMem hmem htaken] at hround
        simp at hround
    | dropColumn column =>
      rw [Alteration.request, alter_dropColumn, lookUpColumn, NonemptyString.label,
        requireComparable_text, ok_bind] at hround
      split at hround
      · obtain rfl := Except.error.inj hround
        exact .inr ⟨rfl, .inr rfl⟩
      · simp at hround
    | renameColumn oldName newName =>
      obtain rfl := Except.error.inj hround
      exact .inr ⟨rfl, .inr rfl⟩
  · simp at h

theorem createView_accounted (hs : s.Valid) {name : NonemptyString} {query : Query NonemptyString}
    (h : x.run s (.createView name.label query.view) = .error f) :
    x.Accounted s (.createView name query) f := by
  rw [run_createView] at h
  rcases bind_eq_error_iff.mp h with h | ⟨names, -, h⟩
  · exact .of_check (references_failsOnly False.elim) h
  rcases bind_eq_error_iff.mp h with h | ⟨sel, hsel, h⟩
  · exact .of_check selected_failsOnly h
  rcases bind_eq_error_iff.mp h with h | ⟨ids, hids, h⟩
  · exact .of_check (resolve_failsOnly False.elim) h
  rcases bind_eq_error_iff.mp h with h | ⟨r, -, h⟩
  · obtain ⟨d, hd, hid⟩ := mem_of_selected hsel
    rw [← hid] at h
    have hfree :=
      (Store.createView_eq_error_iff hs hd name.text query.text.text (mem_of_resolve hids)).mp h
    obtain ⟨o, ho, hin, hname, rfl⟩ := Store.requireFree_eq_error hfree
    exact .inr ⟨rfl, .inl (.view hsel ho (hin.trans hid) hname)⟩
  · simp at h

/-- Every refusal of a statement is accounted for. -/
theorem run_accounted (hs : s.Valid) (h : x.run s stmt.request = .error f) :
    x.Accounted s stmt f := by
  cases stmt with
  | createDatabase name => exact createDatabase_accounted h
  | use name =>
    rw [Statement.request, run_use] at h
    rcases bind_eq_error_iff.mp h with h | ⟨r, -, h⟩
    · exact .of_check (lookUpDatabase_failsOnly False.elim) h
    · simp at h
  | dropDatabase name => exact dropDatabase_accounted hs h
  | createTable name columns => exact createTable_accounted hs h
  | drop kind names => exact drop_accounted hs h
  | alterTable name operations => exact alterTable_accounted hs h
  | showTables =>
    rw [Statement.request, run_showTables] at h
    rcases bind_eq_error_iff.mp h with h | ⟨r, -, h⟩
    · exact .of_check selected_failsOnly h
    · simp at h
  | explainTable name =>
    rw [Statement.request, run_explainTable] at h
    rcases bind_eq_error_iff.mp h with h | ⟨sel, -, h⟩
    · exact .of_check selected_failsOnly h
    rcases bind_eq_error_iff.mp h with h | ⟨r, -, h⟩
    · exact .of_check (lookUpTable_failsOnly False.elim) h
    · simp at h
  | createView name query => exact createView_accounted hs h

/-- The note of a request that succeeds tells of no refusal. -/
theorem level_of_run_eq_ok {r : Request} {e : Effect} (h : x.run s r = .ok e) :
    ∀ n ∈ e.note, n.level = .debug := by
  intro n hn
  cases carriesOut_of_run h with
  | createDatabase | dropDatabase | createTable | createView =>
    obtain rfl := Option.some.inj hn
    rfl
  | use | drop | alterTable | showTables | explainTable =>
    exact absurd hn (Option.not_mem_none n)

/-- The store refuses neither the rows of a new table or view nor to remove that of a database. -/
theorem StoreRefuses.note_ne {n : Note} {err : CatalogError} (h : x.StoreRefuses s stmt n err)
    (name : Label) (kind : StatementKind) :
    n ≠ .tableRefused name ∧ n ≠ .viewRefused name ∧ n ≠ .integrityFailed kind := by
  cases h <;> simp

/-- Whenever the store refuses a change, the statement is refused for that. -/
theorem StoreRefuses.run_eq_error {n : Note} {err : CatalogError}
    (h : x.StoreRefuses s stmt n err) : x.run s stmt.request = .error ⟨some n, err⟩ := by
  cases h with
  | @database name htaken =>
    have hrow : s.insertDatabase? name.text = none := by
      refine Option.eq_none_iff_forall_ne_some.mpr fun r hr => ?_
      exact (Store.insertDatabase?_eq_some_iff.mp hr).1 htaken
    simp [Statement.request, run_createDatabase, Store.createDatabase_eq_bind, NonemptyString.label,
      Label.stored?, hrow]
  | @column name operations sel table before after c s' hsel htable hoperations hbefore htaken =>
    have halter : alter table.id (s.columnsOf table.id) s (operations.1.map (·.request)) =
        .error ⟨some (.columnRefused c.name.label), .alreadyExists .column c.name.label⟩ := by
      rw [hoperations, List.map_append, List.map_cons, (alter_isLoop _ _).eq_error_iff]
      refine ⟨_, _, _, s', rfl, hbefore, ?_⟩
      rw [Alteration.request, alter_addColumn, Store.addColumn_eq_bind,
        Store.requireNewColumn_spec, ok_bind, Store.insertColumn?_of_mem htaken]
      rfl
    rw [Statement.request, run_alterTable, hsel, ok_bind, htable, ok_bind, halter, error_bind]
  | @object kind names sel before after name s' o v hsel hnames hbefore ho hv hreads =>
    have hdrop : dropNames sel.id kind s (names.1.map (·.label)) =
        .error ⟨some (.dropRefused kind name.label),
          .constraintViolation (.dropObject kind name.label)⟩ := by
      rw [hnames, List.map_append, List.map_cons, (dropNames_isLoop _ _).eq_error_iff]
      refine ⟨_, _, _, s', rfl, hbefore, dropNames_singleton_eq_error_iff.mpr (.inr ?_)⟩
      exact ⟨o, ho, Store.isReferenced_eq_true_iff.mpr ⟨_, hreads, rfl⟩, rfl⟩
    rw [Statement.request, run_drop, hsel, ok_bind, hdrop, error_bind]
  | @databaseObject name d before after o s' v hd hobjects hbefore hv hreads =>
    have hdrop : s.dropDatabase d = .error ⟨some (.dropRefused o.kind o.name),
        .constraintViolation (.dropDatabase d.name o.kind o.name)⟩ := by
      rw [Store.dropDatabase_eq_bind, bind_eq_error_iff]
      have href : s'.isReferenced o.id = true :=
        Store.isReferenced_eq_true_iff.mpr ⟨_, hreads, rfl⟩
      exact .inl (Store.dropObjects_eq_error_iff.mpr
        ⟨before, o, after, s', hobjects, hbefore, href, rfl⟩)
    have hlookUp : lookUpDatabase name.label s = .ok d := by
      rw [lookUpDatabase, NonemptyString.label, requireStorable_text, ok_bind, Label.stored?,
        Option.bind_some, hd]
    rw [Statement.request, run_dropDatabase, hlookUp, ok_bind, hdrop, error_bind]

end Session

end SchemaCatalog
