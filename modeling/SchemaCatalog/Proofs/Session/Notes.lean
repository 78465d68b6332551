import SchemaCatalog.Proofs.Session.Edits

/-!
# What a refusal notes down

When a session refuses a request, the note that it may have written before is about the store: the
store has refused a change, or could not be used. And the request is blamed for making no sense only
if something in it that should be a text is none (`Session.attempt_failsOnly`); in a statement that
is never the case, apart from what the session itself finds in a query
(`Session.findsTexts_request`).

What can be wrong is followed through the parts of a computation (`FailsOnly.bind`), with one lemma
for each of the changes to a store and each of the requests. A check that is made before the store
is changed notes nothing and blames nothing that there is already (`Failure.IsOfCheck`).
-/

namespace SchemaCatalog

/-! ### Texts -/

/-- A label is a text, as it should be. -/
def Label.IsText (label : Label) : Prop := ∃ s, label = .text s

/-- Name and data type of a column are texts. -/
structure ColumnSpec.IsTextual (spec : ColumnSpec) : Prop where
  name : spec.name.IsText
  dataType : spec.dataType.IsText

/-- What an operation of `ALTER TABLE` gives as texts are texts. -/
def AlterRequest.IsTextual : AlterRequest → Prop
  | .addColumn column => column.IsTextual
  | .dropColumn name => name.IsText
  | .other _ => True
  | .unreadable _ => False

/-- Whatever a session takes for a text when it handles a request is a text. -/
def Session.FindsTexts (x : Session) : Request → Prop
  | .createDatabase name | .use name | .dropDatabase name | .explainTable name => name.IsText
  | .createTable name columns => name.IsText ∧ ∀ column ∈ columns, column.IsTextual
  | .drop _ names => ∀ name ∈ names, name.IsText
  | .alterTable name operations => name.IsText ∧ ∀ operation ∈ operations, operation.IsTextual
  | .showTables | .other _ => True
  | .createView name query =>
    name.IsText ∧ query.definition.IsText ∧ ∀ label ∈ x.visitor query, label.IsText
  | .malformed _ => False

theorem NonemptyString.isText_label (s : NonemptyString) : s.label.IsText := ⟨s.text, rfl⟩

theorem ColumnDef.isTextual_spec (c : ColumnDef) : c.spec.IsTextual :=
  ⟨c.name.isText_label, c.dataType.isText_label⟩

theorem Alteration.isTextual_request (operation : Alteration) : operation.request.IsTextual := by
  cases operation with
  | addColumn column => exact column.isTextual_spec
  | dropColumn name => exact name.isText_label
  | renameColumn oldName newName => exact trivial

/-- In a statement, a session finds texts, unless it makes something else of a query. -/
theorem Session.findsTexts_request {x : Session} {stmt : Statement}
    (h : ∀ name query, stmt = .createView name query →
      ∀ label ∈ x.visitor query.view, label.IsText) : x.FindsTexts stmt.request := by
  cases stmt with
  | createDatabase name | use name | dropDatabase name | explainTable name =>
    exact name.isText_label
  | createTable name columns =>
    refine ⟨name.isText_label, List.forall_mem_map.mpr fun column _ => ?_⟩
    exact column.isTextual_spec
  | drop kind names => exact List.forall_mem_map.mpr fun name _ => name.isText_label
  | alterTable name operations =>
    refine ⟨name.isText_label, List.forall_mem_map.mpr fun operation _ => ?_⟩
    exact operation.isTextual_request
  | showTables => exact trivial
  | createView name query => exact ⟨name.isText_label, query.text.isText_label, h name query rfl⟩

/-! ### Failures -/

/-- Whether a note tells of a change that the store has refused, or of a store that cannot be
used. -/
def Note.isOfStore : Note → Bool
  | databaseRefused _ | tableRefused _ | viewRefused _ | columnRefused _ | dropRefused _ _
  | integrityFailed _ | storeFailed _ => true
  | _ => false

theorem Note.level_of_isOfStore {n : Note} (h : n.isOfStore = true) : n.level = .error := by
  cases n with
  | catalogReady | createdDatabase | createdTable | createdView | droppedDatabase =>
    exact absurd h Bool.false_ne_true
  | _ => rfl

/-- Whether an error blames what there is already: something that has the name, or something that
reads from what is to be dropped. -/
def CatalogError.blamesRows : CatalogError → Bool
  | .alreadyExists _ _ | .constraintViolation _ => true
  | _ => false

/-- Whether an error is that the request makes no sense. -/
def CatalogError.isMalformed : CatalogError → Bool
  | malformed _ => true
  | _ => false

/-- A refusal without a note that blames nothing. -/
structure Failure.IsPlain (f : Failure) : Prop where
  note : f.note = none
  error : f.error.blamesRows = false

/-- A failure of a check that is made before the store is changed. If all that should be a text is
one (`textual`), the request is not blamed for making no sense. -/
structure Failure.IsOfCheck (textual : Prop) (f : Failure) : Prop extends f.IsPlain where
  sense : textual → f.error.isMalformed = false

/-- A failure as it should be: its note, if it has one, is about the store, and if all that should
be a text is one (`textual`), the request is not blamed for making no sense. -/
structure Failure.IsProper (textual : Prop) (f : Failure) : Prop where
  note : ∀ n ∈ f.note, n.isOfStore = true
  error : textual → f.error.isMalformed = false

variable {T : Prop}

theorem Failure.isOfCheck_of {e : CatalogError} (hrows : e.blamesRows = false)
    (h : T → e.isMalformed = false) : (Failure.of e).IsOfCheck T :=
  ⟨⟨rfl, hrows⟩, h⟩

/-- Something that should be a text and is none may be blamed for that. -/
theorem Failure.isOfCheck_malformed {flaw : Flaw} {label : Label} (h : T → label.IsText)
    (hlabel : ∀ s, label ≠ .text s) : (Failure.of (.malformed flaw)).IsOfCheck T := by
  refine isOfCheck_of rfl fun ht => ?_
  obtain ⟨s, hs⟩ := h ht
  exact absurd hs (hlabel s)

/-- A failure without a note is proper if the request is not blamed. -/
theorem Failure.isProper_of {e : CatalogError} (h : T → e.isMalformed = false) :
    (Failure.of e).IsProper T :=
  ⟨fun n hn => absurd hn (Option.not_mem_none n), h⟩

/-- A failure with a note about the store is proper if the request is not blamed. -/
theorem Failure.isProper_some {n : Note} {e : CatalogError} (hn : n.isOfStore = true)
    (h : e.isMalformed = false) : Failure.IsProper T ⟨some n, e⟩ :=
  ⟨fun _ hmem => Option.some.inj hmem ▸ hn, fun _ => h⟩

/-! ### Computations that fail -/

/-- All failures of a computation have a property. -/
def FailsOnly {α : Type} (P : Failure → Prop) (m : Except Failure α) : Prop :=
  ∀ f, m = .error f → P f

namespace FailsOnly

variable {α β : Type} {P : Failure → Prop} {m : Except Failure α}

theorem ok (a : α) : FailsOnly P (.ok a : Except Failure α) := by
  intro f h
  cases h

theorem error {f : Failure} (h : P f) : FailsOnly P (.error f : Except Failure α) := by
  intro f' h'
  obtain rfl := Except.error.inj h'
  exact h

/-- The failures of a computation are those of its parts, the second of which goes on with what the
first has given. -/
theorem bind_of_ok {k : α → Except Failure β} (hm : FailsOnly P m)
    (hk : ∀ a, m = .ok a → FailsOnly P (k a)) : FailsOnly P (m >>= k) := by
  intro f h
  rcases bind_eq_error_iff.mp h with h | ⟨a, ha, h⟩
  · exact hm f h
  · exact hk a ha f h

theorem bind {k : α → Except Failure β} (hm : FailsOnly P m) (hk : ∀ a, FailsOnly P (k a)) :
    FailsOnly P (m >>= k) :=
  hm.bind_of_ok fun a _ => hk a

theorem mono {Q : Failure → Prop} (hm : FailsOnly P m) (h : ∀ f, P f → Q f) : FailsOnly Q m :=
  fun f hf => h f (hm f hf)

theorem map {g : α → β} (hm : FailsOnly P m) : FailsOnly P (m.map g) := by
  cases m with
  | ok a => exact ok (g a)
  | error f => exact error (hm f rfl)

theorem discarded (hm : FailsOnly P m) : FailsOnly P (discard m) := by
  cases m with
  | ok a => exact ok ()
  | error f => exact error (hm f rfl)

theorem forM {check : α → Except Failure Unit} {l : List α}
    (h : ∀ a ∈ l, FailsOnly P (check a)) : FailsOnly P (l.forM check) := by
  intro f hf
  obtain ⟨a, ha, hcheck⟩ := exists_of_forM_eq_error hf
  exact h a ha f hcheck

/-- The failures of a check are proper. -/
theorem proper (hm : FailsOnly (Failure.IsOfCheck T) m) : FailsOnly (Failure.IsProper T) m := by
  refine hm.mono fun f hf => ⟨fun n hn => ?_, hf.sense⟩
  rw [hf.note] at hn
  exact absurd hn (Option.not_mem_none n)

/-- A check comes before a computation. -/
theorem check {k : α → Except Failure β} (hm : FailsOnly (Failure.IsOfCheck T) m)
    (hk : ∀ a, FailsOnly (Failure.IsProper T) (k a)) : FailsOnly (Failure.IsProper T) (m >>= k) :=
  hm.proper.bind hk

end FailsOnly

open Failure (IsOfCheck isOfCheck_of isOfCheck_malformed IsProper isProper_of isProper_some)

/-! ### Labels -/

section Labels

variable {label : Label} {spec : ColumnSpec}

theorem requireReadable_failsOnly (h : T → label.IsText) :
    FailsOnly (IsOfCheck T) (requireReadable label) := by
  cases label with
  | unreadable flaw => exact .error (isOfCheck_malformed h nofun)
  | _ => exact .ok ()

theorem requireComparable_failsOnly (h : T → label.IsText) :
    FailsOnly (IsOfCheck T) (requireComparable label) := by
  rw [requireComparable.eq_def]
  split
  · exact .error (isOfCheck_malformed h nofun)
  · exact requireReadable_failsOnly h

theorem requireStorable_failsOnly (place : Nat) (h : T → label.IsText) :
    FailsOnly (IsOfCheck T) (requireStorable place label) := by
  rw [requireStorable.eq_def]
  split
  · exact .error (isOfCheck_of rfl fun _ => rfl)
  · split_ifs
    · exact .ok ()
    · exact .error (isOfCheck_malformed h nofun)
  · exact requireReadable_failsOnly h

theorem requireStorableColumn_failsOnly (h : T → spec.IsTextual) :
    FailsOnly (IsOfCheck T) (requireStorableColumn spec) :=
  .bind (requireStorable_failsOnly 2 fun ht => (h ht).name) fun _ =>
    requireStorable_failsOnly 3 fun ht => (h ht).dataType

end Labels

/-! ### Changes to a store -/

namespace Store

variable {s : Store} {databaseId tableId : Id} {name : Label} {kind : ObjectKind}
  {spec : ColumnSpec} {columns : List ColumnSpec}

theorem createDatabase_failsOnly (h : T → name.IsText) :
    FailsOnly (IsProper T) (s.createDatabase name) := by
  rw [createDatabase_eq_bind]
  refine .check (requireStorable_failsOnly 1 h) fun _ => ?_
  split
  · exact .ok _
  · exact .error (isProper_some rfl rfl)

theorem dropObjects_failsOnly (database : String) (rows : List ObjectRow) :
    FailsOnly (IsProper T) (s.dropObjects database rows) := by
  induction rows generalizing s with
  | nil => exact .ok s
  | cons o rest ih =>
    rw [dropObjects_cons]
    split
    · exact ih
    · exact .error (isProper_some rfl rfl)

theorem dropDatabase_failsOnly (d : DatabaseRow) :
    FailsOnly (IsProper T) (s.dropDatabase d) := by
  rw [dropDatabase_eq_bind]
  refine .bind (dropObjects_failsOnly _ _) fun s₁ => ?_
  split
  · exact .ok _
  · exact .error (isProper_some rfl rfl)

theorem requireFree_failsOnly (h : T → name.IsText) :
    FailsOnly (IsProper T) (s.requireFree databaseId name) := by
  refine .check (requireStorable_failsOnly 2 h) fun _ => ?_
  split
  · exact .error (isProper_of fun _ => rfl)
  · exact .ok ()

theorem requireNewTable_failsOnly (h : T → name.IsText)
    (hcolumns : T → ∀ column ∈ columns, column.IsTextual) :
    FailsOnly (IsProper T) (s.requireNewTable databaseId name columns) := by
  refine .bind (requireFree_failsOnly h) fun _ => .bind (.forM fun column hmem => ?_) fun _ => ?_
  · exact (requireComparable_failsOnly fun ht => (hcolumns ht column hmem).name).proper
  · split
    · exact .error (isProper_of fun _ => rfl)
    · refine .forM fun column hmem => ?_
      exact (requireReadable_failsOnly fun ht => (hcolumns ht column hmem).dataType).proper

theorem insertColumns_failsOnly {refusal : Failure} (hrefusal : refusal.IsProper T)
    (hcolumns : T → ∀ column ∈ columns, column.IsTextual) :
    FailsOnly (IsProper T) (s.insertColumns tableId refusal columns) := by
  induction columns generalizing s with
  | nil => exact .ok s
  | cons column rest ih =>
    rw [insertColumns_cons]
    refine .check (requireStorableColumn_failsOnly fun ht => ?_) fun _ => ?_
    · exact hcolumns ht column List.mem_cons_self
    · split
      · exact ih fun ht column hmem => hcolumns ht column (List.mem_cons_of_mem _ hmem)
      · exact .error hrefusal

theorem createTable_failsOnly (h : T → name.IsText)
    (hcolumns : T → ∀ column ∈ columns, column.IsTextual) :
    FailsOnly (IsProper T) (s.createTable databaseId name columns) := by
  have hrefusal : IsProper T ⟨some (.tableRefused name), .alreadyExists (.object .table) name⟩ :=
    isProper_some rfl rfl
  rw [createTable_eq_bind]
  refine .bind (requireNewTable_failsOnly h hcolumns) fun _ => ?_
  split
  · exact .error hrefusal
  · exact .bind (insertColumns_failsOnly hrefusal hcolumns) fun _ => .ok _

theorem requireNewView_failsOnly {definition : Label} (h : T → name.IsText)
    (hdefinition : T → definition.IsText) :
    FailsOnly (IsProper T) (s.requireNewView databaseId name definition) :=
  .check (requireReadable_failsOnly hdefinition) fun _ => requireFree_failsOnly h

theorem createView_failsOnly {definition : Label} (objectIds : List Id) (h : T → name.IsText)
    (hdefinition : T → definition.IsText) :
    FailsOnly (IsProper T) (s.createView databaseId name definition objectIds) := by
  have hrefusal : IsProper T ⟨some (.viewRefused name), .alreadyExists (.object .view) name⟩ :=
    isProper_some rfl rfl
  rw [createView_eq_bind]
  refine .bind (requireNewView_failsOnly h hdefinition) fun _ => ?_
  split
  · exact .error hrefusal
  · refine .check (requireStorable_failsOnly 2 hdefinition) fun _ => ?_
    split
    · exact .ok _
    · exact .error hrefusal

theorem dropObject_failsOnly (h : T → name.IsText) :
    FailsOnly (IsProper T) (s.dropObject databaseId kind name) := by
  rw [dropObject_eq_bind]
  refine .check (requireStorable_failsOnly 3 h) fun _ => ?_
  split
  · exact .ok _
  · split
    · exact .ok _
    · exact .error (isProper_some rfl rfl)

theorem requireNewColumn_failsOnly (h : T → spec.IsTextual) :
    FailsOnly (IsOfCheck T) (requireNewColumn spec) :=
  .bind (requireReadable_failsOnly fun ht => (h ht).name) fun _ =>
    .bind (requireReadable_failsOnly fun ht => (h ht).dataType) fun _ =>
      requireStorableColumn_failsOnly h

theorem addColumn_failsOnly (h : T → spec.IsTextual) :
    FailsOnly (IsProper T) (s.addColumn tableId spec) := by
  rw [addColumn_eq_bind]
  refine .check (requireNewColumn_failsOnly h) fun _ => ?_
  split
  · exact .ok _
  · exact .error (isProper_some rfl rfl)

end Store

/-! ### Requests -/

namespace Session

variable {x : Session} {s : Store} {name : Label} {databaseId tableId : Id}

theorem selected_failsOnly : FailsOnly (IsOfCheck T) (x.selected s) := by
  rw [selected]
  split
  · exact .error (isOfCheck_of rfl fun _ => rfl)
  · split
    · exact .error (isOfCheck_of rfl fun _ => rfl)
    · exact .ok _

theorem lookUpDatabase_failsOnly (h : T → name.IsText) :
    FailsOnly (IsOfCheck T) (lookUpDatabase name s) := by
  refine .bind (requireStorable_failsOnly 1 h) fun _ => ?_
  split
  · exact .error (isOfCheck_of rfl fun _ => rfl)
  · exact .ok _

theorem lookUpTable_failsOnly (h : T → name.IsText) :
    FailsOnly (IsOfCheck T) (lookUpTable databaseId name s) := by
  refine .bind (requireStorable_failsOnly 2 h) fun _ => ?_
  split
  · exact .error (isOfCheck_of rfl fun _ => rfl)
  · exact .ok _

theorem lookUpColumn_failsOnly {columns : List ColumnRow} (h : T → name.IsText) :
    FailsOnly (IsOfCheck T) (lookUpColumn name columns) := by
  refine .bind (requireComparable_failsOnly h) fun _ => ?_
  split
  · exact .error (isOfCheck_of rfl fun _ => rfl)
  · exact .ok _

theorem references_failsOnly {query : ViewQuery}
    (h : T → ∀ label ∈ x.visitor query, label.IsText) :
    FailsOnly (IsOfCheck T) (x.references query) := by
  rw [references]
  split_ifs
  · exact .error (isOfCheck_of rfl fun _ => rfl)
  · refine .bind (.forM fun label hmem => ?_) fun _ => .ok _
    exact requireReadable_failsOnly fun ht => h ht label hmem

theorem resolve_failsOnly {names : List Label} (h : T → ∀ name ∈ names, name.IsText) :
    FailsOnly (IsOfCheck T) (resolve s names) := by
  induction names with
  | nil => exact .ok []
  | cons name rest ih =>
    rw [resolve]
    refine .bind (requireStorable_failsOnly 1 fun ht => h ht name List.mem_cons_self) fun _ => ?_
    split
    · exact .error (isOfCheck_of rfl fun _ => rfl)
    · exact .map (ih fun ht name hmem => h ht name (List.mem_cons_of_mem _ hmem))

theorem dropNames_failsOnly {kind : ObjectKind} {names : List Label}
    (h : T → ∀ name ∈ names, name.IsText) :
    FailsOnly (IsProper T) (dropNames databaseId kind s names) := by
  induction names generalizing s with
  | nil => exact .ok s
  | cons name rest ih =>
    rw [dropNames_cons]
    refine .bind (Store.dropObject_failsOnly fun ht => h ht name List.mem_cons_self) ?_
    rintro ⟨count, s₁⟩
    dsimp only
    split_ifs
    · exact .error (isProper_of fun _ => rfl)
    · exact ih fun ht name hmem => h ht name (List.mem_cons_of_mem _ hmem)

theorem alter_failsOnly {before : List ColumnRow} {operations : List AlterRequest}
    (h : T → ∀ operation ∈ operations, operation.IsTextual) :
    FailsOnly (IsProper T) (alter tableId before s operations) := by
  induction operations generalizing s with
  | nil => exact .ok s
  | cons operation rest ih =>
    have hfirst : T → operation.IsTextual := fun ht => h ht operation List.mem_cons_self
    have hrest : T → ∀ operation ∈ rest, operation.IsTextual := fun ht operation hmem =>
      h ht operation (List.mem_cons_of_mem _ hmem)
    cases operation with
    | addColumn column =>
      rw [alter_addColumn]
      exact .bind (Store.addColumn_failsOnly hfirst) fun _ => ih hrest
    | dropColumn name =>
      rw [alter_dropColumn]
      exact .check (lookUpColumn_failsOnly hfirst) fun _ => ih hrest
    | other label => exact .error (isProper_of fun _ => rfl)
    | unreadable flaw => exact .error (isProper_of fun ht => (hfirst ht).elim)

/-- What a view reads from is listed before a `CREATE VIEW` gets to the store. -/
theorem references_findsTexts (name : Label) (query : ViewQuery) :
    FailsOnly (IsOfCheck (x.FindsTexts (.createView name query))) (x.references query) :=
  references_failsOnly fun h => h.2.2

theorem run_failsOnly (x : Session) (s : Store) (r : Request) :
    FailsOnly (IsProper (x.FindsTexts r)) (x.run s r) := by
  cases r with
  | createDatabase name =>
    rw [run_createDatabase]
    exact .bind (Store.createDatabase_failsOnly id) fun _ => .ok _
  | use name =>
    rw [run_use]
    exact .check (lookUpDatabase_failsOnly id) fun _ => .ok _
  | dropDatabase name =>
    rw [run_dropDatabase]
    refine .check (lookUpDatabase_failsOnly id) fun d => ?_
    exact .bind (Store.dropDatabase_failsOnly d) fun _ => .ok _
  | createTable name columns =>
    rw [run_createTable]
    refine .check selected_failsOnly fun _ => ?_
    exact .bind (Store.createTable_failsOnly (·.1) (·.2)) fun _ => .ok _
  | drop kind names =>
    rw [run_drop]
    exact .check selected_failsOnly fun _ => .bind (dropNames_failsOnly id) fun _ => .ok _
  | alterTable name operations =>
    rw [run_alterTable]
    refine .check selected_failsOnly fun _ => .check (lookUpTable_failsOnly (·.1)) fun _ => ?_
    exact .bind (alter_failsOnly (·.2)) fun _ => .ok _
  | showTables =>
    rw [run_showTables]
    exact .check selected_failsOnly fun _ => .ok _
  | explainTable name =>
    rw [run_explainTable]
    exact .check selected_failsOnly fun _ => .check (lookUpTable_failsOnly id) fun _ => .ok _
  | createView name query =>
    rw [run_createView]
    refine (references_findsTexts name query).proper.bind_of_ok fun names hnames => ?_
    obtain rfl := eq_of_references hnames
    refine .check selected_failsOnly fun _ => .check (resolve_failsOnly (·.2.2)) fun _ => ?_
    exact .bind (Store.createView_failsOnly _ (·.1) (·.2.1)) fun _ => .ok _
  | other typeName => exact .error (isProper_of fun _ => rfl)
  | malformed flaw => exact .error (isProper_of False.elim)

/-! ### Requests on other stores -/

theorem requireAlteration_failsOnly {columns : List ColumnRow} {operation : AlterRequest}
    (h : T → operation.IsTextual) :
    FailsOnly (IsOfCheck T) (requireAlteration columns operation) := by
  cases operation with
  | addColumn column => exact Store.requireNewColumn_failsOnly h
  | dropColumn name => exact (lookUpColumn_failsOnly h).discarded
  | other label => exact .error (isOfCheck_of rfl fun _ => rfl)
  | unreadable flaw => exact .error (isOfCheck_of rfl fun ht => (h ht).elim)

theorem inspect_failsOnly (x : Session) (s : Store) (r : Request) :
    FailsOnly (IsProper (x.FindsTexts r)) (x.inspect s r) := by
  cases r with
  | createDatabase name => exact .check (requireStorable_failsOnly 1 id) fun _ => .ok _
  | dropDatabase name => exact .check (lookUpDatabase_failsOnly id).discarded fun _ => .ok _
  | createTable name columns =>
    refine .check selected_failsOnly fun _ => ?_
    exact .bind (Store.requireNewTable_failsOnly (·.1) (·.2)) fun _ => .ok _
  | drop kind names =>
    refine .check selected_failsOnly.discarded fun _ => .bind ?_ fun _ => .ok _
    cases names with
    | nil => exact .ok ()
    | cons name rest =>
      have hfirst : x.FindsTexts (.drop kind (name :: rest)) → name.IsText :=
        fun h => h name List.mem_cons_self
      exact (requireStorable_failsOnly 3 hfirst).proper
  | alterTable name operations =>
    refine .check selected_failsOnly fun _ => .check (lookUpTable_failsOnly (·.1)) fun table => ?_
    refine .bind ?_ fun _ => .ok _
    cases operations with
    | nil => exact .ok ()
    | cons operation rest =>
      have hfirst : x.FindsTexts (.alterTable name (operation :: rest)) → operation.IsTextual :=
        fun h => h.2 operation List.mem_cons_self
      exact (requireAlteration_failsOnly hfirst).proper
  | createView name query =>
    refine (references_findsTexts name query).proper.bind_of_ok fun names hnames => ?_
    obtain rfl := eq_of_references hnames
    refine .check selected_failsOnly fun _ => ?_
    refine .check (resolve_failsOnly (·.2.2)).discarded fun _ => ?_
    exact .bind (Store.requireNewView_failsOnly (·.1) (·.2.1)) fun _ => .ok _
  | _ => exact .ok false

theorem storeUnavailable_isProper (outage : Outage) (r : Request) :
    IsProper T ⟨r.kind?.map .storeFailed, .storeUnavailable outage⟩ := by
  refine ⟨fun n hn => ?_, fun _ => rfl⟩
  obtain ⟨kind, -, rfl⟩ := Option.map_eq_some_iff.mp hn
  rfl

theorem runReadOnly_failsOnly (x : Session) (s : Store) (r : Request) :
    FailsOnly (IsProper (x.FindsTexts r)) (x.runReadOnly s r) := by
  refine .bind (inspect_failsOnly x s r) fun changes => ?_
  split_ifs
  · exact .error (storeUnavailable_isProper .readOnly r)
  · exact run_failsOnly x s r

theorem refusal_isProper (x : Session) (outage : Outage) (r : Request) :
    (x.refusal outage r).IsProper (x.FindsTexts r) := by
  have hunavailable := storeUnavailable_isProper (T := x.FindsTexts r) outage r
  rw [refusal.eq_def]
  split
  · exact isProper_of fun _ => rfl
  · exact isProper_of False.elim
  · split
    · rename_i name query result f hreferences
      exact (references_findsTexts name query).proper f hreferences
    · exact hunavailable
  · split_ifs
    · exact isProper_of fun _ => rfl
    · exact hunavailable

/-- **Refusals.** Whatever the store, the note of a request that is refused is about the store, and
the request is not blamed for making no sense if a session finds texts in it. -/
theorem attempt_failsOnly (x : Session) (r : Request) (a : Access) :
    FailsOnly (IsProper (x.FindsTexts r)) (x.attempt r a) := by
  cases a with
  | ready s => exact run_failsOnly x s r
  | readOnly s => exact runReadOnly_failsOnly x s r
  | broken outage => exact .error (refusal_isProper x outage r)

end Session

end SchemaCatalog
