import Mathlib.Data.Finset.Card
import Mathlib.Data.Finset.Lattice.Lemmas
import SchemaCatalog.Proofs.Session.Rounds

/-!
# What the operations of an `ALTER TABLE` come to

Whether an operation fails (`Alteration.Fails`) is known from the names of the columns that the
table had when the statement began, and from what the operations before it add and drop. Neither the
order in which they do that nor how often they drop a column makes a difference, and a column that
is added does not count as one that the table had.

As long as no operation has failed, the table has the columns that it had, without those that have
been dropped, and then those that have been added (`Store.AlteredBy`). This is what a round of the
loop keeps (`Session.alter_rounds`). A column that is dropped again is not missed, and so the number
of columns tells only how many different ones have been dropped (`Session.eachDropCounts_iff`).
-/

namespace SchemaCatalog

/-! ### Operations -/

namespace Alteration

/-- The column that an operation adds, if it adds one. -/
def added? : Alteration → Option ColumnDef
  | .addColumn column => some column
  | _ => none

/-- The name of the column that an operation drops, if it drops one. -/
def dropped? : Alteration → Option String
  | .dropColumn name => some name.text
  | _ => none

/-- The columns that operations add. -/
def addedBy (operations : List Alteration) : List ColumnDef := operations.filterMap added?

/-- The names of the columns that operations drop, each as often as it is dropped. -/
def droppedBy (operations : List Alteration) : List String := operations.filterMap dropped?

/-- An operation fails after the operations `before`, on a table that had columns of the given names
when the statement began. -/
inductive Fails (names : List String) (before : List Alteration) :
    Alteration → CatalogError → Prop
  /-- A column of the name has been added. -/
  | addAdded {c : ColumnDef} (hadded : c.name.text ∈ (addedBy before).map (·.name.text)) :
      Fails names before (.addColumn c) (.alreadyExists .column c.name.text)
  /-- The table had a column of the name, and it has not been dropped. -/
  | addKept {c : ColumnDef} (hhad : c.name.text ∈ names)
      (hkept : c.name.text ∉ droppedBy before) :
      Fails names before (.addColumn c) (.alreadyExists .column c.name.text)
  /-- The table had no column of the name. -/
  | dropAbsent {name : NonemptyString} (habsent : name.text ∉ names) :
      Fails names before (.dropColumn name) (.notFound .column name.text)
  | rename {oldName newName : NonemptyString} :
      Fails names before (.renameColumn oldName newName)
        (.unsupported (.alteration "rename_column"))

@[simp] theorem addedBy_concat_addColumn (operations : List Alteration) (c : ColumnDef) :
    addedBy (operations ++ [.addColumn c]) = addedBy operations ++ [c] := by
  simp [addedBy, added?]

@[simp] theorem addedBy_concat_dropColumn (operations : List Alteration) (name : NonemptyString) :
    addedBy (operations ++ [.dropColumn name]) = addedBy operations := by
  simp [addedBy, added?]

@[simp] theorem droppedBy_concat_addColumn (operations : List Alteration) (c : ColumnDef) :
    droppedBy (operations ++ [.addColumn c]) = droppedBy operations := by
  simp [droppedBy, dropped?]

@[simp] theorem droppedBy_concat_dropColumn (operations : List Alteration)
    (name : NonemptyString) :
    droppedBy (operations ++ [.dropColumn name]) = droppedBy operations ++ [name.text] := by
  simp [droppedBy, dropped?]

@[simp] theorem droppedBy_concat_renameColumn (operations : List Alteration)
    (oldName newName : NonemptyString) :
    droppedBy (operations ++ [.renameColumn oldName newName]) = droppedBy operations := by
  simp [droppedBy, dropped?]

/-- If no operation fails, the table had every column that is dropped. -/
theorem mem_of_mem_droppedBy {names : List String} {operations : List Alteration}
    (h : NoneFails (Fails names) operations) : ∀ name ∈ droppedBy operations, name ∈ names := by
  intro name hname
  obtain ⟨operation, hmem, hdropped⟩ := List.mem_filterMap.mp hname
  obtain ⟨before, after, rfl⟩ := List.append_of_mem hmem
  cases operation with
  | dropColumn name' =>
    obtain rfl := Option.some.inj hdropped
    by_contra habsent
    exact h before _ after rfl _ (.dropAbsent habsent)
  | _ => simp [dropped?] at hdropped

/-- No name is dropped twice if no operation drops a column that has been dropped before it, and
only then. -/
theorem nodup_droppedBy_iff {operations : List Alteration} :
    (droppedBy operations).Nodup ↔
      ∀ before name after, operations = before ++ .dropColumn name :: after →
        name.text ∉ droppedBy before := by
  constructor
  · rintro h before name after rfl hmem
    have hdropped : droppedBy (before ++ .dropColumn name :: after) =
        droppedBy before ++ name.text :: droppedBy after := by
      simp [droppedBy, dropped?]
    rw [hdropped] at h
    exact (List.nodup_append.mp h).2.2 _ hmem _ List.mem_cons_self rfl
  · induction operations using List.reverseRecOn with
    | nil => exact fun _ => .nil
    | append_singleton operations operation ih =>
      intro h
      have hnodup : (droppedBy operations).Nodup := by
        refine ih fun before name after hsplit => h before name (after ++ [operation]) ?_
        rw [hsplit, List.append_assoc, List.cons_append]
      cases operation with
      | addColumn c => rwa [droppedBy_concat_addColumn]
      | dropColumn name =>
        rw [droppedBy_concat_dropColumn, ← List.concat_eq_append]
        exact List.Nodup.concat (h operations name [] rfl) hnodup
      | renameColumn oldName newName => rwa [droppedBy_concat_renameColumn]

end Alteration

open Alteration (addedBy droppedBy)

namespace Store

variable {s s' : Store} {tableId : Id} {operations : List Alteration}

/-! ### Names of columns -/

/-- A table has no two columns of one name. -/
theorem Valid.nodup_map_name_columnsOf (hs : s.Valid) (tableId : Id) :
    ((s.columnsOf tableId).map (·.name)).Nodup := by
  refine List.Nodup.map_on (fun a ha b hb hname => ?_) (hs.column_numbers.filter _).nodup.of_map
  obtain ⟨ha, htable⟩ := List.mem_filter.mp ha
  obtain ⟨hb, htable'⟩ := List.mem_filter.mp hb
  refine List.inj_on_of_nodup_map hs.column_names ha hb (Prod.ext ?_ hname)
  exact (of_decide_eq_true htable).trans (of_decide_eq_true htable').symm

/-- Of different names, as many are in a list as it has different elements, if it has no others. -/
theorem length_filter_mem {names dropped : List String} (hnames : names.Nodup)
    (hhad : ∀ name ∈ dropped, name ∈ names) :
    (names.filter (· ∈ dropped)).length = dropped.toFinset.card := by
  rw [← List.toFinset_card_of_nodup (hnames.filter _)]
  congr 1
  ext name
  simp only [List.mem_toFinset, List.mem_filter, decide_eq_true_eq, and_iff_right_iff_imp]
  exact hhad name

/-! ### Altered tables -/

/-- The columns of a table that some operations leave of those that it had. -/
def keptColumns (s : Store) (tableId : Id) (operations : List Alteration) : List ColumnRow :=
  (s.columnsOf tableId).filter (·.name ∉ droppedBy operations)

/-- A table has been altered by some operations, none of which has failed. -/
def AlteredBy (s : Store) (tableId : Id) (operations : List Alteration) (s' : Store) : Prop :=
  ∃ added, Altering s s' tableId (s.keptColumns tableId operations) added ∧
    added.map (·.named) = (addedBy operations).map .ofDef

theorem alteredBy_nil (hs : s.Valid) : s.AlteredBy tableId [] s := by
  have hkept : s.keptColumns tableId [] = s.columnsOf tableId :=
    List.filter_eq_self.mpr fun c _ => by simp [droppedBy]
  refine ⟨[], ?_, rfl⟩
  rw [hkept]
  exact .start hs

namespace AlteredBy

/-- The names of the columns of a table that has been altered. -/
theorem mem_names_iff (h : s.AlteredBy tableId operations s') {name : String} :
    name ∈ (s'.columnsOf tableId).map (·.name) ↔
      name ∈ (addedBy operations).map (·.name.text) ∨
        name ∈ (s.columnsOf tableId).map (·.name) ∧ name ∉ droppedBy operations := by
  obtain ⟨added, haltering, hadded⟩ := h
  have hnames : added.map (·.name) = (addedBy operations).map (·.name.text) := by
    rw [← map_named_name, hadded, List.map_map]
    rfl
  have hkept : name ∈ (s.keptColumns tableId operations).map (·.name) ↔
      name ∈ (s.columnsOf tableId).map (·.name) ∧ name ∉ droppedBy operations := by
    simp only [keptColumns, List.mem_map, List.mem_filter, decide_eq_true_eq]
    constructor
    · rintro ⟨c, ⟨hc, hleft⟩, rfl⟩
      exact ⟨⟨c, hc, rfl⟩, hleft⟩
    · rintro ⟨⟨c, hc, rfl⟩, hleft⟩
      exact ⟨c, ⟨hc, hleft⟩, rfl⟩
  rw [haltering.columns, List.map_append, List.mem_append, hkept, hnames]
  exact or_comm

/-- One more column is added. -/
theorem addColumn (h : s.AlteredBy tableId operations s') (hs : s.Valid)
    (htable : tableId ∈ s.tables) {c : ColumnDef}
    (hnew : c.name.text ∉ (s'.columnsOf tableId).map (·.name)) :
    s.AlteredBy tableId (operations ++ [.addColumn c]) (s'.withColumn tableId c) := by
  obtain ⟨added, haltering, hadded⟩ := h
  refine ⟨added ++ [s'.nextColumn tableId c], ?_, ?_⟩
  · rw [keptColumns, Alteration.droppedBy_concat_addColumn]
    exact haltering.addColumn hs htable hnew
  · rw [List.map_append, hadded, Alteration.addedBy_concat_addColumn, List.map_append]
    rfl

/-- One more column is dropped; it may have been dropped before. -/
theorem dropColumn (h : s.AlteredBy tableId operations s') (hs : s.Valid) {c : ColumnRow}
    (hc : c ∈ s.columnsOf tableId) {name : NonemptyString} (hname : c.name = name.text) :
    s.AlteredBy tableId (operations ++ [.dropColumn name]) (s'.removeColumn c.id) := by
  obtain ⟨added, haltering, hadded⟩ := h
  have hkept : s.keptColumns tableId (operations ++ [.dropColumn name]) =
      (s.keptColumns tableId operations).filter (·.id ≠ c.id) := by
    rw [filter_id_eq_filter_name hs haltering.kept_subset hc, keptColumns, keptColumns,
      List.filter_filter, hname]
    refine List.filter_congr fun r _ => ?_
    simp [and_comm]
  refine ⟨added, hkept ▸ haltering.removeColumn hs hc, ?_⟩
  rw [hadded, Alteration.addedBy_concat_dropColumn]

/-- Once a column has been dropped, its number is that of no column: neither one of another table
nor one that has been added has it. -/
theorem removeColumn_eq_self (h : s.AlteredBy tableId operations s') (hs : s.Valid) {c : ColumnRow}
    (hc : c ∈ s.columnsOf tableId) (hdropped : c.name ∈ droppedBy operations) :
    s'.removeColumn c.id = s' := by
  obtain ⟨added, haltering, -⟩ := h
  have hmem : c ∈ s.columns := (List.mem_filter.mp hc).1
  have hle : c.id ≤ s.lastColumn := (hs.column_numbers.bounds _ (List.mem_map_of_mem hmem)).2
  have hfilter : s'.columns.filter (·.id ≠ c.id) = s'.columns := by
    refine List.filter_eq_self.mpr fun r hr => decide_eq_true fun hid => ?_
    -- it would be the column itself, and so be among those that are kept or added
    have hr₀ := haltering.later.columns.mem_of_le hr (hid ▸ hle)
    obtain rfl := hs.column_numbers.eq_of_number_eq hr₀ hmem hid
    have hr' : r ∈ s'.columnsOf tableId := List.mem_filter.mpr ⟨hr, (List.mem_filter.mp hc).2⟩
    rw [haltering.columns, List.mem_append] at hr'
    rcases hr' with hkept | hadded
    · exact of_decide_eq_true (List.mem_filter.mp hkept).2 hdropped
    · exact absurd (haltering.added_new r hadded) (Int.not_lt.mpr hle)
  rw [removeColumn, hfilter]

/-- How many columns a table has that has been altered, if it had every column that is dropped: each
name counts once, however often it is dropped. -/
theorem length_columnsOf (h : s.AlteredBy tableId operations s') (hs : s.Valid)
    (hhad : ∀ name ∈ droppedBy operations, name ∈ (s.columnsOf tableId).map (·.name)) :
    (s'.columnsOf tableId).length + (droppedBy operations).toFinset.card =
      (s.columnsOf tableId).length + (addedBy operations).length := by
  obtain ⟨added, haltering, hadded⟩ := h
  have hgone : ((s.columnsOf tableId).filter (·.name ∈ droppedBy operations)).length =
      (droppedBy operations).toFinset.card := by
    rw [← length_filter_mem (hs.nodup_map_name_columnsOf tableId) hhad, List.filter_map,
      List.length_map]
    rfl
  have hsplit := List.length_eq_length_filter_add (l := s.columnsOf tableId)
    (fun c => decide (c.name ∈ droppedBy operations))
  have hkept : (s.keptColumns tableId operations).length =
      ((s.columnsOf tableId).filter fun c => !decide (c.name ∈ droppedBy operations)).length := by
    simp [keptColumns]
  have hlength : added.length = (addedBy operations).length := by
    simpa using congrArg List.length hadded
  rw [haltering.columns, List.length_append]
  omega

/-- The operations that add and drop columns account for how many there are if no column is dropped
twice, and only then. -/
theorem length_columnsOf_iff (h : s.AlteredBy tableId operations s') (hs : s.Valid)
    (hhad : ∀ name ∈ droppedBy operations, name ∈ (s.columnsOf tableId).map (·.name)) :
    (s'.columnsOf tableId).length + (droppedBy operations).length =
        (s.columnsOf tableId).length + (addedBy operations).length ↔
      (droppedBy operations).Nodup := by
  have hlength := h.length_columnsOf hs hhad
  have hcard : (droppedBy operations).toFinset.card = (droppedBy operations).length ↔
      (droppedBy operations).Nodup :=
    Multiset.toFinset_card_eq_card_iff_nodup (m := Multiset.ofList (droppedBy operations))
  rw [← hcard]
  omega

end AlteredBy

end Store

namespace Session

variable {s : Store} {tableId : Id}

/-! ### The loop -/

/-- The column of a name that a table had is found. -/
theorem lookUpColumn_of_mem {columns : List ColumnRow} {name : String}
    (h : name ∈ columns.map (·.name)) :
    ∃ c ∈ columns, c.name = name ∧ lookUpColumn (.text name) columns = .ok c := by
  obtain ⟨c, hc, hname⟩ := List.mem_map.mp h
  have hsome : (columns.find? fun c => Label.text name = .text c.name).isSome = true :=
    List.find?_isSome.mpr ⟨c, hc, decide_eq_true (congrArg Label.text hname.symm)⟩
  obtain ⟨c', hfind⟩ := Option.isSome_iff_exists.mp hsome
  have hname' : name = c'.name := by simpa using List.find?_some hfind
  refine ⟨c', List.mem_of_find?_eq_some hfind, hname'.symm, ?_⟩
  rw [lookUpColumn, requireComparable_text, ok_bind, hfind]

/-- No column is found of a name that no column has. -/
theorem lookUpColumn_of_notMem {columns : List ColumnRow} {name : String}
    (h : name ∉ columns.map (·.name)) :
    lookUpColumn (.text name) columns = .error (.of (.notFound .column name)) := by
  have hnone : columns.find? (fun c => Label.text name = .text c.name) = none := by
    refine List.find?_eq_none.mpr fun c hc hname => h (List.mem_map.mpr ⟨c, hc, ?_⟩)
    exact (Label.text.inj (of_decide_eq_true hname)).symm
  rw [lookUpColumn, requireComparable_text, ok_bind, hnone]

/-- The operations of an `ALTER TABLE` fail as `Alteration.Fails` says, and otherwise do what
`Store.AlteredBy` says. -/
theorem alter_rounds (hs : s.Valid) (htable : tableId ∈ s.tables) :
    Rounds (fun s' operations =>
        alter tableId (s.columnsOf tableId) s' (operations.map (·.request)))
      (Alteration.Fails ((s.columnsOf tableId).map (·.name))) (s.AlteredBy tableId) where
  isLoop := (alter_isLoop _ _).map _
  error {before operation s' e} h hfails := by
    have hadd : ∀ c : ColumnDef, c.name.text ∈ (s'.columnsOf tableId).map (·.name) →
        ∃ f, alter tableId (s.columnsOf tableId) s' [.addColumn c.spec] = .error f ∧
          f.error = .alreadyExists .column c.name.text := fun c hmem => by
      refine ⟨⟨some (.columnRefused c.name.text), .alreadyExists .column c.name.text⟩, ?_, rfl⟩
      rw [alter_addColumn, Store.addColumn_eq_bind, Store.requireNewColumn_spec, ok_bind,
        Store.insertColumn?_of_mem hmem]
      rfl
    cases hfails with
    | addAdded hadded => exact hadd _ (h.mem_names_iff.mpr (.inl hadded))
    | addKept hhad hkept => exact hadd _ (h.mem_names_iff.mpr (.inr ⟨hhad, hkept⟩))
    | @dropAbsent name habsent =>
      refine ⟨.of (.notFound .column name.text), ?_, rfl⟩
      show alter tableId (s.columnsOf tableId) s' [.dropColumn (.text name.text)] = _
      rw [alter_dropColumn, lookUpColumn_of_notMem habsent, error_bind]
    | rename => exact ⟨_, rfl, rfl⟩
  ok {before operation s'} h hfails := by
    cases operation with
    | addColumn c =>
      have hnew : c.name.text ∉ (s'.columnsOf tableId).map (·.name) := by
        rw [h.mem_names_iff]
        rintro (hadded | ⟨hhad, hkept⟩)
        · exact hfails _ (.addAdded hadded)
        · exact hfails _ (.addKept hhad hkept)
      have htable' : tableId ∈ s'.tables := by
        obtain ⟨added, haltering, -⟩ := h
        rwa [haltering.only.tables]
      refine ⟨s'.withColumn tableId c, ?_, h.addColumn hs htable hnew⟩
      show alter tableId (s.columnsOf tableId) s' [.addColumn c.spec] = _
      rw [alter_addColumn, Store.addColumn_eq_bind, Store.requireNewColumn_spec, ok_bind,
        Store.insertColumn?_of_notMem htable' hnew]
      rfl
    | dropColumn name =>
      have hhad : name.text ∈ (s.columnsOf tableId).map (·.name) := by
        by_contra habsent
        exact hfails _ (.dropAbsent habsent)
      obtain ⟨c, hc, hname, hlookUp⟩ := lookUpColumn_of_mem hhad
      refine ⟨s'.removeColumn c.id, ?_, h.dropColumn hs hc hname⟩
      show alter tableId (s.columnsOf tableId) s' [.dropColumn (.text name.text)] = _
      rw [alter_dropColumn, hlookUp, ok_bind]
      rfl
    | renameColumn oldName newName => exact absurd .rename (hfails _)

/-! ### Repeated drops -/

/-- A column that has been dropped is dropped again: the store stays as it is. -/
theorem alter_dropColumn_of_mem_droppedBy (hs : s.Valid) {operations : List Alteration} {s' : Store}
    (h : s.AlteredBy tableId operations s') {name : NonemptyString}
    (hhad : name.text ∈ (s.columnsOf tableId).map (·.name))
    (hdropped : name.text ∈ droppedBy operations) :
    alter tableId (s.columnsOf tableId) s' [.dropColumn name.label] = .ok s' := by
  obtain ⟨c, hc, hname, hlookUp⟩ := lookUpColumn_of_mem hhad
  show alter tableId (s.columnsOf tableId) s' [.dropColumn (.text name.text)] = _
  rw [alter_dropColumn, hlookUp, ok_bind, h.removeColumn_eq_self hs hc (hname ▸ hdropped)]
  rfl

/-- Every operation that drops a column leaves the table with one column fewer than those before it
have. -/
def EachDropCounts (s : Store) (tableId : Id) (operations : List Alteration) : Prop :=
  ∀ before name after s₁ s₂, operations = before ++ .dropColumn name :: after →
    alter tableId (s.columnsOf tableId) s (before.map (·.request)) = .ok s₁ →
    alter tableId (s.columnsOf tableId) s₁ [.dropColumn name.label] = .ok s₂ →
    (s₂.columnsOf tableId).length + 1 = (s₁.columnsOf tableId).length

/-- Of operations that succeed, each that drops a column leaves the table with one column fewer if
no column is dropped twice, and only then. -/
theorem eachDropCounts_iff (hs : s.Valid) (htable : tableId ∈ s.tables)
    {operations : List Alteration}
    (hnone : NoneFails (Alteration.Fails ((s.columnsOf tableId).map (·.name))) operations) :
    EachDropCounts s tableId operations ↔ (droppedBy operations).Nodup := by
  have hrounds := alter_rounds hs htable
  rw [Alteration.nodup_droppedBy_iff]
  constructor
  · rintro hcounts before name after rfl hmem
    obtain ⟨s₁, hbefore, h⟩ := hrounds.exists_ok (Store.alteredBy_nil hs) hnone.of_append
    have hhad := Alteration.mem_of_mem_droppedBy hnone.of_append _ hmem
    have hagain := alter_dropColumn_of_mem_droppedBy hs h hhad hmem
    have hlength := hcounts before name after s₁ s₁ rfl hbefore hagain
    omega
  · rintro hfresh before name after s₁ s₂ rfl hbefore hdrop
    have hnone' : NoneFails (Alteration.Fails ((s.columnsOf tableId).map (·.name)))
        (before ++ [.dropColumn name]) := by
      rw [List.append_cons] at hnone
      exact hnone.of_append
    have hboth : alter tableId (s.columnsOf tableId) s
        ((before ++ [Alteration.dropColumn name]).map (·.request)) = .ok s₂ := by
      rw [List.map_append, (alter_isLoop _ _).append, hbefore]
      exact hdrop
    have hfirst := (hrounds.of_eq_ok (Store.alteredBy_nil hs) hbefore).2.length_columnsOf hs
      (Alteration.mem_of_mem_droppedBy hnone.of_append)
    have hsecond := (hrounds.of_eq_ok (Store.alteredBy_nil hs) hboth).2.length_columnsOf hs
      (Alteration.mem_of_mem_droppedBy hnone')
    have hcard : (droppedBy (before ++ [.dropColumn name])).toFinset.card =
        (droppedBy before).toFinset.card + 1 := by
      rw [Alteration.droppedBy_concat_dropColumn, List.toFinset_append, List.toFinset_cons,
        List.toFinset_nil, Finset.union_insert, Finset.union_empty]
      exact Finset.card_insert_of_notMem
        (List.mem_toFinset.not.mpr (hfresh before name after rfl))
    rw [Alteration.addedBy_concat_dropColumn] at hsecond
    omega

end Session

end SchemaCatalog
