import SchemaCatalog.Proofs.Json.Reordering
import SchemaCatalog.Proofs.Statement.Validation
import SchemaCatalog.Statement.Canonical

/-!
# Checking the values of statements

The value that spells out a statement (`Statement.toValue`) is checked to be that statement, and so
is the value with the fields of its objects in another order (`Statement.check_of_reorders`). There
is one lemma for each shape, from lemmas for fields, lists and tags. Queries are followed by
induction on how many can be nested in one another.

That is enough for every statement that has been accepted once: its queries could be followed
(`Statement.isWithinLimit_toValue`).
-/

namespace SchemaCatalog

open Json Checked

/-! ### Outcomes without problems -/

namespace Checked

variable {α β : Type}

theorem map_eq_ok_iff {f : α → β} {x : Checked α} {b : β} :
    x.map f = .ok b ↔ ∃ a, x = .ok a ∧ f a = b := by
  cases x with
  | ok a => simp [map]
  | faulty ps => simp [map]

theorem under_eq_ok_iff {step : PathStep} {x : Checked α} {a : α} :
    x.under step = .ok a ↔ x = .ok a := by
  cases x with
  | ok a => simp [under]
  | faulty ps => simp [under]

theorem and_eq_ok_iff {f : Checked (α → β)} {x : Checked α} {b : β} :
    f.and x = .ok b ↔ ∃ g a, f = .ok g ∧ x = .ok a ∧ g a = b := by
  cases f with
  | ok g =>
    cases x with
    | ok a => simp [Checked.and]
    | faulty ps => simp [Checked.and]
  | faulty ps =>
    cases x with
    | ok a => simp [Checked.and]
    | faulty qs => simp [Checked.and]

theorem items_eq_ok_iff {xs : List (Checked α)} {as : List α} :
    items xs = .ok as ↔ xs = as.map .ok := by
  have hfrom : ∀ i, itemsFrom i xs = .ok as ↔ xs = as.map .ok := by
    induction xs generalizing as with
    | nil =>
      refine fun i => ⟨fun h => ?_, fun h => ?_⟩
      · obtain rfl := Checked.ok.inj h
        rfl
      · rw [List.map_eq_nil_iff.mp h.symm]
        rfl
    | cons x rest ih =>
      intro i
      rw [itemsFrom, and_eq_ok_iff]
      simp only [map_eq_ok_iff, under_eq_ok_iff, ih]
      constructor
      · rintro ⟨g, as', ⟨a, rfl, rfl⟩, rfl, rfl⟩
        rfl
      · intro h
        obtain ⟨a, as', rfl, ha, has'⟩ := List.map_eq_cons_iff.mp h.symm
        exact ⟨List.cons a, as', ⟨a, ha.symm, rfl⟩, has'.symm, rfl⟩
  exact hfrom 0

end Checked

/-! ### Fields and lists -/

section Reorders

variable {α : Type} {check : Value → Checked α} {toValue : α → Value} {fields fields' : Fields}
  {name : String} {a : α} {v w : Value}

theorem requiredField_of_reorders (name : String) (h : (Value.obj fields).Reorders (.obj fields'))
    (hnodup : (fields'.map (·.1)).Nodup) (hget : Fields.get? fields' name = some w)
    (hcheck : ∀ v, v.Reorders w → check v = .ok a) :
    requiredField fields name check = .ok a := by
  obtain ⟨v, hv, hreorders⟩ := h.get? hnodup hget
  rw [requiredField, hv]
  exact under_eq_ok_iff.mpr (hcheck v hreorders)

theorem optionalField_of_reorders (name : String) (h : (Value.obj fields).Reorders (.obj fields'))
    (hnodup : (fields'.map (·.1)).Nodup) (hget : Fields.get? fields' name = some w)
    (hcheck : ∀ v, v.Reorders w → check v = .ok a) (default : α) :
    optionalField fields name default check = .ok a := by
  obtain ⟨v, hv, hreorders⟩ := h.get? hnodup hget
  rw [optionalField, hv]
  exact under_eq_ok_iff.mpr (hcheck v hreorders)

theorem checkList_of_reorders {as : List α} (h : v.Reorders (.arr (as.map toValue)))
    (hcheck : ∀ a ∈ as, ∀ v, v.Reorders (toValue a) → check v = .ok a) :
    checkList check v = .ok as := by
  cases h with
  | @arr items _ h =>
    have hitems : items.map check = as.map .ok := by
      induction as generalizing items with
      | nil =>
        cases h with
        | nil => rfl
      | cons a as ih =>
        cases h with
        | cons hitem hrest =>
          obtain ⟨ha, has⟩ := List.forall_mem_cons.mp hcheck
          rw [List.map_cons, List.map_cons, ha _ hitem, ih has hrest]
    exact items_eq_ok_iff.mpr hitems

theorem checkNonemptyList_of_reorders {as : NonemptyList α}
    (h : v.Reorders (.arr (as.1.map toValue)))
    (hcheck : ∀ a ∈ as.1, ∀ v, v.Reorders (toValue a) → check v = .ok a) :
    checkNonemptyList check v = .ok as := by
  rw [checkNonemptyList, checkList_of_reorders h hcheck]
  exact dif_neg as.2

/-- The tag leads to the fields. -/
theorem checkTagged_of_reorders {tags : List String} (word : String)
    {check : String → Fields → Option (Checked α)} (h : v.Reorders (.obj fields'))
    (hnodup : (fields'.map (·.1)).Nodup) (hget : Fields.get? fields' name = some (.str word))
    (hcheck : ∀ fields, (Value.obj fields).Reorders (.obj fields') →
      check word fields = some (.ok a)) :
    checkTagged name tags check v = .ok a := by
  cases h with
  | @obj fields _ _ hnames hvalues hperm =>
    have hfields := Value.Reorders.obj hnames hvalues hperm
    obtain ⟨tag, htag, hreorders⟩ := hfields.get? hnodup hget
    cases hreorders
    rw [checkTagged, htag]
    simp [Value.text?, hcheck fields hfields, under]

end Reorders

/-! ### The shapes -/

theorem NonemptyString.check_of_reorders {s : NonemptyString} {v : Value}
    (h : v.Reorders s.toValue) : NonemptyString.check v = .ok s := by
  cases h
  rw [NonemptyString.check]
  exact dif_neg s.nonempty

theorem ColumnDef.check_of_reorders (form : Form) {c : ColumnDef} {v : Value}
    (h : v.Reorders c.toValue) : ColumnDef.check form v = .ok c := by
  have hnodup : ["name", "data_type", "is_primary_key"].Nodup := by decide
  cases h with
  | @obj fields _ _ hnames hvalues hperm =>
    have hfields := Value.Reorders.obj hnames hvalues hperm
    have hname := requiredField_of_reorders "name" hfields hnodup rfl fun v hv =>
      NonemptyString.check_of_reorders hv
    have htype := requiredField_of_reorders "data_type" hfields hnodup rfl fun v hv =>
      NonemptyString.check_of_reorders hv
    have hkey : optionalField fields "is_primary_key" false (truthValue form) =
        .ok c.isPrimaryKey := by
      refine optionalField_of_reorders _ hfields hnodup rfl (fun v hv => ?_) false
      cases hv
      rfl
    rw [ColumnDef.check, hname, htype, hkey]
    rfl

theorem ObjectKind.check_word (kind : ObjectKind) :
    ObjectKind.check (.str kind.word) = .ok kind := by
  cases kind with
  | table => rfl
  | view => rfl

theorem Query.toValues_eq_map (qs : List (Query NonemptyString)) :
    Query.toValues qs = qs.map Query.toValue := by
  induction qs with
  | nil => rfl
  | cons q rest ih => rw [Query.toValues, List.map_cons, ih]

/-- A query is read back where there is room for the queries in it: by induction on the room, of
which the queries that are nested in it have one less. -/
theorem Query.checkWithin_of_reorders {room : Nat} {q : Query NonemptyString} {v : Value}
    (h : v.Reorders q.toValue) (hq : q.toValue.NestsWithin room) :
    Query.checkWithin room v = .ok q := by
  induction room generalizing q v with
  | zero => exact hq.elim
  | succ room ih =>
    have hnodup : ["text", "relations", "subqueries"].Nodup := by decide
    obtain ⟨text, relations, subqueries⟩ := q
    rw [Query.toValue, Query.toValues_eq_map] at h hq
    cases h with
    | @obj fields _ _ hnames hvalues hperm =>
      have hfields := Value.Reorders.obj hnames hvalues hperm
      have hinner : ∀ sub ∈ subqueries, sub.toValue.NestsWithin room := fun sub hsub =>
        hq _ rfl _ (List.mem_map_of_mem hsub)
      have htext := requiredField_of_reorders "text" hfields hnodup rfl fun v hv =>
        NonemptyString.check_of_reorders hv
      have hrelations := optionalField_of_reorders "relations" hfields hnodup rfl
        (fun v hv => checkList_of_reorders hv fun a _ w hw => NonemptyString.check_of_reorders hw)
        []
      have hsubqueries := optionalField_of_reorders "subqueries" hfields hnodup rfl
        (fun v hv => checkList_of_reorders hv fun sub hsub w hw => ih hw (hinner sub hsub)) []
      rw [Query.checkWithin, htext, hrelations, hsubqueries]
      rfl

theorem Alteration.check_of_reorders (form : Form) {op : Alteration} {v : Value}
    (h : v.Reorders op.toValue) : Alteration.check form v = .ok op := by
  have htext : ∀ (s : NonemptyString) (v : Value), v.Reorders s.toValue →
      NonemptyString.check v = .ok s := fun s v hv => NonemptyString.check_of_reorders hv
  cases op with
  | addColumn column =>
    have hnodup : ["op", "column_def"].Nodup := by decide
    refine checkTagged_of_reorders "add_column" h hnodup rfl fun fields hfields => ?_
    have hcolumn := requiredField_of_reorders "column_def" hfields hnodup rfl fun v hv =>
      ColumnDef.check_of_reorders form hv
    exact congrArg some (congrArg (Checked.map Alteration.addColumn) hcolumn)
  | dropColumn name =>
    have hnodup : ["op", "name"].Nodup := by decide
    refine checkTagged_of_reorders "drop_column" h hnodup rfl fun fields hfields => ?_
    have hname := requiredField_of_reorders "name" hfields hnodup rfl (htext name)
    exact congrArg some (congrArg (Checked.map Alteration.dropColumn) hname)
  | renameColumn oldName newName =>
    have hnodup : ["op", "old_name", "new_name"].Nodup := by decide
    refine checkTagged_of_reorders "rename_column" h hnodup rfl fun fields hfields => ?_
    have hold := requiredField_of_reorders "old_name" hfields hnodup rfl (htext oldName)
    have hnew := requiredField_of_reorders "new_name" hfields hnodup rfl (htext newName)
    have hfields : Alteration.checkFields form fields .renameColumn =
        .ok (.renameColumn oldName newName) := by
      rw [Alteration.checkFields, hold, hnew]
      rfl
    exact congrArg some hfields

variable {form : Form}

/-- The fields of a statement, in whatever order. -/
theorem Statement.checkFields_of_reorders {stmt : Statement} (hstmt : stmt.toValue.IsWithinLimit)
    {fields fields' : Fields} (htoValue : stmt.toValue = .obj fields')
    (h : (Value.obj fields).Reorders (.obj fields')) :
    Statement.checkFields form fields stmt.kind = .ok stmt := by
  have htext : ∀ (s : NonemptyString) (v : Value), v.Reorders s.toValue →
      NonemptyString.check v = .ok s := fun s v hv => NonemptyString.check_of_reorders hv
  -- a name that stands behind the tag, before other fields or alone
  have hname : ∀ {name : NonemptyString} {tag : Value} {rest : Fields},
      fields' = ("kind", tag) :: ("name", name.toValue) :: rest →
      ("kind" :: "name" :: rest.map (·.1)).Nodup →
      requiredField fields "name" NonemptyString.check = .ok name := by
    rintro name tag rest rfl hnodup
    have hget : Fields.get? (("kind", tag) :: ("name", name.toValue) :: rest) "name" =
        some name.toValue :=
      (Fields.get?_eq_some_iff (by simpa using hnodup)).mpr (by simp)
    exact requiredField_of_reorders _ h hnodup hget (htext name)
  cases stmt with
  | createDatabase name =>
    obtain rfl := Value.obj.inj htoValue
    exact congrArg (Checked.map Statement.createDatabase) (hname rfl (by decide))
  | use name =>
    obtain rfl := Value.obj.inj htoValue
    exact congrArg (Checked.map Statement.use) (hname rfl (by decide))
  | dropDatabase name =>
    obtain rfl := Value.obj.inj htoValue
    exact congrArg (Checked.map Statement.dropDatabase) (hname rfl (by decide))
  | createTable name columns =>
    obtain rfl := Value.obj.inj htoValue
    have hnodup : ["kind", "name", "columns"].Nodup := by decide
    have hcolumns := optionalField_of_reorders "columns" h hnodup rfl (fun v hv =>
      checkList_of_reorders hv fun c _ w hw => ColumnDef.check_of_reorders form hw) []
    rw [Statement.kind, Statement.checkFields, hname rfl hnodup, hcolumns]
    rfl
  | drop objects names =>
    obtain rfl := Value.obj.inj htoValue
    have hnodup : ["kind", "object_kind", "names"].Nodup := by decide
    have hkind : requiredField fields "object_kind" ObjectKind.check = .ok objects := by
      refine requiredField_of_reorders _ h hnodup rfl fun v hv => ?_
      cases hv
      exact ObjectKind.check_word objects
    have hnames := requiredField_of_reorders "names" h hnodup rfl fun v hv =>
      checkNonemptyList_of_reorders hv fun s _ w hw => htext s w hw
    rw [Statement.kind, Statement.checkFields, hkind, hnames]
    rfl
  | alterTable name operations =>
    obtain rfl := Value.obj.inj htoValue
    have hnodup : ["kind", "name", "operations"].Nodup := by decide
    have hoperations := requiredField_of_reorders "operations" h hnodup rfl fun v hv =>
      checkNonemptyList_of_reorders hv fun op _ w hw => Alteration.check_of_reorders form hw
    rw [Statement.kind, Statement.checkFields, hname rfl hnodup, hoperations]
    rfl
  | showTables => rfl
  | explainTable name =>
    obtain rfl := Value.obj.inj htoValue
    exact congrArg (Checked.map Statement.explainTable) (hname rfl (by decide))
  | createView name query =>
    obtain rfl := Value.obj.inj htoValue
    have hnodup : ["kind", "name", "query"].Nodup := by decide
    have hquery := requiredField_of_reorders "query" h hnodup rfl fun v hv =>
      Query.checkWithin_of_reorders hv (hstmt rfl _ rfl)
    rw [Statement.kind, Statement.checkFields, hname rfl hnodup, Query.check, hquery]
    rfl

/-- A statement is read back from its value, whatever the order of the fields. -/
theorem Statement.check_of_reorders {stmt : Statement} (hstmt : stmt.toValue.IsWithinLimit)
    {v : Value} (h : v.Reorders stmt.toValue) : Statement.checkAs form v = .ok stmt := by
  have hshape : ∃ rest, stmt.toValue = .obj (("kind", .str stmt.kind.word) :: rest) ∧
      ("kind" :: rest.map (·.1)).Nodup := by
    cases stmt with
    | _ => exact ⟨_, rfl, by simp⟩
  obtain ⟨rest, htoValue, hnodup⟩ := hshape
  have htag : Fields.get? (("kind", .str stmt.kind.word) :: rest) "kind" =
      some (.str stmt.kind.word) :=
    (Fields.get?_eq_some_iff (by simpa using hnodup)).mpr List.mem_cons_self
  rw [htoValue] at h
  refine checkTagged_of_reorders _ h hnodup htag fun fields hfields => ?_
  have hkind : StatementKind.ofWord? stmt.kind.word = some stmt.kind := by
    cases stmt with
    | _ => rfl
  rw [hkind, Option.map_some, Statement.checkFields_of_reorders hstmt htoValue hfields]

/-! ### What has been accepted -/

section Accepted

variable {α : Type} {check : Value → Checked α} {fields : Fields} {name : String} {a : α}
  {v : Value}

theorem exists_of_requiredField (h : requiredField fields name check = .ok a) :
    ∃ w, check w = .ok a := by
  have hfield := under_eq_ok_iff.mp h
  split at hfield
  · exact ⟨_, hfield⟩
  · cases hfield

theorem exists_of_optionalField {default : α}
    (h : optionalField fields name default check = .ok a) :
    a = default ∨ ∃ w, check w = .ok a := by
  rw [optionalField] at h
  split at h
  · exact .inr ⟨_, under_eq_ok_iff.mp h⟩
  · exact .inl (Checked.ok.inj h).symm

theorem exists_of_mem_checkList {as : List α} (h : checkList check v = .ok as) (ha : a ∈ as) :
    ∃ w, check w = .ok a := by
  cases v with
  | arr items =>
    have hitems : items.map check = as.map .ok := items_eq_ok_iff.mp h
    have hmem : Checked.ok a ∈ items.map check := hitems ▸ List.mem_map_of_mem ha
    obtain ⟨w, -, hw⟩ := List.mem_map.mp hmem
    exact ⟨w, hw⟩
  | _ => cases h

theorem exists_of_checkTagged {tags : List String} {check : String → Fields → Option (Checked α)}
    (h : checkTagged name tags check v = .ok a) :
    ∃ word fields, check word fields = some (.ok a) := by
  cases v with
  | obj fields =>
    rw [checkTagged] at h
    split at h
    · cases h
    · split at h
      next tag _ checked hchecked =>
        obtain ⟨word, -, hword⟩ := Option.bind_eq_some_iff.mp hchecked
        obtain ⟨x, hx, rfl⟩ := Option.map_eq_some_iff.mp hword
        exact ⟨word, fields, hx.trans (congrArg some (under_eq_ok_iff.mp h))⟩
      next => cases h
  | _ => cases h

end Accepted

/-- A query that has been accepted can be followed. -/
theorem Query.nestsWithin_toValue {room : Nat} {v : Value} {q : Query NonemptyString}
    (h : Query.checkWithin room v = .ok q) : q.toValue.NestsWithin room := by
  induction room generalizing v q with
  | zero => cases h
  | succ room ih =>
    cases v with
    | obj fields =>
      rw [Query.checkWithin] at h
      obtain ⟨f, subqueries, hf, hsubqueries, rfl⟩ := and_eq_ok_iff.mp h
      obtain ⟨g, relations, hg, -, rfl⟩ := and_eq_ok_iff.mp hf
      obtain ⟨text, -, rfl⟩ := map_eq_ok_iff.mp hg
      intro items hitems w hw
      rw [Query.toValue, Query.toValues_eq_map] at hitems
      obtain rfl := Value.arr.inj (Option.some.inj hitems)
      obtain ⟨sub, hsub, rfl⟩ := List.mem_map.mp hw
      rcases exists_of_optionalField hsubqueries with rfl | ⟨u, hu⟩
      · exact absurd hsub List.not_mem_nil
      · obtain ⟨item, hitem⟩ := exists_of_mem_checkList hu hsub
        exact ih hitem
    | _ => cases h

/-- Only views have queries. -/
theorem Statement.isWithinLimit_iff {stmt : Statement} :
    stmt.toValue.IsWithinLimit ↔
      ∀ name query, stmt = .createView name query → query.toValue.NestsWithin maxQueryDepth := by
  constructor
  · rintro h name query rfl
    exact h rfl _ rfl
  · intro h hkind q hq
    cases stmt with
    | createView name query =>
      obtain rfl := Option.some.inj hq
      exact h name query rfl
    | _ => exact absurd (Value.str.inj (Option.some.inj hkind)) (by simp [kind, StatementKind.word])

theorem Statement.exists_of_checkFields {fields : Fields} {kind : StatementKind}
    {name : NonemptyString} {query : Query NonemptyString}
    (h : Statement.checkFields form fields kind = .ok (.createView name query)) :
    ∃ v, Query.check v = .ok query := by
  -- one field, of which the statement consists, or two
  have hone : ∀ {α : Type} {f : α → Statement} {x : Checked α},
      x.map f = .ok (.createView name query) → ∃ a, f a = .createView name query := fun h => by
    obtain ⟨a, -, ha⟩ := map_eq_ok_iff.mp h
    exact ⟨a, ha⟩
  have htwo : ∀ {α β : Type} {f : α → β → Statement} {x : Checked α} {y : Checked β},
      (x.map f).and y = .ok (.createView name query) →
      ∃ a b, y = .ok b ∧ f a b = .createView name query := fun h => by
    obtain ⟨g, b, hg, hb, hstmt⟩ := and_eq_ok_iff.mp h
    obtain ⟨a, -, rfl⟩ := map_eq_ok_iff.mp hg
    exact ⟨a, b, hb, hstmt⟩
  cases kind with
  | createView =>
    obtain ⟨name', query', hquery, hstmt⟩ := htwo h
    cases hstmt
    exact exists_of_requiredField hquery
  | showTables => cases h
  | createTable =>
    obtain ⟨a, b, -, hstmt⟩ := htwo h
    cases hstmt
  | drop =>
    obtain ⟨a, b, -, hstmt⟩ := htwo h
    cases hstmt
  | alterTable =>
    obtain ⟨a, b, -, hstmt⟩ := htwo h
    cases hstmt
  | _ =>
    obtain ⟨a, hstmt⟩ := hone h
    cases hstmt

/-- The queries of a statement that has been accepted can be followed. -/
theorem Statement.isWithinLimit_toValue {v : Value} {stmt : Statement}
    (h : Statement.checkAs form v = .ok stmt) : stmt.toValue.IsWithinLimit := by
  refine Statement.isWithinLimit_iff.mpr fun name query hstmt => ?_
  subst hstmt
  obtain ⟨word, fields, hfields⟩ := exists_of_checkTagged h
  obtain ⟨kind, -, hkind⟩ := Option.map_eq_some_iff.mp hfields
  obtain ⟨w, hw⟩ := Statement.exists_of_checkFields hkind
  exact Query.nestsWithin_toValue hw

end SchemaCatalog
