import SchemaCatalog.Proofs.Statement.Grammar

/-!
# Problems in documents

An integer with many digits is no number that a truth value is read from when it stands in a
document, even if it is one when it is handed over as such. So the problems of a value are not quite
those that it has in a document: what is a number there without being a truth value may be of a
wrong type here (`Problem.inDocument`).

That this is all, whatever the value is, is `Statement.checkAs_document`. It is shown shape by
shape, from what becomes of fields, items and tags: a path that leads on from a place in a value
leads on from there in the whole (`Json.Value.hasLongIntAt_field`).
-/

namespace SchemaCatalog

open Json

/-! ### Long integers -/

/-- A path leads to an integer that is not taken for a number in a document. -/
def Json.Value.hasLongIntAt (v : Value) (path : List PathStep) : Bool :=
  match v.at? (untagged path) with
  | some (.int n) => !Form.document.takesInt n
  | _ => false

namespace Json.Value

variable {v w : Value} {path : List PathStep}

theorem hasLongIntAt_field {fields : Fields} {name : String} (h : fields.get? name = some w) :
    (obj fields).hasLongIntAt (.field name :: path) = w.hasLongIntAt path := by
  have hat : (obj fields).at? (untagged (.field name :: path)) = w.at? (untagged path) :=
    at?_field h _
  rw [hasLongIntAt, hasLongIntAt, hat]

theorem hasLongIntAt_index {items : List Value} {i : Nat} (h : items[i]? = some w) :
    (arr items).hasLongIntAt (.index i :: path) = w.hasLongIntAt path := by
  have hat : (arr items).at? (untagged (.index i :: path)) = w.at? (untagged path) :=
    at?_index h _
  rw [hasLongIntAt, hasLongIntAt, hat]

/-- The choice of a tag leads nowhere. -/
theorem hasLongIntAt_tag (v : Value) (word : String) :
    v.hasLongIntAt (.tag word :: path) = v.hasLongIntAt path := rfl

end Json.Value

/-- A problem of a value as it is in a document, where a long integer is of a type that no truth
value is read from. -/
def Problem.inDocument (v : Value) (p : Problem) : Problem :=
  if p.fault = .unreadableBool ∧ v.hasLongIntAt p.path = true then { p with fault := .notBool }
  else p

namespace Checked

variable {α β : Type} {v w : Value} {x : Checked α}

/-- What comes of checking a value, as it is in a document. -/
def inDocument (v : Value) : Checked α → Checked α
  | .ok a => .ok a
  | .faulty ps => .faulty (ps.map (Problem.inDocument v))

@[simp] theorem inDocument_ok (a : α) : (ok a).inDocument v = .ok a := rfl

theorem inDocument_fault {f : Fault} (hf : f ≠ .unreadableBool) :
    (fault f : Checked α).inDocument v = fault f := by
  have hp : Problem.inDocument v ⟨[], f⟩ = ⟨[], f⟩ := if_neg fun h => hf h.1
  rw [fault, inDocument, List.map_singleton, hp]

/-- What is wrong with something that is no long integer is wrong with it in a document. -/
theorem inDocument_fault_of_short (hv : v.hasLongIntAt [] = false) {f : Fault} :
    (fault f : Checked α).inDocument v = fault f := by
  have hp : Problem.inDocument v ⟨[], f⟩ = ⟨[], f⟩ := if_neg fun h => by simp [hv] at h
  rw [fault, inDocument, List.map_singleton, hp]

theorem inDocument_map (f : α → β) : (x.map f).inDocument v = (x.inDocument v).map f := by
  cases x with
  | ok a => rfl
  | faulty ps => rfl

theorem inDocument_and {f : Checked (α → β)} :
    (f.and x).inDocument v = (f.inDocument v).and (x.inDocument v) := by
  cases f with
  | ok g =>
    cases x with
    | ok a => rfl
    | faulty ps => rfl
  | faulty ps =>
    cases x with
    | ok a => rfl
    | faulty qs => exact congrArg faulty List.map_append

/-- A step that leads from one value to another leads from the problems of the one to those of the
other. -/
theorem inDocument_under {step : PathStep}
    (h : ∀ path, v.hasLongIntAt (step :: path) = w.hasLongIntAt path) :
    (x.under step).inDocument v = (x.inDocument w).under step := by
  cases x with
  | ok a => rfl
  | faulty ps =>
    rw [under, inDocument, inDocument, under, List.map_map, List.map_map]
    refine congrArg faulty (List.map_congr_left fun p _ => ?_)
    rw [Function.comp_apply, Function.comp_apply, Problem.inDocument, Problem.inDocument,
      Problem.under, h]
    split_ifs <;> rfl

end Checked

open Checked

/-! ### Fields, items and tags -/

section Fields

variable {α : Type} {check check' : Value → Checked α}

theorem requiredField_inDocument (h : ∀ w, check' w = (check w).inDocument w) (fields : Fields)
    (name : String) :
    requiredField fields name check' =
      (requiredField fields name check).inDocument (.obj fields) := by
  rw [requiredField, requiredField]
  cases hget : fields.get? name with
  | none => rfl
  | some w =>
    rw [inDocument_under fun _ => Value.hasLongIntAt_field hget, ← h]

theorem optionalField_inDocument (h : ∀ w, check' w = (check w).inDocument w) (fields : Fields)
    (name : String) (default : α) :
    optionalField fields name default check' =
      (optionalField fields name default check).inDocument (.obj fields) := by
  rw [optionalField, optionalField]
  cases hget : fields.get? name with
  | none => rfl
  | some w =>
    dsimp only
    rw [inDocument_under fun _ => Value.hasLongIntAt_field hget, ← h]

/-- The last items of an array: by induction on how many there are. -/
theorem itemsFrom_inDocument (h : ∀ w, check' w = (check w).inDocument w) {items : List Value} :
    ∀ (i : Nat) (rest : List Value), items.drop i = rest →
      itemsFrom i (rest.map check') = (itemsFrom i (rest.map check)).inDocument (.arr items) := by
  intro i rest hrest
  induction rest generalizing i with
  | nil => rfl
  | cons w rest ih =>
    have hw : items[i]? = some w := by
      rw [← List.head?_drop, hrest, List.head?_cons]
    have htail : items.drop (i + 1) = rest := by
      rw [← List.tail_drop, hrest, List.tail_cons]
    rw [List.map_cons, List.map_cons, itemsFrom, itemsFrom, inDocument_and, inDocument_map,
      inDocument_under fun _ => Value.hasLongIntAt_index hw, ← h, ih _ htail]

theorem checkList_inDocument (h : ∀ w, check' w = (check w).inDocument w) (v : Value) :
    checkList check' v = (checkList check v).inDocument v := by
  cases v with
  | arr items => exact itemsFrom_inDocument h 0 items rfl
  | _ => exact (inDocument_fault (by simp)).symm

theorem checkNonemptyList_inDocument (h : ∀ w, check' w = (check w).inDocument w) (v : Value) :
    checkNonemptyList check' v = (checkNonemptyList check v).inDocument v := by
  rw [checkNonemptyList, checkNonemptyList, checkList_inDocument h]
  cases checkList check v with
  | faulty ps => rfl
  | ok xs =>
    simp only [inDocument_ok]
    split_ifs
    · exact (inDocument_fault (by simp)).symm
    · rfl

theorem checkTagged_inDocument {name : String} {tags : List String}
    {check check' : String → Fields → Option (Checked α)}
    (h : ∀ word fields,
      check' word fields = (check word fields).map fun x => x.inDocument (.obj fields))
    (v : Value) :
    checkTagged name tags check' v = (checkTagged name tags check v).inDocument v := by
  cases v with
  | obj fields =>
    rw [checkTagged, checkTagged]
    cases Fields.get? fields name with
    | none => exact (inDocument_fault (by simp)).symm
    | some tag =>
      dsimp only
      cases tag.text? with
      | none => exact (inDocument_fault (by simp)).symm
      | some word =>
        rw [Option.bind_some, Option.bind_some, h]
        cases check word fields with
        | none => exact (inDocument_fault (by simp)).symm
        | some x => exact (inDocument_under fun _ => Value.hasLongIntAt_tag _ word).symm
  | _ => exact (inDocument_fault (by simp)).symm

end Fields

/-! ### The shapes -/

theorem NonemptyString.check_inDocument (v : Value) :
    NonemptyString.check v = (NonemptyString.check v).inDocument v := by
  cases v with
  | str s =>
    rw [NonemptyString.check]
    split_ifs
    · exact (inDocument_fault (by simp)).symm
    · rfl
  | _ => exact (inDocument_fault (by simp)).symm

theorem ObjectKind.check_inDocument (v : Value) :
    ObjectKind.check v = (ObjectKind.check v).inDocument v := by
  rw [ObjectKind.check]
  cases v.text?.bind ObjectKind.ofWord? with
  | none => exact (inDocument_fault (by simp)).symm
  | some kind => rfl

/-- What a number that is not long stands for is the same in a document. -/
theorem truthOfInt_inDocument {v : Value} (hv : v.hasLongIntAt [] = false) (n : Int) :
    truthOfInt n = (truthOfInt n).inDocument v := by
  rw [truthOfInt]
  split_ifs
  · rfl
  · rfl
  · exact (inDocument_fault_of_short hv).symm

theorem truthOfText_inDocument (s : String) :
    truthOfText s = (truthOfText s).inDocument (.str s) := by
  rw [truthOfText]
  split_ifs
  · rfl
  · rfl
  · exact (inDocument_fault_of_short rfl).symm

/-- An integer that is taken for a number in a document fits into 64 bits. -/
theorem Form.takesInt_value_of_document {n : Int} (h : Form.document.takesInt n = true) :
    Form.value.takesInt n = true := by
  have hn : n.natAbs < 1000000000000000000 := of_decide_eq_true h
  have hpow : Int.pow 2 63 = 9223372036854775808 := rfl
  simp only [takesInt, fitsInt64, hpow, Bool.and_eq_true, decide_eq_true_eq]
  omega

/-- A long integer is no truth value. -/
theorem truthOfInt_of_long {n : Int} (h : Form.document.takesInt n = false) :
    truthOfInt n = .fault .unreadableBool := by
  have hone : n ≠ 1 := by
    rintro rfl
    exact absurd h (by decide)
  have hzero : n ≠ 0 := by
    rintro rfl
    exact absurd h (by decide)
  rw [truthOfInt, if_neg hone, if_neg hzero]

theorem truthValue_inDocument (v : Value) :
    truthValue .document v = (truthValue .value v).inDocument v := by
  cases v with
  | bool b => rfl
  | str s => exact truthOfText_inDocument s
  | int n =>
    rw [truthValue, truthValue]
    cases hdocument : Form.document.takesInt n with
    | true =>
      rw [if_pos rfl, if_pos (Form.takesInt_value_of_document hdocument)]
      exact truthOfInt_inDocument (by simp [Value.hasLongIntAt, untagged, Value.at?, hdocument]) n
    | false =>
      have hlong : (Value.int n).hasLongIntAt [] = true := by
        simp [Value.hasLongIntAt, untagged, Value.at?, hdocument]
      rw [if_neg Bool.false_ne_true]
      split_ifs
      · rw [truthOfInt_of_long hdocument]
        simp [fault, inDocument, Problem.inDocument, hlong]
      · exact (inDocument_fault (by simp)).symm
  | real x =>
    rw [truthValue, truthValue]
    cases x.toInt? with
    | none => exact (inDocument_fault (by simp)).symm
    | some n =>
      dsimp only
      split_ifs
      · exact truthOfInt_inDocument rfl n
      · exact (inDocument_fault (by simp)).symm
  | _ => exact (inDocument_fault (by simp)).symm

theorem ColumnDef.check_inDocument (v : Value) :
    ColumnDef.check .document v = (ColumnDef.check .value v).inDocument v := by
  cases v with
  | obj fields =>
    have hname := requiredField_inDocument NonemptyString.check_inDocument fields "name"
    have htype := requiredField_inDocument NonemptyString.check_inDocument fields "data_type"
    have hkey := optionalField_inDocument truthValue_inDocument fields "is_primary_key" false
    rw [ColumnDef.check, ColumnDef.check, inDocument_and, inDocument_and, inDocument_map, ← hname,
      ← htype, ← hkey]
  | _ => exact (inDocument_fault (by simp)).symm

/-- In queries there are no truth values. -/
theorem Query.checkWithin_inDocument (room : Nat) (v : Value) :
    Query.checkWithin room v = (Query.checkWithin room v).inDocument v := by
  induction room generalizing v with
  | zero => exact (inDocument_fault (by simp)).symm
  | succ room ih =>
    cases v with
    | obj fields =>
      have htext := requiredField_inDocument NonemptyString.check_inDocument fields "text"
      have hrelations := optionalField_inDocument
        (checkList_inDocument NonemptyString.check_inDocument) fields "relations" []
      have hsubqueries := optionalField_inDocument (checkList_inDocument ih) fields "subqueries" []
      rw [Query.checkWithin, inDocument_and, inDocument_and, inDocument_map, ← htext, ← hrelations,
        ← hsubqueries]
    | _ => exact (inDocument_fault (by simp)).symm

theorem Alteration.checkFields_inDocument (fields : Fields) (kind : AlterationKind) :
    Alteration.checkFields .document fields kind =
      (Alteration.checkFields .value fields kind).inDocument (.obj fields) := by
  have htext := requiredField_inDocument NonemptyString.check_inDocument fields
  cases kind with
  | addColumn =>
    have hcolumn := requiredField_inDocument ColumnDef.check_inDocument fields "column_def"
    rw [Alteration.checkFields, Alteration.checkFields, inDocument_map, ← hcolumn]
  | dropColumn => rw [Alteration.checkFields, Alteration.checkFields, inDocument_map, ← htext]
  | renameColumn =>
    rw [Alteration.checkFields, Alteration.checkFields, inDocument_and, inDocument_map, ← htext,
      ← htext]

theorem Alteration.check_inDocument (v : Value) :
    Alteration.check .document v = (Alteration.check .value v).inDocument v := by
  refine checkTagged_inDocument (fun word fields => ?_) v
  rw [Option.map_map]
  exact congrArg (Option.map · _) (funext fun kind => Alteration.checkFields_inDocument fields kind)

theorem Statement.checkFields_inDocument (fields : Fields) (kind : StatementKind) :
    Statement.checkFields .document fields kind =
      (Statement.checkFields .value fields kind).inDocument (.obj fields) := by
  have htext := requiredField_inDocument NonemptyString.check_inDocument fields
  cases kind with
  | createDatabase | use | dropDatabase | explainTable =>
    rw [Statement.checkFields, Statement.checkFields, inDocument_map, ← htext]
  | createTable =>
    have hcolumns := optionalField_inDocument (checkList_inDocument ColumnDef.check_inDocument)
      fields "columns" []
    rw [Statement.checkFields, Statement.checkFields, inDocument_and, inDocument_map, ← htext,
      ← hcolumns]
  | drop =>
    have hkind := requiredField_inDocument ObjectKind.check_inDocument fields "object_kind"
    have hnames := requiredField_inDocument
      (checkNonemptyList_inDocument NonemptyString.check_inDocument) fields "names"
    rw [Statement.checkFields, Statement.checkFields, inDocument_and, inDocument_map, ← hkind,
      ← hnames]
  | alterTable =>
    have hoperations := requiredField_inDocument
      (checkNonemptyList_inDocument Alteration.check_inDocument) fields "operations"
    rw [Statement.checkFields, Statement.checkFields, inDocument_and, inDocument_map, ← htext,
      ← hoperations]
  | showTables => rfl
  | createView =>
    have hquery := requiredField_inDocument (Query.checkWithin_inDocument maxQueryDepth) fields
      "query"
    rw [Statement.checkFields, Statement.checkFields, inDocument_and, inDocument_map, ← htext,
      Query.check, ← hquery]

end SchemaCatalog
