import SchemaCatalog.Json.Shown
import SchemaCatalog.Session.Request

/-!
# Objects with attributes as requests

`Request.ofAttributes` takes any object with attributes for a request. The attributes that its kind
needs must be there; what else is wrong with it is found out when it is looked for: until then,
unreadable labels and operations stand in its place.
-/

namespace SchemaCatalog

open Json

/-! ### Attributes -/

/-- What is wrong with a value as the type of an object: a type is a text, and holds no character
that ends names. -/
def typeFlaw? : Value → Option Flaw
  | .str s => if s.toList.contains '\x00' then some .wrongValue else none
  | _ => some .wrongType

mutual

/-- What is wrong with the type of an object, or with that of an object within a value. -/
def namingFlaw? : Value → Option Flaw
  | .arr items => namingFlawOfItems? items
  | .obj fields =>
    ((Fields.get? fields "type").bind typeFlaw?).orElse fun _ => namingFlawOfFields? fields
  | _ => none

/-- The first flaw of that sort among the items of an array. -/
def namingFlawOfItems? : List Value → Option Flaw
  | [] => none
  | v :: rest => (namingFlaw? v).orElse fun _ => namingFlawOfItems? rest

/-- The first flaw of that sort among the fields of an object. -/
def namingFlawOfFields? : List (String × Value) → Option Flaw
  | [] => none
  | (_, v) :: rest => (namingFlaw? v).orElse fun _ => namingFlawOfFields? rest

end

/-- The type of an object, where it gives one. -/
def attributeType (v : Value) : String := ((v.field? "type").bind (·.text?)).getD "Node"

/-- The type of a value, as messages give it. -/
def describedType : Value → String
  | .obj fields => attributeType (.obj fields)
  | v => v.typeName

/-- A plain value as a label. -/
def Label.ofPlain : Value → Label
  | .str s => .text s
  | .null => .nothing
  | .bool b => .flag b
  | .int n => .number n
  | .real x => .real x
  | v => .compound v.typeName false

/-- A value as a label; of an object with attributes the type counts. -/
def Label.ofValue : Value → Label
  | .obj fields => .compound (attributeType (.obj fields)) true
  | v => .ofPlain v

/-- An attribute as a label. -/
def attributeLabel (v : Value) (name : String) : Label :=
  ((v.field? name).map Label.ofValue).getD (.unreadable .absent)

/-- The items of a value that is gone through one by one. A text has its characters for items. -/
def itemsOf : Value → Except Flaw (List Value)
  | .arr items => .ok items
  | .str s => .ok (s.toList.map fun c => .str (String.singleton c))
  | _ => .error .wrongType

/-- The truth value that the mark of a key stands for: a flag, zero or one, or false when it is
nothing. -/
def keyMark? : Value → Option Bool
  | .null => some false
  | .bool b => some b
  | .int n => if n = 0 then some false else if n = 1 then some true else none
  | .real x =>
    if x.toInt? = some 0 then some false else if x.toInt? = some 1 then some true else none
  | _ => none

/-- The column that an object with attributes describes. -/
def ColumnSpec.ofAttributes (v : Value) : ColumnSpec where
  name := attributeLabel v "name"
  dataType :=
    match v.field? "is_primary_key" with
    | none => .unreadable .absent
    | some mark =>
      if (keyMark? mark).isSome then attributeLabel v "data_type" else .unreadable .wrongType
  isPrimaryKey := ((v.field? "is_primary_key").bind keyMark?).getD false

/-- What a value is as a text; of an object with attributes, its own text counts. -/
def Label.ofShown : Value → Label
  | .obj fields =>
    match Fields.get? fields "text" with
    | some (.str s) => .text s
    | some _ => .unreadable .wrongType
    | none => .unreadable .absent
  | v => .text v.shown

/-- Everything that a query reads from, which is an object with attributes: its own relations, then
those of each subquery. What is not to be had ends the list. -/
def relationLabels : Value → List Label
  | .obj fields =>
    let relations : List Label :=
      match (Fields.get? fields "relations").map itemsOf with
      | none => [.unreadable .absent]
      | some (.error flaw) => [.unreadable flaw]
      | some (.ok items) => items.map .ofValue
    relations ++
      match _h : Fields.get? fields "subqueries" with
      | some (.arr items) => items.attach.flatMap fun ⟨q, _⟩ => relationLabels q
      | some (.str s) => if s = "" then [] else [.unreadable .absent]
      | some _ => [.unreadable .wrongType]
      | none => [.unreadable .absent]
  | _ => [.unreadable .absent]
termination_by v => sizeOf v
decreasing_by
  have hitem := List.sizeOf_lt_of_mem (by assumption : q ∈ items)
  have hfield := Fields.sizeOf_lt_of_get? _h
  simp only [Value.arr.sizeOf_spec] at hfield
  simp only [Value.obj.sizeOf_spec]
  omega

/-- What a session sees of a value that stands where a query is expected. -/
def ViewQuery.ofValue (v : Value) : ViewQuery where
  definition := .ofShown v
  text := attributeLabel v "text"
  relations := relationLabels v

/-- Whether a value counts as nothing where a name is expected. -/
def isHollow : Value → Bool
  | .null | .bool false => true
  | .int n => n == 0
  | .real x => x.toInt? == some 0
  | .str s => s == ""
  | .arr items => items.isEmpty
  | _ => false

/-- The operation that a value asks for. One without a known tag goes by its tag or, if that is
absent or hollow, by its type. -/
def AlterRequest.ofValue (v : Value) : AlterRequest :=
  let tag := (v.field? "op").getD .null
  match tag.text?.bind AlterationKind.ofWord? with
  | some .addColumn => .addColumn (.ofAttributes ((v.field? "column_def").getD .null))
  | some .dropColumn => .dropColumn (attributeLabel v "name")
  | _ =>
    if isHollow tag then .other (describedType v)
    else
      match Label.ofShown tag with
      | .unreadable flaw => .unreadable flaw
      | label => .other label.shown

/-- Reads the items of a value; where there are none to be had, one that is unreadable stands in
their place. -/
def readItems {α : Type} (unreadable : Flaw → α) (read : Value → α) (v : Value) : List α :=
  match itemsOf v with
  | .ok items => items.map read
  | .error flaw => [unreadable flaw]

/-- A column that is not to be had. -/
def ColumnSpec.unreadable (flaw : Flaw) : ColumnSpec := ⟨.unreadable flaw, .unreadable flaw, false⟩

/-- The request of a given kind that an object with attributes makes. The attributes that the kind
needs must be there. -/
def Request.ofKind (v : Value) (kind : StatementKind) : Option Request := do
  let name : Option Label := (v.field? "name").map .ofValue
  match kind with
  | .createDatabase => return .createDatabase (← name)
  | .use => return .use (← name)
  | .dropDatabase => return .dropDatabase (← name)
  | .createTable =>
    return .createTable (← name) (readItems .unreadable .ofAttributes (← v.field? "columns"))
  | .drop =>
    let objects := ((← v.field? "object_kind").text?.bind ObjectKind.ofWord?).getD .table
    return .drop objects (readItems .unreadable .ofValue (← v.field? "names"))
  | .alterTable =>
    return .alterTable (← name) (readItems .unreadable .ofValue (← v.field? "operations"))
  | .showTables => return .showTables
  | .explainTable => return .explainTable (← name)
  | .createView => return .createView (← name) (.ofValue (← v.field? "query"))

/-- Whether a value names a kind of object. -/
def namesObjectKind (v : Value) : Bool := (v.text?.bind ObjectKind.ofWord?).isSome

/-- The request that an object with attributes makes. A kind of object that is given must be
one. -/
def Request.ofAttributes (v : Value) : Request :=
  match namingFlaw? v with
  | some flaw => .malformed flaw
  | none =>
    if (v.field? "object_kind").all namesObjectKind then
      match ((v.field? "kind").bind (·.text?)).bind StatementKind.ofWord? with
      | none => .other (describedType v)
      | some kind => (Request.ofKind v kind).getD (.malformed .absent)
    else .malformed .wrongValue

/-- A plain value makes no request that a session handles. -/
def Request.ofPlain (v : Value) : Request := .other v.typeName

end SchemaCatalog
