import Mathlib.Data.List.Nodup
import SchemaCatalog.Statement.Check

/-!
# The grammar of statements

What a statement looks like as a value, as data: a value has a *shape* (`Shape`), and the shape of
an object declares its fields (`FieldDecl`) with the shapes of their values. `Shape.Admits` tells
the values of a shape. `Shape.Faulty` tells what is wrong with any other value, and where: a path
leads to a value that breaks a rule of its shape (`Shape.Imposes`, `Fault.BrokenBy`), or to a field
that an object should have. Nothing here depends on how values are checked.

The paths of faults have an order, in which the fields of an object come as they are declared and
the items of an array as they stand there (`Shape.Precedes`).
-/

namespace SchemaCatalog

open Json

/-! ### Shapes -/

/-- A kind of objects without a tag. -/
inductive Record
  | columnDef
  | query
  deriving DecidableEq

/-- A kind of objects that have one of several forms, which a tag tells. -/
inductive Union
  | alteration
  | statement
  deriving DecidableEq

/-- What a value should be. -/
inductive Shape
  /-- A text with at least one character. -/
  | text
  | objectKind
  | truth
  | list (item : Shape)
  | nonemptyList (item : Shape)
  | record (r : Record)
  | union (u : Union)
  deriving DecidableEq

/-- A field that is declared for an object. -/
structure FieldDecl where
  name : String
  isRequired : Bool
  shape : Shape
  deriving DecidableEq

/-- A field that has to be there. -/
def FieldDecl.required (name : String) (shape : Shape) : FieldDecl := ⟨name, true, shape⟩

/-- A field that may be left out. -/
def FieldDecl.optional (name : String) (shape : Shape) : FieldDecl := ⟨name, false, shape⟩

open FieldDecl (required optional)

namespace Record

/-- The name of a kind of objects in messages. -/
def className : Record → String
  | columnDef => "ColumnDef"
  | query => "Query"

/-- The fields of a kind of objects, in the order of their declaration. -/
def fields : Record → List FieldDecl
  | columnDef => [required "name" .text, required "data_type" .text,
      optional "is_primary_key" .truth]
  | query => [required "text" .text, optional "relations" (.list .text),
      optional "subqueries" (.list (.record .query))]

end Record

/-- The fields of a kind of operations. -/
def AlterationKind.fields : AlterationKind → List FieldDecl
  | addColumn => [required "column_def" (.record .columnDef)]
  | dropColumn => [required "name" .text]
  | renameColumn => [required "old_name" .text, required "new_name" .text]

/-- The fields of a kind of statements. -/
def StatementKind.fields : StatementKind → List FieldDecl
  | createDatabase | use | dropDatabase | explainTable => [required "name" .text]
  | createTable => [required "name" .text, optional "columns" (.list (.record .columnDef))]
  | drop => [required "object_kind" .objectKind, required "names" (.nonemptyList .text)]
  | alterTable => [required "name" .text,
      required "operations" (.nonemptyList (.union .alteration))]
  | showTables => []
  | createView => [required "name" .text, required "query" (.record .query)]

namespace Union

/-- The field of the tag. -/
def tagName : Union → String
  | alteration => "op"
  | statement => "kind"

/-- The tags, in the order in which messages list them. -/
def tags : Union → List String
  | alteration => AlterationKind.all.map (·.word)
  | statement => StatementKind.all.map (·.word)

/-- The fields of the form that has a tag. -/
def fields? : Union → String → Option (List FieldDecl)
  | alteration, word => (AlterationKind.ofWord? word).map (·.fields)
  | statement, word => (StatementKind.ofWord? word).map (·.fields)

end Union

namespace Shape

/-- The shape of the items of an array. -/
def item? : Shape → Option Shape
  | list item | nonemptyList item => some item
  | _ => none

/-- The fields that are declared for an object of a shape, and the steps by which a path gets there:
a tag that has been chosen is a step. -/
def opened? (o : Fields) : Shape → Option (List PathStep × List FieldDecl)
  | record r => some ([], r.fields)
  | union u =>
    ((o.get? u.tagName).bind Value.text?).bind fun word =>
      (u.fields? word).map fun decls => ([.tag word], decls)
  | _ => none

end Shape

/-! ### Rules -/

/-- The texts that truth values are read from, in small letters. -/
def truthWords : List String :=
  ["true", "t", "yes", "y", "on", "1", "false", "f", "no", "n", "off", "0"]

/-- The integer that a number counts as where a truth value is expected. -/
def Json.Value.truthNumber? : Value → Option Int
  | .int n => if fitsInt64 n then some n else none
  | .real x => x.toInt?.filter fun n => -(Int.pow 2 63) < n ∧ n < Int.pow 2 63
  | _ => none

/-- A truth value: a constant, one of some words, or a number that counts as zero or one. -/
inductive Json.Value.IsTruth : Value → Prop
  | bool (b : Bool) : IsTruth (.bool b)
  | str {s : String} (h : lowerAscii s ∈ truthWords) : IsTruth (.str s)
  | number {v : Value} {n : Int} (hv : v.truthNumber? = some n) (hn : n = 0 ∨ n = 1) : IsTruth v

/-- A value breaks the rule that a fault tells of. A field that is missing is not a fault of a
value, and how deep values are nested is no rule of the grammar. -/
def Fault.BrokenBy : Fault → Value → Prop
  | .missing, _ | .tooDeep, _ => False
  | .notString, v => ∀ s, v ≠ .str s
  | .emptyString, v => v = .str ""
  | .notList, v => ∀ items, v ≠ .arr items
  | .emptyList, v => v = .arr []
  | .notObjectKind, v => ∀ kind : ObjectKind, v ≠ .str kind.word
  | .notBool, v => (∀ b, v ≠ .bool b) ∧ (∀ s, v ≠ .str s) ∧ v.truthNumber? = none
  | .unreadableBool, v => ¬ v.IsTruth ∧ ((∃ s, v = .str s) ∨ v.truthNumber?.isSome = true)
  | .notObject _, v | .notTagged, v => ∀ o, v ≠ .obj o
  | .noTag name, v => ∃ o : Fields, v = .obj o ∧ o.get? name = none
  | .unknownTag name shown expected, v =>
    ∃ tag, v.field? name = some tag ∧ tag.shown = shown ∧ ∀ word ∈ expected, tag ≠ .str word

namespace Shape

/-- The rules of a shape, by what is wrong with a value that breaks one. -/
inductive Imposes : Shape → Fault → Prop
  | notString : Imposes text .notString
  | emptyString : Imposes text .emptyString
  | notObjectKind : Imposes objectKind .notObjectKind
  | notBool : Imposes truth .notBool
  | unreadableBool : Imposes truth .unreadableBool
  | notList {item : Shape} : Imposes (list item) .notList
  | notListEither {item : Shape} : Imposes (nonemptyList item) .notList
  | emptyList {item : Shape} : Imposes (nonemptyList item) .emptyList
  | notObject {r : Record} : Imposes (record r) (.notObject r.className)
  | notTagged {u : Union} : Imposes (union u) .notTagged
  | noTag {u : Union} : Imposes (union u) (.noTag u.tagName)
  | unknownTag {u : Union} (shown : String) :
      Imposes (union u) (.unknownTag u.tagName shown u.tags)

/-! ### Values of a shape -/

/-- A value is of a shape, with everything inside of it. -/
inductive Admits : Shape → Value → Prop
  | text {s : String} (h : s ≠ "") : Admits text (.str s)
  | objectKind (kind : ObjectKind) : Admits objectKind (.str kind.word)
  | truth {v : Value} (h : v.IsTruth) : Admits truth v
  | list {item : Shape} {items : List Value} (hitems : ∀ w ∈ items, Admits item w) :
      Admits (list item) (.arr items)
  | nonemptyList {item : Shape} {items : List Value} (hne : items ≠ [])
      (hitems : ∀ w ∈ items, Admits item w) : Admits (nonemptyList item) (.arr items)
  /-- An object has the fields that are declared for it; it may have others. -/
  | object {shape : Shape} {o : Fields} {steps : List PathStep} {decls : List FieldDecl}
      (hopen : shape.opened? o = some (steps, decls))
      (hrequired : ∀ d ∈ decls, d.isRequired = true → o.get? d.name ≠ none)
      (hfields : ∀ d ∈ decls, ∀ w, o.get? d.name = some w → Admits d.shape w) :
      Admits shape (.obj o)

/-! ### Faults -/

/-- What is wrong with a value that should be of a shape, and the path to where that is. -/
inductive Faulty : Shape → Value → List PathStep → Fault → Prop
  /-- The value breaks a rule of its shape. -/
  | own {shape : Shape} {v : Value} {fault : Fault} (himposed : shape.Imposes fault)
      (hbroken : fault.BrokenBy v) : Faulty shape v [] fault
  /-- A field is absent from an object. -/
  | absent {shape : Shape} {o : Fields} {steps : List PathStep} {decls : List FieldDecl}
      {d : FieldDecl} (hopen : shape.opened? o = some (steps, decls)) (hd : d ∈ decls)
      (hrequired : d.isRequired = true) (habsent : o.get? d.name = none) :
      Faulty shape (.obj o) (steps ++ [.field d.name]) .missing
  /-- Something is wrong inside a field. -/
  | field {shape : Shape} {o : Fields} {steps : List PathStep} {decls : List FieldDecl}
      {d : FieldDecl} {w : Value} {path : List PathStep} {fault : Fault}
      (hopen : shape.opened? o = some (steps, decls)) (hd : d ∈ decls)
      (hw : o.get? d.name = some w) (hfaulty : Faulty d.shape w path fault) :
      Faulty shape (.obj o) (steps ++ .field d.name :: path) fault
  /-- Something is wrong inside an item. -/
  | item {shape item : Shape} {items : List Value} {i : Nat} {w : Value} {path : List PathStep}
      {fault : Fault} (hitem : shape.item? = some item) (hw : items[i]? = some w)
      (hfaulty : Faulty item w path fault) : Faulty shape (.arr items) (.index i :: path) fault

/-- One path comes before another: what they lead to stands before in the order in which fields are
declared and items stand in their array. -/
inductive Precedes : Shape → List PathStep → List PathStep → Prop
  | fields {shape : Shape} {o : Fields} {steps : List PathStep} {decls : List FieldDecl}
      {a b : FieldDecl} {p q : List PathStep} (hopen : shape.opened? o = some (steps, decls))
      (hab : [a, b].Sublist decls) :
      Precedes shape (steps ++ .field a.name :: p) (steps ++ .field b.name :: q)
  | field {shape : Shape} {o : Fields} {steps : List PathStep} {decls : List FieldDecl}
      {a : FieldDecl} {p q : List PathStep} (hopen : shape.opened? o = some (steps, decls))
      (ha : a ∈ decls) (hpq : Precedes a.shape p q) :
      Precedes shape (steps ++ .field a.name :: p) (steps ++ .field a.name :: q)
  | items {shape item : Shape} {i j : Nat} {p q : List PathStep} (hitem : shape.item? = some item)
      (hij : i < j) : Precedes shape (.index i :: p) (.index j :: q)
  | item {shape item : Shape} {i : Nat} {p q : List PathStep} (hitem : shape.item? = some item)
      (hpq : Precedes item p q) : Precedes shape (.index i :: p) (.index i :: q)

end Shape

/-! ### Places -/

/-- The value that a path leads to. -/
def Json.Value.at? (v : Value) : List PathStep → Option Value
  | [] => some v
  | .field name :: rest => (v.field? name).bind (·.at? rest)
  | .index i :: rest => (v.items?.bind (·[i]?)).bind (·.at? rest)
  | .tag _ :: _ => none

theorem Json.Value.at?_field {o : Fields} {name : String} {w : Value} (hw : o.get? name = some w)
    (rest : List PathStep) : (Value.obj o).at? (.field name :: rest) = w.at? rest := by
  rw [at?, field?, hw, Option.bind_some]

theorem Json.Value.at?_index {items : List Value} {i : Nat} {w : Value} (hw : items[i]? = some w)
    (rest : List PathStep) : (Value.arr items).at? (.index i :: rest) = w.at? rest := by
  rw [at?, items?, Option.bind_some, hw, Option.bind_some]

/-- Whether a step of a path goes through the choice of a tag. -/
def PathStep.isTag : PathStep → Bool
  | .tag _ => true
  | _ => false

/-- A path without the tags that have been chosen on the way. -/
def untagged (path : List PathStep) : List PathStep := path.filter (!·.isTag)

/-- A problem is where it says: at a value that breaks the rule, or at a field that an object does
not have. -/
def Problem.LocatedIn (p : Problem) (v : Value) : Prop :=
  (∃ w, v.at? (untagged p.path) = some w ∧ p.fault.BrokenBy w) ∨
    p.fault = .missing ∧ ∃ before name, ∃ o : Fields, untagged p.path = before ++ [.field name] ∧
      v.at? before = some (.obj o) ∧ o.get? name = none

end SchemaCatalog
