import SchemaCatalog.Statement.Basic

/-!
# Problems of a statement

What can be wrong with a value that should be a statement, and where. A problem is a path into
the value and a fault; `Fault.code` and `Fault.message` give its wording, which differs a little
between values that are handed over as such and values read from a document.
-/

namespace SchemaCatalog

/-- How a value arrives: as it is, or in a document. -/
inductive Form
  | value
  | document
  deriving DecidableEq, Repr

/-- One step of a path: into a field, to an item, or through the choice of a tag. -/
inductive PathStep
  | field (name : String)
  | index (i : Nat)
  | tag (label : String)
  deriving DecidableEq, Repr

/-- What is wrong with a value. -/
inductive Fault
  /-- A required field is absent. -/
  | missing
  | notString
  | emptyString
  | notList
  | emptyList
  | notObjectKind
  /-- Of a type that no truth value is read from. -/
  | notBool
  /-- A number or text that is no truth value. -/
  | unreadableBool
  /-- Not an object, where one is described by a single shape. -/
  | notObject (shape : String)
  /-- Not an object, where a tag chooses the shape. -/
  | notTagged
  | noTag (name : String)
  | unknownTag (name shown : String) (expected : List String)
  /-- Nested too deep. -/
  | tooDeep
  deriving DecidableEq, Repr

/-- The code of a fault. -/
def Fault.code (form : Form) : Fault → String
  | .missing => "missing"
  | .notString => "string_type"
  | .emptyString => "string_too_short"
  | .notList => "list_type"
  | .emptyList => "too_short"
  | .notObjectKind => "enum"
  | .notBool => "bool_type"
  | .unreadableBool => "bool_parsing"
  | .notObject _ => "model_type"
  | .notTagged =>
    match form with
    | .value => "model_attributes_type"
    | .document => "dict_type"
  | .noTag _ => "union_tag_not_found"
  | .unknownTag _ _ _ => "union_tag_invalid"
  | .tooDeep => "recursion_depth_exceeded"

/-- A text in single quotes. -/
def inQuotes (s : String) : String := "'" ++ s ++ "'"

/-- The message of a fault. -/
def Fault.message (form : Form) : Fault → String
  | .missing => "Field required"
  | .notString => "Input should be a valid string"
  | .emptyString => "String should have at least 1 character"
  | .notList =>
    match form with
    | .value => "Input should be a valid list"
    | .document => "Input should be a valid array"
  | .emptyList => "List should have at least 1 item after validation, not 0"
  | .notObjectKind =>
    "Input should be " ++ inQuotes ObjectKind.table.word ++ " or " ++ inQuotes ObjectKind.view.word
  | .notBool => "Input should be a valid boolean"
  | .unreadableBool => "Input should be a valid boolean, unable to interpret input"
  | .notObject shape =>
    match form with
    | .value => "Input should be a valid dictionary or instance of " ++ shape
    | .document => "Input should be an object"
  | .notTagged =>
    match form with
    | .value => "Input should be a valid dictionary or object to extract fields from"
    | .document => "Input should be an object"
  | .noTag name => "Unable to extract tag using discriminator " ++ inQuotes name
  | .unknownTag name shown expected =>
    "Input tag " ++ inQuotes shown ++ " found using " ++ inQuotes name ++
      " does not match any of the expected tags: " ++
      String.intercalate ", " (expected.map inQuotes)
  | .tooDeep => "Recursion error - maximum validation depth exceeded"

/-- A fault and the path to the value that has it. -/
structure Problem where
  path : List PathStep
  fault : Fault
  deriving DecidableEq, Repr

/-- The problem as seen from one step further out. -/
def Problem.under (step : PathStep) (p : Problem) : Problem := { p with path := step :: p.path }

/-- The outcome of checking a value: what it is, or every problem it has. -/
inductive Checked (α : Type)
  | ok (a : α)
  | faulty (problems : List Problem)
  deriving DecidableEq

namespace Checked

variable {α β : Type}

/-- A value with a fault of its own. -/
def fault (f : Fault) : Checked α := .faulty [⟨[], f⟩]

/-- The outcome as seen from one step further out. -/
def under (step : PathStep) : Checked α → Checked α
  | .ok a => .ok a
  | .faulty ps => .faulty (ps.map (Problem.under step))

/-- Changes what a value without problems is. -/
def map (f : α → β) : Checked α → Checked β
  | .ok a => .ok (f a)
  | .faulty ps => .faulty ps

/-- Combines two parts; the problems of the first come before those of the second. -/
def and (f : Checked (α → β)) (x : Checked α) : Checked β :=
  match f, x with
  | .ok f, .ok a => .ok (f a)
  | .ok _, .faulty ps => .faulty ps
  | .faulty ps, .ok _ => .faulty ps
  | .faulty ps, .faulty qs => .faulty (ps ++ qs)

/-- Combines the items of a list, the first of which has the index `i`. -/
def itemsFrom (i : Nat) : List (Checked α) → Checked (List α)
  | [] => .ok []
  | x :: rest => ((x.under (.index i)).map List.cons).and (itemsFrom (i + 1) rest)

/-- Combines the items of a list. -/
def items (xs : List (Checked α)) : Checked (List α) := itemsFrom 0 xs

end Checked

end SchemaCatalog
