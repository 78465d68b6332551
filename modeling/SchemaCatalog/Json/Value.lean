import SchemaCatalog.Json.Binary64

/-!
# Structured values

The values that statements are written in: the JSON values, with integers of any size kept apart
from binary64 numbers. An object keeps its fields as they were written; where a name occurs more
than once, the last field of that name counts.
-/

namespace SchemaCatalog.Json

/-- A JSON value. -/
inductive Value
  | null
  | bool (b : Bool)
  | int (n : Int)
  | real (x : Binary64)
  | str (s : String)
  | arr (items : List Value)
  | obj (fields : List (String × Value))
  deriving Inhabited

/-- The fields of an object, in the order in which they were written. -/
abbrev Fields := List (String × Value)

/-- The last field called `name`. -/
def Fields.get? (fields : Fields) (name : String) : Option Value :=
  match fields with
  | [] => none
  | (key, v) :: rest =>
    match Fields.get? rest name with
    | some w => some w
    | none => if key = name then some v else none

/-- The fields with each name once: at the place where it first stands, with the value that it
has last. -/
def Fields.distinct (fields : Fields) : Fields :=
  fields.foldl (fun done (key, v) =>
    if done.any (·.1 = key) then done.map fun (k, w) => if k = key then (k, v) else (k, w)
    else done ++ [(key, v)]) []

/-- A field that is found is smaller than the object it is found in. -/
theorem Fields.sizeOf_lt_of_get? {fields : Fields} {name : String} {v : Value}
    (h : fields.get? name = some v) : sizeOf v < sizeOf fields := by
  induction fields with
  | nil => simp [Fields.get?] at h
  | cons field rest ih =>
    obtain ⟨key, w⟩ := field
    simp only [Fields.get?] at h
    split at h
    next u hu =>
      have := ih (hu.trans h)
      simp only [List.cons.sizeOf_spec]
      omega
    next =>
      split at h
      next =>
        obtain rfl : w = v := by simpa using h
        simp only [List.cons.sizeOf_spec, Prod.mk.sizeOf_spec]
        omega
      next => simp at h

namespace Value

/-- The field called `name`, when the value is an object that has one. -/
def field? (v : Value) (name : String) : Option Value :=
  match v with
  | .obj fields => Fields.get? fields name
  | _ => none

/-- The text of a string value. -/
def text? : Value → Option String
  | .str s => some s
  | _ => none

/-- The items of an array value. -/
def items? : Value → Option (List Value)
  | .arr items => some items
  | _ => none

end Value

end SchemaCatalog.Json
