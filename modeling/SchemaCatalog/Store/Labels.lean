import SchemaCatalog.Journal
import SchemaCatalog.Store.Basic

/-!
# Labels that a store can keep

Before a label is used it is looked at, and one that cannot be used in the way that is intended
fails what it is part of. A text can be used in every way (`requireStorable_text`).

The label of nothing is let through: it is the name of nothing, and no row can be added under it.
-/

namespace SchemaCatalog

/-- Fails for a label that is not to be had. -/
def requireReadable : Label → Except Failure Unit
  | .unreadable flaw => .error (.of (.malformed flaw))
  | _ => .ok ()

/-- Fails for a label that cannot be told from others. -/
def requireComparable : Label → Except Failure Unit
  | .compound _ false => .error (.of (.malformed .wrongType))
  | label => requireReadable label

/-- Fails for a label that a store cannot keep; `place` is where it stands among the values that
are handed to the store together. -/
def requireStorable (place : Nat) : Label → Except Failure Unit
  | .compound typeName _ => .error (.of (.unstorable place typeName))
  | .number n => if fitsInt64 n then .ok () else .error (.of (.malformed .tooLarge))
  | label => requireReadable label

/-- Fails for a column whose name or data type a store cannot keep. -/
def requireStorableColumn (spec : ColumnSpec) : Except Failure Unit := do
  requireStorable 2 spec.name
  requireStorable 3 spec.dataType

@[simp] theorem requireReadable_text (s : String) : requireReadable (.text s) = .ok () := rfl

@[simp] theorem requireComparable_text (s : String) : requireComparable (.text s) = .ok () := rfl

@[simp] theorem requireStorable_text (place : Nat) (s : String) :
    requireStorable place (.text s) = .ok () := rfl

end SchemaCatalog
