import SchemaCatalog.Layout

/-!
# The history of the layout

The tables of a store are created and dropped in revisions, which follow one another. How far a
store has come is the number of revisions it has been through.
-/

namespace SchemaCatalog

/-- A step in the history of the layout. -/
structure Revision where
  id : String
  creates : List TableLayout

/-- The history of the layout, oldest revision first. -/
def history : List Revision := [⟨"1f0c3a9d2b7e", catalogTables⟩]

/-- The two ways through the history. -/
inductive Direction
  | upgrade
  | downgrade
  deriving DecidableEq, Repr

/-- Why a migration fails. -/
inductive MigrationError
  /-- No revision matches, or the target cannot be reached. -/
  | badTarget
  /-- The target is empty, or before the first revision where a revision is needed. -/
  | noRevision
  /-- A range starts at the base of a revision. -/
  | baselessStart
  /-- A range has more than a start and an end. -/
  | badRange
  /-- A number of steps has more digits than are read. -/
  | tooManyDigits
  /-- A table that is to be created exists. -/
  | tableExists
  /-- Nothing in the store can be changed. -/
  | unwritable
  deriving DecidableEq, Repr

namespace Migration

/-- How far a store has come that has the given revision recorded. -/
def progress (recorded : Option String) : Nat :=
  match recorded with
  | none => 0
  | some id => ((history.findIdx? (·.id = id)).map (· + 1)).getD 0

/-- The revisions after the first `low` up to the first `high`. -/
def between (low high : Nat) : List Revision := (history.take high).drop low

/-- The revision that a store records after so many of them. -/
def recordedAt (n : Nat) : Option String := (history.take n).getLast?.map (·.id)

end Migration

end SchemaCatalog
