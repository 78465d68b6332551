import SchemaCatalog.Migration.Target
import SchemaCatalog.Store.File

/-!
# Migrations

A store records in a table of its own which revision of the layout it is at. `Migration.run` takes
it to another one, and `Migration.sql` gives the statements for that instead of running them.
-/

namespace SchemaCatalog

/-- The tables of a store file, in the order of their names. -/
def StoreFile.tables (f : StoreFile) : List TableLayout :=
  ((if f.version.isSome then [versionTable] else []) ++
    (if f.catalog.isSome then catalogTables else [])).mergeSort fun a b => decide (a.name ≤ b.name)

namespace Migration

/-! ### Running -/

/-- The version table is created before anything else, unless a revision is recorded. -/
def withVersionTable (f : StoreFile) : StoreFile := { f with version := some (f.version.getD none) }

/-- How far a store has come. -/
def current (f : StoreFile) : Nat := progress (f.version.getD none)

/-- Whether a target is a range of revisions, which is none for a migration that runs. -/
def isRange (target : String) : Bool := target.toList.contains ':'

/-- Upgrades a store. A store whose catalog tables exist without a recorded revision cannot be
upgraded. -/
def upgrade (target : String) (f : StoreFile) : Option MigrationError × StoreFile :=
  let f := withVersionTable f
  match upgradeTo (current f) target with
  | .error e => (some e, f)
  | .ok goal =>
    if goal ≤ current f then (none, f)
    else if f.catalog.isSome then (some .tableExists, f)
    else (none, ⟨some .empty, some (recordedAt goal)⟩)

/-- Downgrades a store. -/
def downgrade (target : String) (f : StoreFile) : Option MigrationError × StoreFile :=
  let f := withVersionTable f
  match downgradeTo (current f) target with
  | .error e => (some e, f)
  | .ok goal => (none, if current f ≤ goal then f else ⟨none, some (recordedAt goal)⟩)

/-- Takes a store to a target. -/
def run : Direction → String → StoreFile → Option MigrationError × StoreFile
  | .upgrade => upgrade
  | .downgrade => downgrade

/-- Why a store in which nothing can be changed cannot be taken to a target. It can if it is there
already; for that to be found out there must be a version table. -/
def obstacle (direction : Direction) (target : String) (f : StoreFile) : Option MigrationError :=
  if f.version.isNone then some .unwritable
  else
    match run direction target f with
    | (some e, _) => some e
    | (none, g) => if g = f then none else some .unwritable

/-! ### Statements -/

/-- The start, where one is given, and the end of a range. -/
def range (target : String) : Except MigrationError (Option String × String) :=
  match target.splitOn ":" with
  | [last] => .ok (none, last)
  | [first, last] => .ok (some first, last)
  | _ => .error .badRange

/-- How far a store has come at the start of a range. Apart from `base` itself, the start must be
a revision. -/
def startOf (first : String) : Except MigrationError Nat := do
  if first = "base" then .ok 0
  else
    let n ← named first
    if n = 0 then .error .baselessStart else .ok n

/-- A text in single quotes. -/
def literal (s : String) : String := "'" ++ s ++ "'"

/-- The statement that records a revision in place of the one before. -/
def recordSql : Option String → Option String → List String
  | none, some new =>
    ["INSERT INTO " ++ versionTable.name ++ " (version_num) VALUES (" ++ literal new ++
      ") RETURNING version_num;"]
  | some old, some new =>
    ["UPDATE " ++ versionTable.name ++ " SET version_num=" ++ literal new ++ " WHERE " ++
      versionTable.name ++ ".version_num = " ++ literal old ++ ";"]
  | some old, none =>
    ["DELETE FROM " ++ versionTable.name ++ " WHERE " ++ versionTable.name ++
      ".version_num = " ++ literal old ++ ";"]
  | none, none => []

/-- The statements of one revision of an upgrade, the `n`-th of the history. -/
def upgradeStepSql (n : Nat) (r : Revision) : List String :=
  let old := recordedAt n
  (if n = 0 then versionTable.createSql else []) ++
    ["-- Running upgrade " ++ old.getD "" ++ " -> " ++ r.id] ++
    r.creates.flatMap (·.createSql) ++ recordSql old (some r.id)

/-- The statements of one revision of a downgrade, the `n`-th of the history. -/
def downgradeStepSql (n : Nat) (r : Revision) : List String :=
  let new := recordedAt n
  ["-- Running downgrade " ++ r.id ++ " ->" ++ (new.map (" " ++ ·)).getD ""] ++
    r.creates.reverse.flatMap (·.dropSql) ++ recordSql (some r.id) new

/-- The statements of an upgrade; without a start it begins before the first revision. -/
def upgradeSql (target : String) : Except MigrationError (List String) := do
  let (first, last) ← range target
  let low ← startOf (first.getD "base")
  let high ← upgradeTo low last
  .ok (((between low high).zipIdx low).flatMap fun (r, n) => upgradeStepSql n r)

/-- The statements of a downgrade, whose target must have a start. -/
def downgradeSql (target : String) : Except MigrationError (List String) := do
  match ← range target with
  | (none, _) => .error .badTarget
  | (some first, last) =>
    let high ← startOf first
    let low ← downgradeTo high last
    .ok (((between low high).zipIdx low).reverse.flatMap fun (r, n) => downgradeStepSql n r)

/-- The statements that take a store to a target. -/
def sql : Direction → String → Except MigrationError (List String)
  | .upgrade => upgradeSql
  | .downgrade => downgradeSql

/-- The level from which on notes are written while a migration sets up its own journal, and the
number of places to which they go. -/
def journalSetup : String × Nat := ("WARNING", 1)

end Migration

end SchemaCatalog
