import SchemaCatalog.Error
import SchemaCatalog.Store.File

/-!
# Access to a store

A store can be out of reach: its tables may not have been created, its file may not open, or its
connections may all be taken. It can also be that a store is there to be read, but not to be
changed. A session finds out when a request needs the store.
-/

namespace SchemaCatalog

/-- A store as a session meets it. -/
inductive Access
  | ready (store : Store)
  /-- The store can be read only. -/
  | readOnly (store : Store)
  | broken (outage : Outage)
  deriving DecidableEq, Repr, Inhabited

namespace Access

/-- The access to the store in a file. -/
def ofFile (f : StoreFile) (isReadOnly : Bool) : Access :=
  match f.catalog with
  | some s => if isReadOnly then readOnly s else ready s
  | none => broken (if isReadOnly then .readOnly else .noTables)

/-- The store, when it can be read. -/
def store? : Access → Option Store
  | ready s | readOnly s => some s
  | broken _ => none

/-- The access after a session has been at the store, which then is as given. -/
def after (s : Store) : Access → Access
  | readOnly _ => readOnly s
  | _ => ready s

/-- Creates the catalog tables, unless they exist. -/
def initialized : Access → Except Outage Access
  | broken .noTables => .ok (ready .empty)
  | broken outage => .error outage
  | a => .ok a

/-- Drops the catalog tables, if they exist, and creates them anew. -/
def cleared : Access → Except Outage Access
  | readOnly _ => .error .readOnly
  | a => a.initialized.map fun _ => ready .empty

end Access

end SchemaCatalog
