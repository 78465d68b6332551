import SchemaCatalog.Store.Basic

/-!
# Store files

A store file holds the tables of a catalog, once they have been created, and a table for the
revision of their layout, once there has been a migration.
-/

namespace SchemaCatalog

/-- The contents of a store file: the catalog tables, if they exist, and the recorded revision, if
there is a table for it and something is recorded. -/
structure StoreFile where
  catalog : Option Store
  version : Option (Option String)
  deriving DecidableEq, Repr, Inhabited

/-- A store file in which no table has been created. -/
def StoreFile.fresh : StoreFile := ⟨none, none⟩

end SchemaCatalog
