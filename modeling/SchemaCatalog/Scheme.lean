import SchemaCatalog.Address

/-!
# Schemes

The scheme of an address names a family of stores and perhaps, after a plus sign, the driver by
which they are used. `requireSqlite` lets through the schemes of SQLite stores, the only ones for
which there is a driver, and tells why another scheme cannot be used.
-/

namespace SchemaCatalog

/-- A family of stores. -/
structure StoreFamily where
  name : String
  /-- Drivers that are known, but not installed. -/
  absentDrivers : List String
  /-- Further names that the family gives to something which is no driver. -/
  otherNames : List String

namespace StoreFamily

/-- Names that every family gives to something. -/
def commonNames : List String :=
  ["__name__", "__doc__", "__package__", "__loader__", "__spec__", "__path__", "__file__",
   "__cached__", "__builtins__", "__all__", "__annotations__", "__class__", "__dict__", "__dir__",
   "__init__", "__new__", "__repr__", "__str__", "__hash__", "__eq__", "__ne__", "__lt__",
   "__le__", "__gt__", "__ge__", "__getattribute__", "__setattr__", "__delattr__", "__format__",
   "__reduce__", "__reduce_ex__", "__sizeof__", "__subclasshook__", "__init_subclass__",
   "__getstate__"]

/-- SQLite stores. Their drivers `base` and `pysqlite` are installed. -/
def sqlite : StoreFamily where
  name := "sqlite"
  absentDrivers := ["aiosqlite", "pysqlcipher"]
  otherNames := commonNames ++
    ["dialect", "dml", "json", "Insert", "insert", "BLOB", "BOOLEAN", "CHAR", "DATE", "DATETIME",
     "DECIMAL", "FLOAT", "INTEGER", "JSON", "NUMERIC", "REAL", "SMALLINT", "TEXT", "TIME",
     "TIMESTAMP", "VARCHAR"]

/-- The families of stores that are known. -/
def known : List StoreFamily :=
  [sqlite,
   ⟨"postgresql",
    ["base", "psycopg2", "psycopg", "psycopg_async", "psycopg2cffi", "asyncpg", "pg8000"],
    commonNames⟩,
   ⟨"mysql",
    ["base", "mysqldb", "pymysql", "aiomysql", "asyncmy", "mysqlconnector", "mariadbconnector",
     "cymysql", "pyodbc"],
    commonNames⟩,
   ⟨"mariadb",
    ["base", "mysqldb", "pymysql", "aiomysql", "asyncmy", "mysqlconnector", "mariadbconnector",
     "cymysql", "pyodbc"],
    []⟩,
   ⟨"oracle", ["base", "cx_oracle", "oracledb", "oracledb_async"], commonNames⟩,
   ⟨"mssql", ["base", "pyodbc", "aioodbc", "pymssql"], commonNames⟩]

end StoreFamily

/-- Fails for anything but a driver of SQLite stores. -/
def requireSqliteDriver (family driver : String) : Except AddressError Unit :=
  if family = StoreFamily.sqlite.name ∧ ["base", "pysqlite"].contains driver then .ok ()
  else
    match StoreFamily.known.find? (·.name = family) with
    | none => .error .unknownScheme
    | some f =>
      if f.absentDrivers.contains driver then .error .notInstalled
      else if f.otherNames.contains driver then .error .noDriver
      else .error .unknownScheme

/-- Fails for a scheme of which there are no SQLite stores. A scheme has at most two parts, and the
driver is called `base` where none is named. -/
def requireSqlite (scheme : String) : Except AddressError Unit :=
  match (Address.splitAt '+' scheme.toList).map String.ofList with
  | [family] => requireSqliteDriver family "base"
  | [family, driver] => requireSqliteDriver family driver
  | _ => .error .unreadable

end SchemaCatalog
