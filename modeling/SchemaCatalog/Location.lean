import SchemaCatalog.FileAddress
import SchemaCatalog.Json.Shown
import SchemaCatalog.Scheme
import SchemaCatalog.Text.Blank
import SchemaCatalog.Text.Path

/-!
# Locations

Where a store is kept: in memory, or in a file. Only SQLite stores are known. The database of
their address is a path; without one, or with the path `:memory:`, the store is in memory. With the
option `uri` the database is itself the address of a file, if it begins like one.

`Location.ofAddress` also looks at the options: those that are understood must be readable.
-/

namespace SchemaCatalog

/-- Why a store cannot be opened. -/
inductive OpeningFault
  /-- The store cannot be opened at its place. -/
  | unopenable
  /-- The name of a file holds the character that ends names, or a setting has a wrong value. -/
  | wrongValue
  /-- A setting is a number that is too large. -/
  | tooLarge
  /-- There is no name. -/
  | noName
  /-- There is a file, but it is no store. -/
  | notAStore
  deriving DecidableEq, Repr

/-- How a file is opened. -/
structure OpenMode where
  /-- Whether the file comes into being if there is none. -/
  creates : Bool := true
  /-- Whether nothing in it can be changed. -/
  readOnly : Bool := false
  /-- Something that must exist, since a new file takes its permissions. -/
  model : Option String := none
  deriving DecidableEq, Repr

/-- Where a store is kept. -/
inductive Location
  /-- In memory, where it may be that nothing can be changed. -/
  | memory (readOnly : Bool)
  | file (path : String) (mode : OpenMode)
  | nowhere (fault : OpeningFault)
  deriving DecidableEq, Repr

namespace Location

/-! ### Options -/

/-- A flag that is written as a word, without regard to case and blanks around it. -/
def flag? (s : String) : Option Bool :=
  let word := String.ofList ((Text.trim s.toList).map Char.toLower)
  if ["true", "yes", "on", "y", "t", "1"].contains word then some true
  else if ["false", "no", "off", "n", "f", "0"].contains word then some false
  else none

/-- The flag that an option gives; one that is given more than once is on. -/
def flagOption (a : Address) (name : String) : Except AddressError Bool :=
  match a.values name with
  | [] => .ok false
  | [s] =>
    match flag? s with
    | some b => .ok b
    | none => .error .unreadable
  | _ => .ok true

/-- The number that an option gives, if it is given. -/
def numberOption {α : Type} (number? : List Char → Option α) (a : Address) (name : String) :
    Except AddressError (Option α) :=
  match a.values name with
  | [] => .ok none
  | [s] =>
    match number? s.toList with
    | some n => .ok (some n)
    | none => .error .unreadable
  | _ => .error .unfit

/-- The options that are about the connection. -/
def connectionOptions : List String :=
  ["uri", "timeout", "isolation_level", "detect_types", "check_same_thread", "cached_statements"]

/-- What the options say about the connection. -/
structure ConnectionOptions where
  /-- Whether the database is the address of a file. -/
  isUri : Bool
  /-- What makes it impossible to connect. -/
  fault : Option OpeningFault

/-- Whether an integer fits into 32 bits, the sign included. -/
def fitsInt32 (n : Int) : Bool := -(Int.pow 2 31) ≤ n && n < Int.pow 2 31

/-- Reads the options that are about the connection. A level of isolation does not count unless it
is given more than once, which makes no sense. -/
def readOptions (a : Address) : Except AddressError ConnectionOptions := do
  let isUri ← flagOption a "uri"
  discard (numberOption (fun cs => if Text.isReal cs then some () else none) a "timeout")
  let types ← numberOption Text.integer? a "detect_types"
  discard (flagOption a "check_same_thread")
  let cached ← numberOption Text.integer? a "cached_statements"
  let fault : Option OpeningFault :=
    if !types.all fitsInt32 then some .tooLarge
    else if 2 ≤ (a.values "isolation_level").length then some .wrongValue
    else if !cached.all fitsInt32 then some .tooLarge
    else none
  .ok ⟨isUri, fault⟩

/-! ### Places -/

/-- The place of a file at a path. -/
def ofPath (path : String) : Location :=
  if path.toList.contains '\x00' then .nowhere .wrongValue
  else if path = "" ∨ path = ":memory:" then .memory false
  else .file path {}

/-- How long the name of a store in memory may be that has a name, in bytes. -/
def maxMemoryName : Nat := 1016

/-- The place that the address of a file names. -/
def ofFileAddress (a : FileAddress) : Location :=
  match a.access? with
  | none => .nowhere .unopenable
  | some access =>
    let readOnly : Bool := access == .read
    if access = .memory ∨ a.path = "" ∨ a.path = ":memory:" then .memory readOnly
    else if a.system = "memdb" then
      if maxMemoryName < a.path.utf8ByteSize then .nowhere .unopenable
      else .memory (readOnly || a.isImmutable)
    else .file a.path ⟨access == .create, readOnly || a.isImmutable, a.value? "modeof"⟩

/-- The place that a database names which may be the address of a file. Options that are not about
the connection belong to that address. -/
def ofUriDatabase (a : Address) : Except AddressError Location :=
  let options := (a.without connectionOptions).options.mergeSort fun x y => decide (x.1 ≤ y.1)
  match a.database with
  | none => if options = [] then .ok (.nowhere .noName) else .error .unfit
  | some database =>
    let value : List String → String
      | [v] => v
      | vs => "(" ++ String.intercalate ", " (vs.map Json.showQuoted) ++ ")"
    let texts := options.map fun (name, values) => name ++ "=" ++ value values
    let name := database ++ (if texts = [] then "" else "?" ++ String.intercalate "&" texts)
    match Address.afterStart? "file:".toList name.toList with
    | some rest =>
      if name.toList.contains '\x00' then .ok (.nowhere .wrongValue)
      else .ok (((FileAddress.read? rest).map ofFileAddress).getD (.nowhere .unopenable))
    | none => .ok (ofPath name)

/-- The place that a database names which is a path. Dots in the path count before anything else. -/
def ofPlainDatabase (a : Address) : Location :=
  match ofPath (a.database.getD "") with
  | .file path mode => .file (Text.normalPath path) mode
  | place => place

/-- The place that an address names. -/
def ofAddress (a : Address) : Except AddressError Location := do
  requireSqlite a.scheme
  if a.user.any (· != "") ∨ a.password.any (· != "") ∨ a.host.any (· != "") ∨
      a.portNumber.any (· ≠ 0) then .error .malformed
  else
    let options ← readOptions a
    let location ← if options.isUri then ofUriDatabase a else .ok (ofPlainDatabase a)
    .ok ((options.fault.map nowhere).getD location)

end Location

end SchemaCatalog
