import SchemaCatalog.Label
import SchemaCatalog.Location

/-!
# Settings

Where the store is and whether its statements are echoed, as far as the environment says so. A
variable that is set but empty counts with its empty value, and any text that is not empty turns a
flag on.
-/

namespace SchemaCatalog

/-- The variables of the environment that matter; one that is not set is `none`. -/
structure Environment where
  sqlEcho : Option String
  databaseUri : Option String
  runTests : Option String
  testDatabaseUri : Option String
  deriving DecidableEq, Repr

/-- An environment in which nothing is set. -/
def Environment.bare : Environment := ⟨none, none, none, none⟩

/-- Whether a flag is on. -/
def isOn (flag : Option String) : Bool := flag.any (· != "")

/-- Where the store is unless something else is said. -/
def defaultUri : String := "sqlite:///./toydb.sqlite"

/-- The settings of a catalog. -/
structure Settings where
  databaseUri : String
  sqlEcho : Bool
  deriving DecidableEq, Repr

/-- The settings that an environment makes. While tests run, a test store takes the place of the
store. -/
def Settings.ofEnvironment (env : Environment) : Settings where
  databaseUri :=
    let uri := env.databaseUri.getD defaultUri
    if isOn env.runTests then env.testDatabaseUri.getD uri else uri
  sqlEcho := isOn env.sqlEcho

/-! ### Connections -/

/-- How a store is connected to. -/
structure Connection where
  address : Address
  location : Location
  /-- Whether statements are echoed, as it was given. -/
  echo : Label
  deriving DecidableEq, Repr

/-- Fails for a label that does not tell whether statements are echoed: nothing or a flag does, and
so does the word for echoing their results as well. -/
def requireEcho : Label → Except AddressError Unit
  | .compound _ _ => .error .unfit
  | label =>
    if [.nothing, .number 0, .number 1, .text "debug"].contains label.key then .ok ()
    else .error .unknownEcho

/-- Prepares a connection to the store at an address. There are no extensions, so that an address
must not ask for one. -/
def Connection.ofText (text : String) (echo : Label) : Except AddressError Connection := do
  let address ← Address.read text
  if address.values "plugin" ≠ [] then .error .unknownScheme
  else
    let address := address.without ["plugins"]
    let location ← Location.ofAddress address
    requireEcho echo
    .ok ⟨address, location, echo⟩

/-- Prepares a connection. Without an address, or with an empty one, the settings count. -/
def Settings.connect (settings : Settings) (uri : Option String) (echo : Option Label) :
    Except AddressError Connection :=
  Connection.ofText ((uri.filter (· != "")).getD settings.databaseUri)
    (echo.getD (.flag settings.sqlEcho))

/-- The address that a label gives: a text is one, and what is hollow is none. -/
def Label.address? : Label → Except AddressError (Option String)
  | .text s => .ok (some s)
  | label => if label.isHollow then .ok none else .error .malformed

end SchemaCatalog
