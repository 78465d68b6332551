import SchemaCatalog.CommandLine.Disk
import SchemaCatalog.Configuration
import SchemaCatalog.Journal
import SchemaCatalog.Migration.History
import SchemaCatalog.Text.Lines

/-!
# What commands leave behind

A command leaves output, notes and files behind, or breaks off. The exit code is 2 for a usage
error, and 1 when a statement failed or the command broke off.
-/

namespace SchemaCatalog.CommandLine

/-- Why a command breaks off. -/
inductive Breakdown
  /-- The address names no store. -/
  | address (error : AddressError)
  /-- The store cannot be opened. -/
  | opening (fault : OpeningFault)
  /-- The store cannot be used. -/
  | outage (outage : Outage)
  | migration (error : MigrationError)
  | configuration (error : ConfigurationError)
  /-- A file is named in a way that no file can be. -/
  | fileName
  /-- A file holds no text. -/
  | notText
  deriving DecidableEq, Repr

/-- What a command leaves behind. -/
structure Result where
  exitCode : Nat
  output : String
  notes : List Note
  breakdown : Option Breakdown
  disk : Disk

namespace Result

/-- The end of a command line that makes no sense. -/
def usage (d : Disk) : Result := ⟨2, "", [], none, d⟩

/-- The end of a command that breaks off. -/
def broken (b : Breakdown) (d : Disk) : Result := ⟨1, "", [], some b, d⟩

/-- The output as one finds it who captures it. -/
def captured (r : Result) : String := String.ofList (Text.captured r.output.toList)

end Result

/-- Goes on with the store at the other end of a connection. -/
def withStore (connection : Except AddressError Connection) (d : Disk)
    (next : Connection → Disk.OpenStore → Result) : Result :=
  match connection with
  | .error e => .broken (.address e) d
  | .ok connection =>
    match d.openStore connection.location with
    | .error fault => .broken (.opening fault) d
    | .ok o => next connection o

end SchemaCatalog.CommandLine
