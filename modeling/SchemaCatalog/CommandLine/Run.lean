import SchemaCatalog.CommandLine.Arguments
import SchemaCatalog.CommandLine.Migrate
import SchemaCatalog.Console.Batch
import SchemaCatalog.Text.Lines

/-!
# Running commands

The four commands: `init` creates the catalog tables, `migrate` brings them to the latest
revision, `apply` applies the statements of a file line by line, and `shell` those that are typed
in. `run` reads a command line and runs its command; what it finds on disk, in the environment
and on its standard input are arguments, and what it leaves there are results.
-/

namespace SchemaCatalog.CommandLine

/-- The usage text. -/
def helpText : String :=
  "Usage: toydb [--database-uri TEXT] [-v|--verbose] COMMAND\n\n" ++
    "Commands:\n" ++
    "  init [--reset]         Creates the catalog tables if they do not exist.\n" ++
    "  migrate [--config FILE]  Upgrades the catalog tables to the latest revision.\n" ++
    "  apply STATEMENTS       Applies statements (JSON lines) from a file or \"-\".\n" ++
    "  shell                  Reads statements (JSON lines) interactively.\n"

/-- The store file after a command, with the tables as they are seen through an access. -/
def updated (f : StoreFile) (a : Access) : StoreFile := { f with catalog := a.store? }

/-- `init`. -/
def runInit (settings : Settings) (uri : Option String) (d : Disk) (reset : Bool) : Result :=
  withStore (settings.connect uri none) d fun connection o =>
    match if reset then o.access.cleared else o.access.initialized with
    | .error outage => .broken (.outage outage) o.disk
    | .ok a =>
      let notes := if reset then [] else [.catalogReady connection.address.text]
      ⟨0, "Catalog initialized.\n", notes, none, o.saved (updated o.file a)⟩

/-- Runs lines on a store whose tables are created first if they do not exist. The lines are looked
for only then. -/
def runLines (settings : Settings) (uri : Option String) (d : Disk)
    (text? : Disk → Option String) (run : List String → Access → Transcript)
    (exitCode : Transcript → Nat) : Result :=
  withStore (settings.connect uri none) d fun connection o =>
    match o.access.initialized with
    | .error outage => .broken (.outage outage) o.disk
    | .ok a =>
      let ready : Note := .catalogReady connection.address.text
      let d := o.saved (updated o.file a)
      match text? d with
      | none => ⟨1, "", [ready], some .notText, d⟩
      | some text =>
        let t := run (Text.lines text) a
        ⟨exitCode t, t.output, ready :: t.notes, none, o.saved (updated o.file t.access)⟩

/-- `apply`. The file `-` is the standard input; any other file must exist. -/
def runApply (settings : Settings) (uri : Option String) (d : Disk) (input source : String) :
    Result :=
  let run := fun lines a => ({} : Session).applyLines a lines
  let exitCode := fun (t : Transcript) => if t.failures = 0 then 0 else 1
  if source = "-" then runLines settings uri d (fun _ => some input) run exitCode
  else if (d.file? source).isNone then .usage d
  else runLines settings uri d (fun d => (d.file? source).bind (·.text?)) run exitCode

/-- `shell`. -/
def runShell (settings : Settings) (uri : Option String) (d : Disk) (input : String) : Result :=
  runLines settings uri d (fun _ => some input) (fun lines a => ({} : Session).shellLines a lines)
    fun _ => 0

/-- The address that a command line names: the one among its options, or else the one of the
environment, if that is not empty. Where there is none, the settings count. -/
def Invocation.uri? (i : Invocation) (env : Environment) : Option String :=
  i.databaseUri.orElse fun _ => env.databaseUri.filter (· != "")

/-- Runs a command line. -/
def run (settings : Settings) (env : Environment) (d : Disk) (input : String)
    (args : List String) : Result :=
  match Invocation.parse args with
  | .usageError => .usage d
  | .help => ⟨0, helpText, [], none, d⟩
  | .badFileName => .broken .fileName d
  | .asks i =>
    let uri := i.uri? env
    let r :=
      match i.command with
      | .init reset => runInit settings uri d reset
      | .migrate config => runMigrate settings uri d config
      | .apply source => runApply settings uri d input source
      | .shell => runShell settings uri d input
    { r with notes := shownNotes i.verbose r.notes }

end SchemaCatalog.CommandLine
