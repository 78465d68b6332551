import SchemaCatalog.CommandLine.Run
import SchemaCatalog.Store.Snapshot

/-!
# The program

The command line as a program. It reads the environment, the store file and the statements,
leaves everything else to `CommandLine.run`, and writes the store file back. Only the shell goes
line by line, so that each answer is there before the next line is typed.

Store files hold snapshots. Notes go to the standard error stream.
-/

namespace SchemaCatalog.Program

open CommandLine

/-- The environment of the program. -/
def environment : IO Environment := do
  return {
    sqlEcho := ← IO.getEnv "TOYDB_SQL_ECHO"
    databaseUri := ← IO.getEnv "TOYDB_DATABASE_URI"
    runTests := ← IO.getEnv "TOYDB_RUN_TESTS"
    testDatabaseUri := ← IO.getEnv "TOYDB_TEST_DATABASE_URI" }

/-- What a file holds, if it can be read. -/
def readContent? (path : String) : IO (Option FileContent) := do
  try
    let text ← IO.FS.readFile path
    return some (((StoreFile.read? text).map .store).getD (.text text))
  catch _ =>
    return none

/-- The disk with the file at a path, if it can be read, and the directories on the way to it. -/
def withFile (d : Disk) (path : String) : IO Disk := do
  match ← readContent? path with
  | none => return d
  | some content =>
    let parts := Text.pathParts path
    let way (n : Nat) : String :=
      let start := if Text.isRooted path then "/" else ""
      Text.rootedPath (Text.partsFrom d.workingDirectory
        (start ++ String.intercalate "/" (parts.take n)))
    return { (d.put (way parts.length) content) with
      directories := (List.range parts.length).map way ++ d.directories }

/-- The disk as a command finds it that uses the given text file and store. The file of the store
is created if it does not exist and need not. -/
def readDisk (source : Option String) (location : Option Location) : IO Disk := do
  let directory := (← IO.currentDir).toString
  let d : Disk := ⟨directory, directory, [directory], []⟩
  let d ←
    match source with
    | none => pure d
    | some path => withFile d path
  match location with
  | some (.file path mode) =>
    let d ←
      match mode.model with
      | none => pure d
      | some path => withFile d path
    if mode.creates then
      try
        discard <| IO.FS.Handle.mk path .append
      catch _ => pure ()
    withFile d path
  | _ => return d

/-- Writes the files of stores back. -/
def writeDisk (d : Disk) : IO Unit :=
  d.files.forM fun (path, content) =>
    match content with
    | .text _ | .void => pure ()
    | .store f => unless f = .fresh do IO.FS.writeFile path f.write

/-- Writes notes to the standard error stream. -/
def writeNotes (notes : List Note) : IO Unit :=
  notes.forM fun note => IO.eprintln (note.level.word ++ " " ++ note.text)

/-- Why a command broke off. -/
def breakdownText : Breakdown → String
  | .address .unknownScheme => "the scheme of the address is unknown"
  | .address .notInstalled => "nothing is installed for the scheme of the address"
  | .address _ => "not the address of a store"
  | .opening _ => "the store cannot be opened"
  | .outage outage => outage.message
  | .migration .tableExists => "a table exists already"
  | .migration _ => "no such revision"
  | .configuration .noRevisions | .configuration .notRevisions =>
    "there are no revisions beside the configuration"
  | .configuration _ => "the configuration makes no sense"
  | .fileName => "not the name of a file"
  | .notText => "the file holds no text"

/-- Writes what a command leaves behind. -/
def finish (r : Result) : IO UInt32 := do
  IO.print r.output
  writeNotes r.notes
  match r.breakdown with
  | some b => IO.eprintln (breakdownText b)
  | none => if r.exitCode = 2 then IO.eprint helpText
  writeDisk r.disk
  return r.exitCode.toUInt32

/-- Handles lines until the input ends, and gives the store as it then stands. -/
partial def shellLoop (verbose : Bool) (x : Session) (a : Access) : IO Access := do
  IO.print x.shownPrompt
  (← IO.getStdout).flush
  let line ← (← IO.getStdin).getLine
  if line.isEmpty then return a
  else if Text.isBlankText line then shellLoop verbose x a
  else
    let r := x.runLine line a
    IO.print r.output
    writeNotes (shownNotes verbose r.notes)
    shellLoop verbose r.session r.access

/-- Runs the shell. -/
def shell (settings : Settings) (uri : Option String) (verbose : Bool) (d : Disk) :
    IO UInt32 := do
  match settings.connect uri none with
  | .error e => finish (.broken (.address e) d)
  | .ok connection =>
    match d.openStore connection.location with
    | .error fault => finish (.broken (.opening fault) d)
    | .ok o =>
      match o.access.initialized with
      | .error outage => finish (.broken (.outage outage) o.disk)
      | .ok a =>
        writeNotes (shownNotes verbose [.catalogReady connection.address.text])
        let a ← shellLoop verbose {} a
        writeDisk (o.saved (updated o.file a))
        return 0

/-- Runs a command line. -/
def run (args : List String) : IO UInt32 := do
  let env ← environment
  let settings := Settings.ofEnvironment env
  match Invocation.parse args with
  | .asks i =>
    let uri := i.uri? env
    let location := (settings.connect uri none).toOption.map (·.location)
    match i.command with
    | .shell => shell settings uri i.verbose (← readDisk none location)
    | .apply "-" =>
      let input ← (← IO.getStdin).readToEnd
      finish (CommandLine.run settings env (← readDisk none location) input args)
    | .apply source =>
      finish (CommandLine.run settings env (← readDisk (some source) location) "" args)
    | .migrate (some config) =>
      finish (CommandLine.run settings env (← readDisk (some config) none) "" args)
    | _ => finish (CommandLine.run settings env (← readDisk none location) "" args)
  | _ => finish (CommandLine.run settings env (← readDisk none none) "" args)

end SchemaCatalog.Program

/-- The program. -/
def main (args : List String) : IO UInt32 := SchemaCatalog.Program.run args
