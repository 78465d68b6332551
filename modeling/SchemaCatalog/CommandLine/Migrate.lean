import SchemaCatalog.CommandLine.Result
import SchemaCatalog.Migration

/-!
# Migrating stores

`migrate` brings the tables of a store to the latest revision. Where the store is goes through a
configuration on the way, so that percent signs in its address refer to options there.
-/

namespace SchemaCatalog.CommandLine

/-- Takes the store at an address to a revision. What a migration did before it failed stays. -/
def migrateTo (address : String) (d : Disk) (direction : Direction) (target : String) : Result :=
  if Migration.isRange target then .broken (.migration .badTarget) d
  else
    withStore (Connection.ofText address .nothing) d fun _ o =>
      let (error, f) :=
        if o.readOnly then (Migration.obstacle direction target o.file, o.file)
        else Migration.run direction target o.file
      match error with
      | none => ⟨0, "", [], none, o.saved f⟩
      | some e => .broken (.migration e) (o.saved f)

/-- The section of a configuration that is about migrations. -/
def migrationSection : String := "alembic"

/-- The option with the address of the store. -/
def addressOption : String := "sqlalchemy.url"

/-- The option with the place of the revisions. -/
def revisionsOption : String := "script_location"

/-- The configuration of a directory, which has its revisions in a directory below. -/
def placed (c : Configuration) (directory : String) :
    Except ConfigurationError Configuration :=
  (c.withDefault "here" directory).set migrationSection revisionsOption
    (directory ++ "/" ++ migrationSection)

/-- The configuration that comes with the program. -/
def ownConfiguration (d : Disk) : Except ConfigurationError Configuration :=
  placed ⟨[migrationSection], [⟨migrationSection, "prepend_sys_path", "."⟩]⟩ d.home

/-- The address of the store to be migrated. It goes through the configuration, so that percent
signs in it refer to options; without one, the settings count. -/
def migrationAddress (settings : Settings) (d : Disk) (uri : Option String) :
    Except ConfigurationError String := do
  let c ← ownConfiguration d
  let c ← c.set migrationSection addressOption (uri.getD settings.databaseUri)
  match ← c.value? migrationSection addressOption with
  | none | some "" =>
    let c ← c.set migrationSection addressOption settings.databaseUri
    return (← c.value? migrationSection addressOption).getD ""
  | some address => return address

/-! ### Configurations of one's own -/

/-- Reads an option about migrations. -/
def readOption (c : Configuration) (name : String) : Except ConfigurationError (Option String) :=
  c.value? migrationSection name

/-- What may stand between the parts of a value. -/
def separators : List String := ["space", "newline", "os", ":", ";"]

/-- Reads the first of some options that is there; it must be a separator. -/
def readSeparator (c : Configuration) : List String → Except ConfigurationError Unit
  | [] => .ok ()
  | name :: rest => do
    match ← readOption c name with
    | none => readSeparator c rest
    | some s => if separators.contains s then .ok () else .error .unknownSeparator

/-- Reads an option that is a list and, unless it is empty, what stands between its parts. -/
def readList (c : Configuration) (name : String) (separatorNames : List String) :
    Except ConfigurationError Unit := do
  match ← readOption c name with
  | none | some "" => .ok ()
  | some _ => readSeparator c separatorNames

/-- Reads an option that is a number. -/
def readNumber (c : Configuration) (name : String) : Except ConfigurationError Unit := do
  match ← readOption c name with
  | none => .ok ()
  | some s => if (Text.integer? s.toList).isSome then .ok () else .error .notANumber

/-- The section with what is to be done with new revisions. -/
def hooksSection : String := "post_write_hooks"

/-- Reads all options of the section with what is to be done with new revisions, if there is such a
section. -/
def readHooks (c : Configuration) : Except ConfigurationError Unit :=
  if c.hasSection hooksSection then
    (c.names hooksSection).forM fun name => discard (c.value? hooksSection name)
  else .ok ()

/-- Reads what is read of a configuration before the revisions are looked for, in that order. -/
def readAhead (c : Configuration) : Except ConfigurationError Unit := do
  readNumber c "truncate_slug_length"
  readList c "prepend_sys_path" ["path_separator"]
  ["recursive_version_locations", "file_template", "sourceless", "output_encoding"].forM
    fun name => discard (readOption c name)
  readList c "version_locations" ["path_separator", "version_path_separator"]
  discard (readOption c "timezone")
  readHooks c

/-- Why a migration with a configuration of one's own breaks off: if for no other reason, there are
no revisions beside it. -/
def configurationError (settings : Settings) (d : Disk) (uri : Option String)
    (path text : String) : ConfigurationError :=
  let directory := (Text.partsFrom d.workingDirectory path).tail
  let check : Except ConfigurationError Unit := do
    let c ← Configuration.read text
    let c ← placed c (Text.rootedPath directory)
    readAhead (← c.set migrationSection addressOption (uri.getD settings.databaseUri))
  match check with
  | .error e => e
  | .ok () =>
    if d.occupies (Text.rootedPath (migrationSection :: directory)) then .notRevisions
    else .noRevisions

/-- `migrate`. -/
def runMigrate (settings : Settings) (uri : Option String) (d : Disk) (config : Option String) :
    Result :=
  match config with
  | some path =>
    match d.file? path with
    | none => .usage d
    | some content =>
      match content.text? with
      | none => .broken .notText d
      | some text => .broken (.configuration (configurationError settings d uri path text)) d
  | none =>
    match migrationAddress settings d uri with
    | .error e => .broken (.configuration e) d
    | .ok address => migrateTo address d .upgrade "head"

end SchemaCatalog.CommandLine
