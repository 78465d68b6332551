import SchemaCatalog.Settings
import SchemaCatalog.Store.Access
import SchemaCatalog.Text.Path

/-!
# Files and stores

The part of a file system that the command line works on: directories, and files that hold text or
a store. The file of a store comes into being, empty, when it is opened in a directory that exists.
A store in memory is fresh each time and never saved.

A text is looked for step by step, through directories that exist (`Disk.find?`). The path of a
store is first freed from its dots, whatever lies on the way, as long as that is no file
(`Disk.storeParts?`).
-/

namespace SchemaCatalog.CommandLine

/-- What a file holds. -/
inductive FileContent
  | text (s : String)
  | store (f : StoreFile)
  /-- Nothing at any time, since nothing is kept in the file. -/
  | void
  deriving DecidableEq, Repr

namespace FileContent

/-- The text that a file holds. The file of a store is no text, unless nothing is in it. -/
def text? : FileContent → Option String
  | text s => some s
  | store f => if f = .fresh then some "" else none
  | void => some ""

/-- The store that a file holds. A text is no store, unless nothing is in it; a single byte does
not matter. Where nothing is kept there cannot be a store. -/
def storeFile : FileContent → Except OpeningFault StoreFile
  | text s => if s.utf8ByteSize ≤ 1 then .ok .fresh else .error .notAStore
  | store f => .ok f
  | void => .error .unopenable

end FileContent

/-- What a command finds: the working directory, the directory of the program's own configuration,
and directories and files by their paths from the root on. -/
structure Disk where
  workingDirectory : String
  home : String
  directories : List String
  files : List (String × FileContent)

namespace Disk

/-- What the file at a path from the root on holds. -/
def content? (d : Disk) (path : String) : Option FileContent :=
  (d.files.find? (·.1 = path)).map (·.2)

/-- Whether a path from the root on is that of a directory. -/
def isDirectory (d : Disk) (path : String) : Bool := d.directories.contains path

/-- Whether there is something at a path from the root on. -/
def occupies (d : Disk) (path : String) : Bool := d.isDirectory path || (d.content? path).isSome

/-- Puts a file at a path from the root on, in place of the one that may be there. -/
def put (d : Disk) (path : String) (content : FileContent) : Disk :=
  { d with files := (path, content) :: d.files.filter (·.1 ≠ path) }

/-- The parts, last one first, of the directory from which a path counts. -/
def start (d : Disk) (path : String) : List String :=
  if Text.isRooted path then [] else Text.partsFrom d.workingDirectory ""

/-! ### Texts -/

/-- Goes along the parts of a path from a place on. Whatever is not the last thing must be a
directory. -/
def walk (d : Disk) (place : List String) : List String → Option (List String)
  | [] => some place
  | part :: rest =>
    if ¬ d.isDirectory (Text.rootedPath place) then none
    else if part = "" ∨ part = "." then d.walk place rest
    else if part = ".." then d.walk place.tail rest
    else if d.occupies (Text.rootedPath (part :: place)) then d.walk (part :: place) rest
    else none

/-- The path from the root on of what is at a path, if there is anything. -/
def find? (d : Disk) (path : String) : Option String :=
  if path = "" then none
  else (d.walk (d.start path) (Text.pathParts path)).map Text.rootedPath

/-- What the file at a path holds. -/
def file? (d : Disk) (path : String) : Option FileContent := (d.find? path).bind d.content?

/-! ### Stores -/

/-- How long the name of a file may be, in bytes. -/
def maxName : Nat := 255

/-- How long the path of a store may be while it is freed from its dots, in bytes. -/
def maxPath : Nat := 511

/-- By how much the name of the journal that is kept during a change is longer than that of its
store, in bytes. -/
def journalSuffix : Nat := 8

/-- Goes along the parts of the path of a store from a place on. The parts need not exist, but
nothing lies below a file, and no name in a directory is too long. -/
def trace (d : Disk) (place : List String) : List String → Option (List String)
  | [] => some place
  | part :: rest =>
    if part = "" ∨ part = "." then d.trace place rest
    else if part = ".." then d.trace place.tail rest
    else
      let path := Text.rootedPath (part :: place)
      let above := Text.rootedPath place
      if maxPath < path.utf8ByteSize ∨ (d.content? above).isSome ∨
          (d.isDirectory above ∧ maxName < part.utf8ByteSize) then none
      else d.trace (part :: place) rest

/-- The parts, last one first, of the path from the root on at which a store is. The path must leave
room for that of the journal. -/
def storeParts? (d : Disk) (path : String) : Option (List String) :=
  (d.trace (d.start path) (Text.pathParts path)).filter fun parts =>
    parts ≠ [] && (Text.rootedPath parts).utf8ByteSize + journalSuffix ≤ maxPath + 1

/-- A store that has been opened. -/
structure OpenStore where
  /-- Where the store is to be saved, if it is in a file. -/
  path : Option String
  file : StoreFile
  readOnly : Bool
  /-- The files after the store has been opened. -/
  disk : Disk

namespace OpenStore

/-- The store as sessions meet it. -/
def access (o : OpenStore) : Access := .ofFile o.file o.readOnly

/-- The files after the store has been changed. -/
def saved (o : OpenStore) (f : StoreFile) : Disk :=
  match o.path with
  | some path => if f = o.file then o.disk else o.disk.put path (.store f)
  | none => o.disk

end OpenStore

/-- Opens the store in a file, which lies in a directory and is none itself. Where the name of the
file leaves no room for that of the journal, nothing can be changed. -/
def openFile (d : Disk) (path : String) (mode : OpenMode) : Except OpeningFault OpenStore :=
  match d.storeParts? path with
  | some (name :: above) =>
    let path := Text.rootedPath (name :: above)
    let readOnly := mode.readOnly || decide (maxName < name.utf8ByteSize + journalSuffix)
    if ¬ mode.model.all (d.find? · |>.isSome) ∨ ¬ d.isDirectory (Text.rootedPath above) ∨
        d.isDirectory path then .error .unopenable
    else
      match d.content? path with
      | some content => content.storeFile.map fun f => ⟨path, f, readOnly, d⟩
      | none =>
        if mode.creates then .ok ⟨path, .fresh, readOnly, d.put path (.store .fresh)⟩
        else .error .unopenable
  | _ => .error .unopenable

/-- Opens the store at a location. -/
def openStore (d : Disk) : Location → Except OpeningFault OpenStore
  | .memory readOnly => .ok ⟨none, .fresh, readOnly, d⟩
  | .nowhere fault => .error fault
  | .file path mode => d.openFile path mode

end Disk

end SchemaCatalog.CommandLine
