import SchemaCatalog.Address

/-!
# Addresses of files

A store may be given as the address of a file, `file:path?option=value&...`. Two slashes after the
colon begin an authority, which is empty or the machine itself. A number sign ends the address,
and any byte may stand percent-encoded; an encoded zero ends the part it stands in.

* `FileAddress.read?` takes such an address apart, from the character after the colon on.
* `FileAddress.access?` is what its options allow to do with the file.
-/

namespace SchemaCatalog

/-- The path and the options that the address of a file gives. -/
structure FileAddress where
  path : String
  options : List (String × String)
  deriving DecidableEq, Repr

namespace FileAddress

/-! ### Reading -/

/-- What stands at one place of an address. -/
inductive Symbol
  | plain (c : Char)
  | encoded (byte : Nat)
  /-- An encoded zero. -/
  | stop
  deriving DecidableEq, Repr

/-- The symbols of a text. A percent sign without two digits after it stands for itself. -/
def symbols : List Char → List Symbol
  | '%' :: c :: d :: rest =>
    match Text.hexByte? c d with
    | some 0 => .stop :: symbols rest
    | some b => .encoded b :: symbols rest
    | none => .plain '%' :: symbols (c :: d :: rest)
  | c :: rest => .plain c :: symbols rest
  | [] => []

/-- The bytes of a symbol. -/
def Symbol.bytes : Symbol → List Nat
  | .plain c => Text.utf8Bytes c
  | .encoded b => [b]
  | .stop => []

/-- The text of a part. -/
def textOf (part : List Symbol) : String :=
  String.ofList (Text.utf8Text ((part.takeWhile (· != .stop)).flatMap Symbol.bytes))

/-- The name and the value of an option, unless its name is empty. -/
def option? (part : List Symbol) : Option (String × String) :=
  let (name, value) := part.span (· != .plain '=')
  if textOf name = "" then none else some (textOf name, textOf (value.drop 1))

/-- What follows the authority, if that is empty or the machine itself. -/
def afterAuthority? : List Char → Option (List Char)
  | '/' :: '/' :: rest =>
    let (authority, path) := rest.span (· != '/')
    if authority = [] ∨ authority = "localhost".toList then some path else none
  | cs => some cs

/-- Takes an address apart. -/
def read? (cs : List Char) : Option FileAddress :=
  (afterAuthority? cs).map fun cs =>
    let (path, options) := (symbols (Address.upTo ['#'] cs).1).span (· != .plain '?')
    ⟨textOf path, (Address.splitAt (.plain '&') (options.drop 1)).filterMap option?⟩

/-! ### Options -/

/-- The value of an option; of equal ones the first counts. -/
def value? (a : FileAddress) (name : String) : Option String :=
  (a.options.find? (·.1 = name)).map (·.2)

/-- What is done with the file. -/
inductive FileAccess
  | read
  | write
  /-- The file may come into being. -/
  | create
  /-- There is no file; the store is in memory. -/
  | memory
  deriving DecidableEq, Repr

/-- The access of a given name. -/
def FileAccess.ofWord? : String → Option FileAccess
  | "ro" => some read
  | "rw" => some write
  | "rwc" => some create
  | "memory" => some memory
  | _ => none

/-- How much an access permits. -/
def FileAccess.level : FileAccess → Nat
  | memory => 0
  | read => 1
  | write => 2
  | create => 3

/-- Whether one access may take the place of another: it must not permit more. What is in memory
may become anything. -/
def FileAccess.allows (a b : FileAccess) : Bool := a == memory || b.level ≤ a.level

/-- The access that options lead to, one after the other; there is none when an option has a value
that it cannot have. -/
def accessFrom? (a : FileAccess) : List (String × String) → Option FileAccess
  | [] => some a
  | ("cache", value) :: rest =>
    if value = "shared" ∨ value = "private" then accessFrom? a rest else none
  | ("mode", value) :: rest =>
    match FileAccess.ofWord? value with
    | some b => if a.allows b then accessFrom? b rest else none
    | none => none
  | _ :: rest => accessFrom? a rest

/-- The systems that can hold a file. -/
def systems : List String := ["unix", "unix-none", "unix-dotfile", "unix-excl", "memdb"]

/-- The system that is to hold the file; of several the last counts. -/
def system (a : FileAddress) : String :=
  ((a.options.reverse.find? (·.1 = "vfs")).map (·.2)).getD "unix"

/-- What may be done with the file, if that makes sense and there is a system to do it. -/
def access? (a : FileAddress) : Option FileAccess :=
  (accessFrom? .create a.options).filter fun _ => systems.contains a.system

/-- The number with which a text begins, in decimal or, after `0x`, hexadecimal digits; one that
does not fit into 31 bits counts as zero. -/
def leadingNumber (cs : List Char) : Nat :=
  let digits (base : Nat) (cs : List Char) : List Nat :=
    ((cs.map Text.hexValue?).takeWhile fun v => v.any (· < base)).filterMap id
  let number (base : Nat) (ds : List Nat) : Nat := ds.foldl (fun n d => base * n + d) 0
  let n :=
    match cs with
    | '0' :: x :: rest =>
      if (x = 'x' ∨ x = 'X') ∧ digits 16 rest ≠ [] then number 16 (digits 16 rest)
      else number 10 (digits 10 cs)
    | _ => number 10 (digits 10 cs)
  if n < Nat.pow 2 31 then n else 0

/-- Whether a flag is on. Of a number only the last eight bits count. -/
def isOn (value : String) : Bool :=
  match value.toList with
  | [] => false
  | c :: cs =>
    if c.isDigit then leadingNumber (c :: cs) % 256 ≠ 0
    else ["on", "yes", "true"].contains (String.ofList ((c :: cs).map Char.toLower))

/-- Whether the file is taken for one that never changes. -/
def isImmutable (a : FileAddress) : Bool := (a.value? "immutable").any isOn

end FileAddress

end SchemaCatalog
