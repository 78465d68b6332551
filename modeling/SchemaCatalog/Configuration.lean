import SchemaCatalog.Text.Blank
import SchemaCatalog.Text.Lines
import SchemaCatalog.Text.Lower
import SchemaCatalog.Text.Number

/-!
# Configurations

A configuration has sections with options in them, and defaults for all sections. It is written as
lines of text: a name in brackets begins a section, and a name with an equals sign or a colon after
it begins the value of an option, which goes on in the lines that are indented more
(`Configuration.read`).

In a value, `%(name)s` stands for the value of another option, and `%%` for a percent sign
(`Configuration.value?`).
-/

namespace SchemaCatalog

/-- Why a configuration cannot be used. -/
inductive ConfigurationError
  /-- There are lines before the first section. -/
  | noSection
  /-- There are lines that are neither sections nor options. -/
  | unreadable
  | repeatedSection
  | repeatedOption
  /-- A percent sign in a value that is being set stands for nothing. -/
  | strayPercent
  /-- A percent sign in a value stands for nothing. -/
  | badReference
  /-- A value refers to an option that does not exist. -/
  | unknownOption
  /-- Values refer to one another too often. -/
  | tooDeep
  /-- A value is not the number that it should be. -/
  | notANumber
  /-- A value is none of the separators that there are. -/
  | unknownSeparator
  /-- There are no revisions beside the configuration. -/
  | noRevisions
  /-- What is in the place of the revisions beside the configuration is something else. -/
  | notRevisions
  deriving DecidableEq, Repr

/-- An option in its section, with its value as it is written. -/
structure ConfigurationOption where
  sectionName : String
  name : String
  value : String
  deriving DecidableEq, Repr

/-- The sections, and the options of all sections. -/
structure Configuration where
  sections : List String
  options : List ConfigurationOption
  deriving DecidableEq, Repr

namespace Configuration

/-- The section whose options count for all sections. -/
def defaultSection : String := "DEFAULT"

/-! ### Values -/

/-- A piece of a value. -/
inductive Piece
  | char (c : Char)
  /-- The value of another option. -/
  | reference (name : String)
  /-- A percent sign that stands for nothing; what follows it is not read. -/
  | stray
  deriving DecidableEq, Repr

/-- What stands before the next character of a value; names are kept last character first. -/
inductive Place
  | plain
  | afterPercent
  | inName (read : List Char)
  | afterName (name : String)

/-- The pieces of a value from a place on. Two percent signs stand for one. -/
def pieces : Place → List Char → List Piece
  | .plain, [] => []
  | _, [] => [.stray]
  | .plain, c :: rest =>
    if c = '%' then pieces .afterPercent rest else .char c :: pieces .plain rest
  | .afterPercent, c :: rest =>
    if c = '%' then .char '%' :: pieces .plain rest
    else if c = '(' then pieces (.inName []) rest
    else [.stray]
  | .inName read, c :: rest =>
    if c = ')' then
      if read = [] then [.stray] else pieces (.afterName (String.ofList read.reverse)) rest
    else pieces (.inName (c :: read)) rest
  | .afterName name, c :: rest =>
    if c = 's' then .reference name :: pieces .plain rest else [.stray]

/-- A value without its pairs of percent signs. -/
def withoutPairs : List Char → List Char
  | '%' :: '%' :: rest => withoutPairs rest
  | c :: rest => c :: withoutPairs rest
  | [] => []

/-- Whether a value has a percent sign that stands for nothing. -/
def hasStray (value : String) : Bool := (pieces .plain (withoutPairs value.toList)).contains .stray

/-- The name of an option, in which capital letters do not differ from small ones. -/
def optionName (cs : List Char) : String := String.ofList (Text.lower cs)

/-- How often values may refer to one another, the first one included. -/
def maxReferences : Nat := 10

/-- The text that a value stands for, when so many values may still refer to others. -/
def expand (lookUp : String → Option String) : Nat → String → Except ConfigurationError String
  | 0, _ => .error .tooDeep
  | depth + 1, value => do
    let texts ← (pieces .plain value.toList).mapM fun
      | .char c => .ok (String.singleton c)
      | .stray => .error .badReference
      | .reference name =>
        match lookUp (optionName name.toList) with
        | none => .error .unknownOption
        | some v => if v.toList.contains '%' then expand lookUp depth v else .ok v
    .ok (String.join texts)

/-- The value of an option as it is written, in its section or as a default. -/
def written? (c : Configuration) (sectionName name : String) : Option String :=
  ((c.options.find? fun o => o.sectionName = sectionName ∧ o.name = name).orElse fun _ =>
    c.options.find? fun o => o.sectionName = defaultSection ∧ o.name = name).map (·.value)

/-- The value of an option. -/
def value? (c : Configuration) (sectionName name : String) :
    Except ConfigurationError (Option String) :=
  match c.written? sectionName name with
  | none => .ok none
  | some v => (expand (c.written? sectionName) maxReferences v).map some

/-- Whether there is a section. -/
def hasSection (c : Configuration) (sectionName : String) : Bool :=
  c.sections.contains sectionName

/-- The names of the options of a section as they are written. -/
def namesIn (c : Configuration) (sectionName : String) : List String :=
  (c.options.filter (·.sectionName = sectionName)).map (·.name)

/-- The names of all options that count for a section, the defaults first. -/
def names (c : Configuration) (sectionName : String) : List String :=
  (c.namesIn defaultSection ++ c.namesIn sectionName).eraseDups

/-- Puts an option in front of all others, in place of the one of that name. -/
def put (c : Configuration) (o : ConfigurationOption) : Configuration :=
  { c with options := o :: c.options.filter fun p =>
      ¬ (p.sectionName = o.sectionName ∧ p.name = o.name) }

/-- Sets the value of an option. -/
def set (c : Configuration) (sectionName name value : String) :
    Except ConfigurationError Configuration :=
  if hasStray value then .error .strayPercent else .ok (c.put ⟨sectionName, name, value⟩)

/-- Adds a default, which comes before all others. One that is written has the value with which it
is written. -/
def withDefault (c : Configuration) (name value : String) : Configuration :=
  c.put ⟨defaultSection, name, (c.written? defaultSection name).getD value⟩

/-! ### Reading -/

/-- An option whose lines are being read, last one first. -/
structure OpenOption where
  sectionName : String
  name : String
  lines : List String

/-- What has been read of a configuration. -/
structure Reader where
  /-- The options, last one first; the lines of the first may go on. -/
  options : List OpenOption
  sections : List String
  current : Option String
  /-- Whether the next line may belong to the last option. -/
  goesOn : Bool
  /-- How far the last line that began something was indented. -/
  indentation : Nat
  /-- Whether a line was neither a section nor an option. -/
  faulty : Bool

namespace Reader

/-- The name of the section that a line begins. -/
def sectionOf? : List Char → Option String
  | '[' :: rest =>
    let name := (rest.reverse.dropWhile (· != ']')).tail.reverse
    if name = [] then none else some (String.ofList name)
  | _ => none

/-- Adds a line to the option that was read last. -/
def addLine (r : Reader) (line : String) : Reader :=
  match r.options with
  | o :: rest => { r with options := { o with lines := line :: o.lines } :: rest }
  | [] => r

/-- Reads a line that begins a section. -/
def beginSection (r : Reader) (name : String) : Except ConfigurationError Reader :=
  if name = defaultSection then .ok { r with current := some name, goesOn := false }
  else if r.sections.contains name then .error .repeatedSection
  else .ok { r with sections := name :: r.sections, current := some name, goesOn := false }

/-- Reads a line that should begin an option of a section. -/
def beginOption (r : Reader) (sectionName : String) (line : List Char) :
    Except ConfigurationError Reader :=
  let (name, value) := line.span fun c => c != '=' && c != ':'
  match value with
  | [] => .ok { r with faulty := true }
  | _ :: value =>
    let name := optionName (Text.trimEnd name)
    if r.options.any fun o => o.sectionName = sectionName ∧ o.name = name then
      .error .repeatedOption
    else
      .ok { r with
        options := ⟨sectionName, name, [String.ofList (Text.trim value)]⟩ :: r.options
        goesOn := name != ""
        faulty := r.faulty || name == "" }

/-- Reads a line. Lines that begin with a number sign or a semicolon are comments. -/
def step (r : Reader) (line : String) : Except ConfigurationError Reader :=
  let content := Text.trim line.toList
  let indentation := (line.toList.takeWhile Text.isBlank).length
  match content with
  | [] => .ok (if r.goesOn then r.addLine "" else r)
  | c :: _ =>
    if c = '#' ∨ c = ';' then .ok r
    else if r.goesOn ∧ r.indentation < indentation then .ok (r.addLine (String.ofList content))
    else
      let r := { r with indentation }
      match sectionOf? content, r.current with
      | some name, _ => r.beginSection name
      | none, none => .error .noSection
      | none, some sectionName => r.beginOption sectionName content

/-- The value that lines make together; empty lines at its end do not count. -/
def OpenOption.close (o : OpenOption) : ConfigurationOption :=
  ⟨o.sectionName, o.name,
    String.ofList (Text.trimEnd (String.intercalate "\n" o.lines.reverse).toList)⟩

/-- The configuration that has been read. -/
def finish (r : Reader) : Except ConfigurationError Configuration :=
  if r.faulty then .error .unreadable
  else .ok ⟨r.sections.reverse, (r.options.map OpenOption.close).reverse⟩

end Reader

/-- Reads a configuration. -/
def read (text : String) : Except ConfigurationError Configuration := do
  let r ← (Text.lines text).foldlM Reader.step ⟨[], [], none, false, 0, false⟩
  r.finish

end Configuration

end SchemaCatalog
