/-!
# Arguments of the command line

The command line takes options of its own, the name of a command, and the options and arguments of
that command. `Invocation.parse` reads it; what it cannot read is a usage error.

An option begins with a dash. A long option has two and may have its value after an equals sign;
short flags may share one dash. Two dashes end the options, and a single dash is an argument.
-/

namespace SchemaCatalog.CommandLine

/-- An option that is understood: its names, and whether it takes a value. -/
structure OptionSpec where
  long : String
  short : Option Char
  takesValue : Bool

/-- Arguments as they were read: the options with their values, in their order, and the rest. -/
structure Parsed where
  options : List (String × String)
  rest : List String

namespace Parsed

/-- Whether a flag was given. -/
def has (p : Parsed) (long : String) : Bool := p.options.any (·.1 = long)

/-- The last value given for an option. -/
def value? (p : Parsed) (long : String) : Option String :=
  (p.options.reverse.find? (·.1 = long)).map (·.2)

/-- Adds an option in front. -/
def withOption (long value : String) (p : Parsed) : Parsed :=
  { p with options := (long, value) :: p.options }

/-- Adds an argument in front. -/
def withArgument (arg : String) (p : Parsed) : Parsed := { p with rest := arg :: p.rest }

end Parsed

/-- The flag that asks for help. -/
def helpSpec : OptionSpec := ⟨"--help", none, false⟩

/-- A text up to its first equals sign, and what follows the sign. -/
def splitValue (cs : List Char) : String × Option String :=
  let name := cs.takeWhile (· != '=')
  (String.ofList name,
    match cs.drop name.length with
    | _ :: value => some (String.ofList value)
    | [] => none)

/-- The flags that share one dash. -/
def shortFlags? (specs : List OptionSpec) : List Char → Option (List (String × String))
  | [] => some []
  | c :: rest =>
    match specs.find? (·.short = some c) with
    | none => none
    | some spec => (shortFlags? specs rest).map ((spec.long, "") :: ·)

/-- Reads arguments. If options may not stand between arguments, the first argument ends them. -/
def parseArguments (specs : List OptionSpec) (mixed : Bool) : List String → Option Parsed
  | [] => some ⟨[], []⟩
  | arg :: args =>
    match arg.toList with
    | ['-', '-'] => some ⟨[], args⟩
    | '-' :: c :: cs =>
      let (name, value) := splitValue ('-' :: c :: cs)
      match specs.find? (·.long = name) with
      | some spec =>
        match spec.takesValue, value, args with
        | false, none, args => (parseArguments specs mixed args).map (·.withOption name "")
        | false, some _, _ => none
        | true, some v, args => (parseArguments specs mixed args).map (·.withOption name v)
        | true, none, v :: args => (parseArguments specs mixed args).map (·.withOption name v)
        | true, none, [] => none
      | none =>
        if c = '-' then none
        else
          match shortFlags? specs (c :: cs), parseArguments specs mixed args with
          | some flags, some p => some { p with options := flags ++ p.options }
          | _, _ => none
    | _ =>
      if mixed then (parseArguments specs mixed args).map (·.withArgument arg)
      else some ⟨[], arg :: args⟩

/-! ### Commands -/

/-- What a command line asks for. -/
inductive Command
  | init (reset : Bool)
  | migrate (config : Option String)
  | apply (source : String)
  | shell
  deriving DecidableEq, Repr

/-- A command with the options that stand before it. -/
structure Invocation where
  databaseUri : Option String
  verbose : Bool
  command : Command
  deriving DecidableEq, Repr

/-- What a command line, or the part of it that asks for a command, is. -/
inductive Intent (α : Type)
  | usageError
  | help
  /-- A file is named in a way that no file can be. -/
  | badFileName
  | asks (what : α)

/-- Whether a text is the name of no file, because it holds the character that ends names. -/
def isNoFileName (name : String) : Bool := name.toList.contains '\x00'

/-- The intent to run a command that takes no further arguments. -/
def Intent.ofRest (rest : List String) (command : Command) : Intent Command :=
  if rest = [] then .asks command else .usageError

/-- The command that a name and its arguments ask for. The names of files are looked at before
arguments that are too many. -/
def parseCommand (name : String) (args : List String) : Intent Command :=
  let parse (specs : List OptionSpec) (read : Parsed → Intent Command) : Intent Command :=
    match parseArguments (helpSpec :: specs) true args with
    | none => .usageError
    | some p => if p.has "--help" then .help else read p
  match name with
  | "init" =>
    parse [⟨"--reset", none, false⟩] fun p => .ofRest p.rest (.init (p.has "--reset"))
  | "migrate" =>
    parse [⟨"--config", none, true⟩] fun p =>
      if (p.value? "--config").any isNoFileName then .badFileName
      else .ofRest p.rest (.migrate (p.value? "--config"))
  | "apply" =>
    parse [] fun p =>
      match p.rest with
      | [] => .usageError
      | source :: rest =>
        if isNoFileName source then .badFileName else .ofRest rest (.apply source)
  | "shell" => parse [] fun p => .ofRest p.rest .shell
  | _ => .usageError

/-- Reads a command line. -/
def Invocation.parse (args : List String) : Intent Invocation :=
  let specs : List OptionSpec :=
    [helpSpec, ⟨"--database-uri", none, true⟩, ⟨"--verbose", some 'v', false⟩]
  match parseArguments specs false args with
  | none => .usageError
  | some p =>
    if p.has "--help" then .help
    else
      match p.rest with
      | [] => .usageError
      | name :: args =>
        match parseCommand name args with
        | .usageError => .usageError
        | .help => .help
        | .badFileName => .badFileName
        | .asks command => .asks ⟨p.value? "--database-uri", p.has "--verbose", command⟩

end SchemaCatalog.CommandLine
