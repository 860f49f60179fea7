namespace RouteDocs

structure Options where
  config : String := "openapi.yaml"
  routes : String := "routes.yaml"
  source : String := "src"
  baseDirectory : String := "."
  verbose : Bool := false
  deriving DecidableEq, Repr

/-- Why a command line is no request to compile. -/
inductive UsageError where
  | unknownArgument
  | invalidValue
  | argumentConflict
  | tooManyValues
  | displayHelp
  | displayVersion
  deriving DecidableEq, Repr

def UsageError.name : UsageError → String
  | .unknownArgument => "UnknownArgument"
  | .invalidValue => "InvalidValue"
  | .argumentConflict => "ArgumentConflict"
  | .tooManyValues => "TooManyValues"
  | .displayHelp => "DisplayHelp"
  | .displayVersion => "DisplayVersion"

/-- The options that have a value. -/
inductive Setting where
  | config
  | routes
  | source
  | baseDirectory
  deriving DecidableEq, Repr

namespace Setting

def all : List Setting := [.config, .routes, .source, .baseDirectory]

def longName : Setting → String
  | .config => "config"
  | .routes => "routes"
  | .source => "source"
  | .baseDirectory => "base-dir"

def shortName : Setting → Char
  | .config => 'c'
  | .routes => 'r'
  | .source => 's'
  | .baseDirectory => 'b'

def assign (s : Setting) (value : String) (o : Options) : Options :=
  match s with
  | .config => { o with config := value }
  | .routes => { o with routes := value }
  | .source => { o with source := value }
  | .baseDirectory => { o with baseDirectory := value }

end Setting

/-- An option without a value. -/
inductive Switch where
  | verbose
  | help
  | version
  deriving DecidableEq, Repr

namespace Switch

def all : List Switch := [.verbose, .help, .version]

def longName : Switch → String
  | .verbose => "verbose"
  | .help => "help"
  | .version => "version"

def shortName : Switch → Char
  | .verbose => 'v'
  | .help => 'h'
  | .version => 'V'

end Switch

/-- What the arguments so far say. The last setting waits for its value, or to be taken over. -/
structure CommandLine where
  options : Options := {}
  given : List Setting := []
  pending : Option (Setting × Option String) := none
  /-- Nothing but further names may follow, of which there are none. -/
  closed : Bool := false

namespace CommandLine

/-- Takes over a value. Each setting has one value, which is not empty. -/
def assign (c : CommandLine) (s : Setting) (value : String) : Except UsageError CommandLine :=
  if c.given.contains s then .error .argumentConflict
  else if value.isEmpty then .error .invalidValue
  else .ok { c with options := s.assign value c.options, given := s :: c.given }

/-- Takes over the pending setting, which must have a value by now. -/
def settle (c : CommandLine) : Except UsageError CommandLine :=
  match c.pending with
  | none => .ok c
  | some (_, none) => .error .invalidValue
  | some (s, some value) => { c with pending := none }.assign s value

/-- A setting whose value stands in the same argument, or else in the next one. -/
def set (c : CommandLine) (s : Setting) (value : Option String) : Except UsageError CommandLine := do
  let c ← c.settle
  match value with
  | some value => c.assign s value
  | none => return { c with pending := some (s, none) }

def turnOn (c : CommandLine) (s : Switch) : Except UsageError CommandLine := do
  let c ← c.settle
  match s with
  | .verbose =>
    if c.options.verbose then .error .argumentConflict
    else return { c with options := { c.options with verbose := true } }
  | .help => .error .displayHelp
  | .version => .error .displayVersion

/-- An argument behind two hyphens. An equals sign separates a value. -/
def long (c : CommandLine) (s : List Char) : Except UsageError CommandLine :=
  let name := String.ofList (s.takeWhile (· ≠ '='))
  let value : Option String :=
    match s.dropWhile (· ≠ '=') with
    | _ :: value => some (String.ofList value)
    | [] => none
  match Setting.all.find? (·.longName = name), Switch.all.find? (·.longName = name), value with
  | some s, _, _ => c.set s value
  | none, some s, none => c.turnOn s
  | none, some _, some _ => .error .tooManyValues
  | none, none, _ => .error .unknownArgument

/-- The letters behind one hyphen. What follows the letter of a setting is its value, with or without an
equals sign. -/
def short (c : CommandLine) : List Char → Except UsageError CommandLine
  | [] => .ok c
  | letter :: rest =>
    match Setting.all.find? (·.shortName = letter), Switch.all.find? (·.shortName = letter) with
    | some s, _ =>
      match rest with
      | [] => c.set s none
      | '=' :: value | value => c.set s (some (String.ofList value))
    | none, some s => do (← c.turnOn s).short rest
    | none, none => .error .unknownArgument

/-- An argument that is no option. -/
def name (c : CommandLine) (arg : String) : Except UsageError CommandLine :=
  match c.pending with
  | some (s, none) => .ok { c with pending := some (s, some arg) }
  | _ => .error .unknownArgument

def add (c : CommandLine) (arg : String) : Except UsageError CommandLine :=
  if c.closed then .error .unknownArgument
  else
    match arg.toList with
    | ['-', '-'] => .ok { c with closed := true }
    | '-' :: '-' :: s => c.long s
    | '-' :: letter :: s => c.short (letter :: s)
    | _ => c.name arg

/-- The options that the arguments ask for. -/
def parse (args : List String) : Except UsageError Options := do
  let c ← args.foldlM add {}
  return (← c.settle).options

end CommandLine

end RouteDocs
