import ClassCatalog.Json.Printer

/-!
# Command-line arguments

Arguments are read from left to right. An option that takes a value is settled only when the
argument behind the value is looked at, so a fault of its value shows up there.
-/

namespace ClassCatalog

/-- What a run is told on the command line. -/
structure Arguments where
  sourceRoot : String
  output : Option String := none
  config : Option String := none
  interestingTypes : List String := []
  layout : Layout := .pretty
  printTree : Bool := false
  verbose : Bool := false
deriving DecidableEq, Inhabited

/-- Why the arguments start no run. -/
inductive UsageNotice where
  | help
  | version
  | unknownArgument
  | invalidValue
  | missingArgument
  | repeatedArgument
  | unexpectedValue
deriving DecidableEq, Inhabited

/-- The exit code of a notice: only help and version are what was asked for. -/
def UsageNotice.exitCode : UsageNotice → Nat
  | help => 0
  | version => 0
  | _ => 2

namespace Arguments

/-- What takes a value: the options that do, and the source root itself. -/
inductive Slot where
  | sourceRoot
  | output
  | config
  | interestingType
  | layout
deriving DecidableEq, Inhabited

/-- Options without a value. -/
inductive Switch where
  | printTree
  | verbose
  | help
  | version
deriving DecidableEq, Inhabited

/-- An option by what it takes. -/
inductive Flag where
  | valued (slot : Slot)
  | plain (switch : Switch)
deriving DecidableEq, Inhabited

/-- The option with a long name. -/
def longFlag? : String → Option Flag
  | "output" => some (.valued .output)
  | "config" => some (.valued .config)
  | "interesting" => some (.valued .interestingType)
  | "format" => some (.valued .layout)
  | "print-ast" => some (.plain .printTree)
  | "verbose" => some (.plain .verbose)
  | "help" => some (.plain .help)
  | "version" => some (.plain .version)
  | _ => none

/-- The option with a short name. -/
def shortFlag? : Char → Option Flag
  | 'o' => some (.valued .output)
  | 'c' => some (.valued .config)
  | 'i' => some (.valued .interestingType)
  | 'v' => some (.plain .verbose)
  | 'h' => some (.plain .help)
  | 'V' => some (.plain .version)
  | _ => none

/-- The layout with a name. -/
def layout? : String → Option Layout
  | "pretty" => some .pretty
  | "compact" => some .compact
  | _ => none

/-- What was given so far. -/
structure Given where
  sourceRoot : Option String := none
  output : Option String := none
  config : Option String := none
  interestingTypes : List String := []
  layout : Option Layout := none
  printTree : Bool := false
  verbose : Bool := false
deriving DecidableEq, Inhabited

/-- A value for something that takes one value only. -/
def once {α : Type} (old : Option α) (new : Option α) : Except UsageNotice (Option α) :=
  if old.isSome then .error .repeatedArgument
  else if new.isSome then .ok new
  else .error .invalidValue

/-- A path, which is not empty. -/
def path? (value : String) : Option String :=
  if value.isEmpty then none else some value

/-- Gives a value to what takes one. -/
def Given.fill (given : Given) (slot : Slot) (value : String) : Except UsageNotice Given := do
  match slot with
  | .sourceRoot => return { given with sourceRoot := ← once given.sourceRoot (path? value) }
  | .output => return { given with output := ← once given.output (path? value) }
  | .config => return { given with config := ← once given.config (path? value) }
  | .interestingType =>
    return { given with interestingTypes := given.interestingTypes ++ [value] }
  | .layout => return { given with layout := ← once given.layout (layout? value) }

/-- Turns a switch on. -/
def Given.turnOn (given : Given) : Switch → Except UsageNotice Given
  | .printTree =>
    if given.printTree then .error .repeatedArgument else .ok { given with printTree := true }
  | .verbose =>
    if given.verbose then .error .repeatedArgument else .ok { given with verbose := true }
  | .help => .error .help
  | .version => .error .version

/-- The state between two arguments. -/
structure Reading where
  given : Given := {}
  /-- What waits to be settled, with its value if that was read. -/
  open? : Option (Slot × Option String) := none
  /-- Whether the source root was met. -/
  hasRoot : Bool := false
  /-- Whether options have ended. -/
  rootOnly : Bool := false
deriving DecidableEq, Inhabited

namespace Reading

/-- Settles what is open. -/
def settle (reading : Reading) : Except UsageNotice Given :=
  match reading.open? with
  | none => .ok reading.given
  | some (_, none) => .error .invalidValue
  | some (slot, some value) => reading.given.fill slot value

/-- Reads an option with the value attached to it. -/
def attach (reading : Reading) (slot : Slot) (value : String) : Except UsageNotice Reading := do
  return { reading with given := ← (← reading.settle).fill slot value, open? := none }

/-- Reads an option whose value is to come. -/
def await (reading : Reading) (slot : Slot) : Except UsageNotice Reading := do
  return { reading with given := ← reading.settle, open? := some (slot, none) }

/-- Reads an option without a value. -/
def turnOn (reading : Reading) (switch : Switch) : Except UsageNotice Reading := do
  return { reading with given := ← (← reading.settle).turnOn switch, open? := none }

/-- Reads an argument that is the source root. -/
def root (reading : Reading) (value : String) : Except UsageNotice Reading := do
  if reading.hasRoot then throw .unknownArgument
  return {
    reading with
    given := ← reading.settle
    open? := some (.sourceRoot, some value)
    hasRoot := true }

/-- Reads an option by its long name, with what stands behind an equals sign. -/
def long (reading : Reading) (name : String) (value : Option String) :
    Except UsageNotice Reading :=
  match longFlag? name, value with
  | none, _ => .error .unknownArgument
  | some (.plain _), some _ => .error .unexpectedValue
  | some (.plain switch), none => reading.turnOn switch
  | some (.valued slot), some value => reading.attach slot value
  | some (.valued slot), none => reading.await slot

/-- Reads options by their short names. The letters behind one that takes a value are the value. -/
def short (reading : Reading) : List Char → Except UsageNotice Reading
  | [] => .ok reading
  | name :: rest =>
    match shortFlag? name, rest with
    | none, _ => .error .unknownArgument
    | some (.plain switch), rest =>
      match reading.turnOn switch with
      | .ok reading => reading.short rest
      | .error notice => .error notice
    | some (.valued slot), [] => reading.await slot
    | some (.valued slot), '=' :: value => reading.attach slot (String.ofList value)
    | some (.valued slot), value => reading.attach slot (String.ofList value)

/-- Reads an argument that is no option: a value that was waited for, or the source root. -/
def plain (reading : Reading) (argument : String) : Except UsageNotice Reading :=
  match reading.open? with
  | some (slot, none) => .ok { reading with open? := some (slot, some argument) }
  | _ => reading.root argument

/-- A long option's name and what stands behind its first equals sign. -/
def splitValue (option : List Char) : String × Option String :=
  (String.ofList (option.takeWhile (· != '=')),
    match option.dropWhile (· != '=') with
    | _ :: value => some (String.ofList value)
    | [] => none)

/-- Reads one argument. -/
def next (reading : Reading) (argument : String) : Except UsageNotice Reading :=
  if reading.rootOnly then reading.root argument
  else
    match argument.toList with
    | ['-', '-'] => .ok { reading with rootOnly := true }
    | '-' :: '-' :: option => reading.long (splitValue option).1 (splitValue option).2
    | ['-'] => reading.plain argument
    | '-' :: names => reading.short names
    | _ => reading.plain argument

/-- Reads all the arguments. A configuration file that the environment names counts if none is
given. -/
def finish (reading : Reading) (environment : Option String) : Except UsageNotice Arguments := do
  let given ← reading.settle
  let given ←
    match given.config, environment with
    | none, some path => given.fill .config path
    | _, _ => .ok given
  match given.sourceRoot with
  | none => throw .missingArgument
  | some sourceRoot =>
    return {
      sourceRoot
      output := given.output
      config := given.config
      interestingTypes := given.interestingTypes
      layout := given.layout.getD .pretty
      printTree := given.printTree
      verbose := given.verbose }

end Reading

/-- The arguments of a run; `environment` is the configuration file that the environment names. -/
def parse (environment : Option String) (arguments : List String) :
    Except UsageNotice Arguments := do
  (← arguments.foldlM Reading.next {}).finish environment

end Arguments

end ClassCatalog
