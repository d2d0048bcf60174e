import ClassCatalog.Config.Load
import ClassCatalog.Generation

/-!
# The program

What the program does with its arguments and the files it finds: what it prints, which files it
leaves, and its exit code.
-/

namespace ClassCatalog

/-- What a program finds around it. -/
structure Environment where
  /-- The configuration file that the environment names. -/
  config : Option String := none
  /-- The folder with the user's configuration. -/
  userFolder : Option Path := none
deriving DecidableEq, Inhabited

/-- What a program leaves behind. -/
structure ProgramResult where
  exitCode : Nat
  output : String := ""
  errors : String := ""
  /-- The syntax trees that were shown before the errors, with the paths of their files. -/
  shown : List (String × Java.Tree) := []
  files : FileTree

namespace Program

/-- The name and version of the program. -/
def version : String :=
  "berray-doc 0.3.0\n"

/-- How to call the program. -/
def help : String :=
  "\n".intercalate
    ["Extracts documentation of berray game objects, components and actions as JSON",
      "",
      "Usage: berray-doc [OPTIONS] <SOURCE_ROOT>",
      "",
      "Arguments:",
      "  <SOURCE_ROOT>  Root directory of the Java sources",
      "",
      "Options:",
      "  -o, --output <PATH>      Output file (`-` for stdout) [default: doc/doc.json]",
      "  -c, --config <FILE>      Configuration file [env: BERRAY_DOC_CONFIG=]",
      "  -i, --interesting <FQN>  Interesting base type (repeatable); replaces the configured set",
      "      --format <FORMAT>    JSON layout [default: pretty] [possible values: pretty, compact]",
      "      --print-ast          Print the syntax tree of every parsed file to stderr",
      "  -v, --verbose            Show debug output",
      "  -h, --help               Print help",
      "  -V, --version            Print version",
      ""]

/-- The words for arguments that start no run. -/
def usageText : UsageNotice → String
  | .help => help
  | .version => version
  | .unknownArgument => "error: unexpected argument found\n"
  | .invalidValue => "error: invalid value for an argument\n"
  | .missingArgument => "error: the following required arguments were not provided: <SOURCE_ROOT>\n"
  | .repeatedArgument => "error: an argument cannot be used multiple times\n"
  | .unexpectedValue => "error: unexpected value for an argument\n"

/-- The result of arguments that start no run: what was asked for is printed as far as standard
output takes it, a fault is an error. -/
def ofNotice (notice : UsageNotice) (tree : FileTree) (output : StandardOutput) : ProgramResult :=
  if notice.exitCode = 0 then
    { exitCode := 0, output := (output.write (usageText notice)).2, files := tree }
  else { exitCode := notice.exitCode, errors := usageText notice, files := tree }

/-- What a failure says. -/
def errorText (e : Error) : String :=
  "Error: " ++ e.message ++ "\n"

/-- The result of a run. -/
def ofGeneration (done : Generation) : ProgramResult :=
  match done.result with
  | .error e =>
    { exitCode := e.exitCode
      output := done.printed
      errors := errorText e
      shown := done.shown
      files := done.files }
  | .ok _ =>
    { exitCode := 0, output := done.printed, shown := done.shown, files := done.files }

/-- Runs the program. -/
def run (environment : Environment) (arguments : List String) (tree : FileTree)
    (output : StandardOutput := {}) : ProgramResult :=
  match Arguments.parse environment.config arguments with
  | .error notice => ofNotice notice tree output
  | .ok arguments =>
    match Config.load tree environment.userFolder (arguments.config.map .ofText) with
    | .error e => { exitCode := e.exitCode, errors := errorText e, files := tree }
    | .ok config => ofGeneration (generate arguments config tree output)

end Program

end ClassCatalog
