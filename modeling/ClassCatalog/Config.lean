import ClassCatalog.Selection
import ClassCatalog.Text.Blank
import ClassCatalog.Text.Quoted
import ClassCatalog.TypeIndex.Build

/-!
# Configuration

What a run can be told in its configuration file, and what can be wrong with that.
-/

namespace ClassCatalog

/-- The settings of a run. -/
structure Config where
  /-- The types whose subtypes are documented. -/
  interestingTypes : List String :=
    ["com.berray.GameObject", "com.berray.components.core.Component",
      "com.berray.components.core.Action"]
  /-- Where the document goes. -/
  output : String := "doc/doc.json"
  /-- Types outside the sources. -/
  knownTypes : List KnownType := []
  /-- How much is logged. -/
  logLevel : String := "info"
deriving DecidableEq, Inhabited

/-- What can be wrong with a configuration. -/
inductive ConfigError where
  | fileNotFound (path : String)
  | malformed
  | invalidLogLevel (level : String)
  | emptyTypeName (type : KnownType)
deriving DecidableEq, Inhabited

/-- A type outside the sources as messages show it. -/
def KnownType.shown (type : KnownType) : String :=
  let superclass :=
    match type.superclass with
    | some name => "Some(" ++ Text.quoted name ++ ")"
    | none => "None"
  "KnownType \x7b name: " ++ Text.quoted type.name ++ ", superclass: " ++ superclass ++
    ", interfaces: [" ++ ", ".intercalate (type.interfaces.map Text.quoted) ++ "], interface: " ++
    (if type.interface then "true" else "false") ++ " \x7d"

namespace ConfigError

/-- The fault in words. -/
def message : ConfigError → String
  | fileNotFound path => "Config file not found: " ++ path
  | malformed => "Failed to parse config"
  | invalidLogLevel level =>
    "Invalid log level: " ++ level ++ ". Must be one of: error, warn, info, debug, trace"
  | emptyTypeName type => "known type with empty name: " ++ type.shown

end ConfigError

namespace Config

/-- The levels of logging. -/
def logLevels : List String :=
  ["error", "warn", "info", "debug", "trace"]

/-- Whether a name has nothing but blanks. -/
def isBlankName (name : String) : Bool :=
  name.toList.all Text.isBlank

/-- The first thing that is wrong with the settings. -/
def fault? (config : Config) : Option ConfigError :=
  if config.logLevel ∉ logLevels then some (.invalidLogLevel config.logLevel)
  else (config.knownTypes.find? fun type => isBlankName type.name).map .emptyTypeName

/-- The selection that the settings ask for. -/
def selection (config : Config) : Selection :=
  .ofList config.interestingTypes

end Config

end ClassCatalog
