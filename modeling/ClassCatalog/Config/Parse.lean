import ClassCatalog.Config.Decode
import ClassCatalog.Toml.Reader

/-!
# Configuration text
-/

namespace ClassCatalog.Config

/-- The settings that a text writes, if nothing is wrong with them. -/
def parse (text : String) : Except ConfigError Config :=
  match (Toml.parse? text).bind ofJson? with
  | none => .error .malformed
  | some config =>
    match config.fault? with
    | some fault => .error fault
    | none => .ok config

end ClassCatalog.Config
