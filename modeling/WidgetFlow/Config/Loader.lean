import WidgetFlow.Config.Basic
import WidgetFlow.Config.Toml

/-!
# Loading configurations

A configuration is read from JSON or TOML text and validated. For a file the extension of its name
tells the format, in either case of letters.
-/

namespace WidgetFlow.Config

/-- A configuration, if it is valid. -/
def validated (c : Config) : Except ConfigError Config := (fun _ => c) <$> c.validate

/-- The configuration of a JSON text. -/
def ofJson (text : String) : Except ConfigError Config :=
  match (Value.ofJsonAlong? Config.outline text).bind Config.ofValue? with
  | some c => c.validated
  | none => .error .json

/-- The configuration of a TOML text. A section written as a list may have more items than settings;
they do not count. -/
def ofToml (text : String) : Except ConfigError Config :=
  match (Toml.parse? text).bind fun v => Config.ofValue? (Config.outline.trim v) with
  | some c => c.validated
  | none => .error .toml

/-- The extension of a file name: what stands behind its last point, in lower case. A point at the
start of the name does not count. -/
def extension (path : String) : String :=
  let name := ((path.splitOn "/").getLast?.getD "").toList
  let (reversed, rest) := name.reverse.span (· != '.')
  match rest with
  | [] => ""
  | [_] => ""
  | _ :: _ => Text.lowerAscii (String.ofList reversed.reverse)

/-- The configuration of a file with a given name and content; there may be no such file. -/
def ofFile (name : String) (content : Option String) : Except ConfigError Config :=
  match content with
  | none => .error .io
  | some text =>
    match extension name with
    | "toml" => ofToml text
    | "json" => ofJson text
    | other => .error (.unsupportedFormat other)

end WidgetFlow.Config
