/-!
# Usage

The help texts of the program and of its commands. Options with a one-letter name stand before those
without, those of a command before the ones that every command takes, and help and version last.
-/

namespace WidgetFlow.Command

/-- What the options that every command takes do. -/
def verboseHelp : String := "Enable verbose logging (shortcut for a debug log level)"

/-- What the option for the configuration does. -/
def configHelp : String := "Config file path (TOML or JSON)"

/-- What asking for help does. -/
def helpSummary : String := "Print this message or the help of the given subcommand(s)"

/-- The help text of the program. -/
def programUsage : String := "\n".intercalate
  ["loom - mount a declarative widget tree and render it as markup",
   "",
   "Usage: loom [OPTIONS] <COMMAND>",
   "",
   "Commands:",
   "  render    Resolve a tree or application and print its markup",
   "  dispatch  Dispatch a user event on a node, then print the resulting markup",
   "  help      " ++ helpSummary,
   "",
   "Options:",
   "  -v, --verbose          " ++ verboseHelp,
   "  -C, --config <CONFIG>  " ++ configHelp,
   "  -h, --help             Print help",
   "  -V, --version          Print version"]

/-- The help text of rendering. -/
def renderUsage : String := "\n".intercalate
  ["Resolve a tree or application and print its markup",
   "",
   "Usage: loom render [OPTIONS] <FILE>",
   "",
   "Arguments:",
   "  <FILE>  Tree or application description (JSON)",
   "",
   "Options:",
   "  -v, --verbose          " ++ verboseHelp,
   "  -C, --config <CONFIG>  " ++ configHelp,
   "  -h, --help             Print help"]

/-- The help text of dispatching. -/
def dispatchUsage : String := "\n".intercalate
  ["Dispatch a user event on a node, then print the resulting markup",
   "",
   "Usage: loom dispatch [OPTIONS] --node <NODE> <FILE>",
   "",
   "Arguments:",
   "  <FILE>  ",
   "",
   "Options:",
   "  -n, --node <NODE>        Target node id",
   "  -e, --event <EVENT>      Event name, e.g. onClick [default: onClick]",
   "  -p, --payload <PAYLOAD>  Event payload as JSON",
   "  -v, --verbose            " ++ verboseHelp,
   "  -C, --config <CONFIG>    " ++ configHelp,
   "      --times <TIMES>      How many times to dispatch the event [default: 1]",
   "      --history            Print the runtime event history as JSON lines",
   "  -h, --help               Print help"]

/-- The help text of asking for help. -/
def helpUsage : String := "\n".intercalate
  [helpSummary,
   "",
   "Usage: loom help [COMMAND]...",
   "",
   "Arguments:",
   "  [COMMAND]...  Print help for the subcommand(s)"]

/-- The help text on a topic: a command, or else the program. -/
def usageOf : String → String
  | "render" => renderUsage
  | "dispatch" => dispatchUsage
  | "help" => helpUsage
  | _ => programUsage

end WidgetFlow.Command
