import WidgetFlow.Config.Basic
import WidgetFlow.Decimal.Reader
import WidgetFlow.Text.Blank
import WidgetFlow.Text.Letter
import WidgetFlow.Text.Pattern

/-!
# Filters of logging

A filter is a list of directives with commas between them. A directive names a target, or in square
brackets a span, or a span of a target, and it may give a level behind an equals sign; a level alone
is a directive as well. A span may ask for one field in braces, and for a value of it behind an
equals sign: a truth value, a number or a pattern. A level is a name in either case of letters or a
number from 0 to 5.

Blanks around a directive are no part of its target, but a directive that gives a level has none.
-/

namespace WidgetFlow

/-- The parts of the program that log under a name of their own. -/
def logTargets : List String := ["loom_config", "loom_core", "loom_script", "loom_render"]

namespace LoggingSettings

/-- The directives of logging: every part of the program at the level, and then the further ones. -/
def filter (s : LoggingSettings) : String :=
  let level := Text.lowerAscii s.level
  ",".intercalate (logTargets.map (fun target => s!"{target}={level}") ++ s.directives)

/-- Whether a text is a level: a name, a number, or nothing. -/
def isLevel (text : String) : Bool :=
  text.isEmpty || ((Decimal.word? text).any (· ≤ 5)) || logLevels.contains (Text.lowerAscii text)

/-- Whether a character may start a directive that names a target. -/
def startsTarget (c : Char) : Bool := c = '-' || c = ':' || c = '_' || Text.isAlphanumeric c

/-- Whether characters are a field, perhaps with a value. A second equals sign ends the value. -/
def isField (cs : List Char) : Bool :=
  match cs.dropWhile (· != '=') with
  | '=' :: rest =>
    let value := String.ofList (rest.takeWhile (· != '='))
    (Decimal.readFloat value).isSome || Text.Pattern.isWellFormed value
  | _ => !cs.isEmpty

/-- Whether a span stands behind the bracket that opens one, with what may stand behind it. -/
def isSpan (behind : List Char → Bool) (cs : List Char) : Bool :=
  match cs.dropWhile fun c => c != ']' && c != '\x7b' with
  | ']' :: rest => behind rest
  | '\x7b' :: rest =>
    match rest.span (· != '\x7d') with
    | (field, '\x7d' :: ']' :: rest) => isField field && behind rest
    | _ => false
  | _ => false

/-- Whether characters are a directive. -/
def isDirective (cs : List Char) : Bool :=
  let trimmed := Text.trimChars cs
  let endsWithLevel (rest : List Char) : Bool := match rest with
    | [] => true
    | '=' :: level => trimmed = cs && isLevel (String.ofList level)
    | _ => false
  match trimmed with
  | [] => false
  | '[' :: rest => isSpan endsWithLevel rest
  | c :: _ =>
    startsTarget c &&
      match trimmed.dropWhile fun c => c != '=' && c != '[' with
      | '[' :: rest => isSpan endsWithLevel rest
      | rest => endsWithLevel rest

/-- Whether the filter can be understood: every directive that is not empty is one. -/
def isUnderstood (s : LoggingSettings) : Bool :=
  (s.filter.splitOn ",").all fun piece => piece.isEmpty || isDirective piece.toList

end LoggingSettings

end WidgetFlow
