import WidgetFlow.Dict
import WidgetFlow.Text.Blank
import WidgetFlow.Text.Case

/-!
# Widget kinds and aliases

A widget is of one of the canonical kinds or of a kind of its own, named by its tag. Tags are
compared without blanks around them and without regard to ASCII case.

An alias table replaces a tag until none of its rules applies: by a configured alias first, then, for
tags that are not canonical, by a built-in one. Every tag is replaced at most once, so that a loop
of aliases ends at the tag that closes it.
-/

namespace WidgetFlow

/-- The kind of a widget. -/
inductive Kind where
  | button | text | heading | input | checkbox | toggle | slider | select | image | list
  | card | container | form | link | chart | grid | map
  | other (tag : String)
deriving DecidableEq, Repr, Inhabited

/-- The canonical kinds with their tags, in order. -/
def canonicalKinds : List (String × Kind) :=
  [("button", .button), ("text", .text), ("heading", .heading), ("input", .input),
   ("checkbox", .checkbox), ("toggle", .toggle), ("slider", .slider), ("select", .select),
   ("image", .image), ("list", .list), ("card", .card), ("container", .container),
   ("form", .form), ("link", .link), ("chart", .chart), ("grid", .grid), ("map", .map)]

/-- The built-in aliases. -/
def builtinAliases : List (String × String) :=
  [("panel", "card"), ("paper", "card"), ("tile", "card"),
   ("box", "container"), ("div", "container"), ("section", "container"), ("view", "container"),
   ("stack", "container"), ("row", "container"), ("column", "container"), ("flex", "container"),
   ("label", "text"), ("paragraph", "text"), ("typography", "text"), ("span", "text"),
   ("p", "text"),
   ("title", "heading"), ("header", "heading"), ("h1", "heading"), ("h2", "heading"),
   ("h3", "heading"),
   ("textfield", "input"), ("text-field", "input"), ("textbox", "input"), ("textarea", "input"),
   ("field", "input"),
   ("btn", "button"), ("check", "checkbox"), ("switch", "toggle"), ("range", "slider"),
   ("dropdown", "select"), ("combobox", "select"),
   ("img", "image"), ("picture", "image"), ("avatar", "image"),
   ("ul", "list"), ("ol", "list"), ("listview", "list"),
   ("table", "grid"), ("datagrid", "grid"), ("data-grid", "grid"),
   ("graph", "chart"), ("plot", "chart"),
   ("a", "link"), ("anchor", "link"), ("hyperlink", "link")]

namespace Kind

/-- The canonical kind with a tag. -/
def ofCanonical? (tag : String) : Option Kind := canonicalKinds.lookup tag

/-- The tag of a kind. -/
def tag : Kind → String
  | .other tag => tag
  | .button => "button" | .text => "text" | .heading => "heading" | .input => "input"
  | .checkbox => "checkbox" | .toggle => "toggle" | .slider => "slider" | .select => "select"
  | .image => "image" | .list => "list" | .card => "card" | .container => "container"
  | .form => "form" | .link => "link" | .chart => "chart" | .grid => "grid" | .map => "map"

/-- Whether a kind is canonical. -/
def isKnown : Kind → Bool
  | .other _ => false
  | _ => true

end Kind

/-- What a tag is compared by. -/
def lookupKey (tag : String) : String := Text.lowerAscii (Text.trim tag)

/-- The configured aliases, from lookup keys to tags, beside the built-in ones. -/
structure AliasTable where
  extra : Dict String
deriving DecidableEq, Repr

namespace AliasTable

/-- The table of the built-in aliases alone. -/
def builtin : AliasTable := ⟨[]⟩

/-- Aliases as they are looked up; of several that agree as keys, the last in order counts. -/
def normalizeAliases (aliases : Dict String) : Dict String :=
  Dict.ofEntries (aliases.map fun (a, target) => (lookupKey a, Text.trim target))

/-- The table with configured aliases. -/
def ofAliases (aliases : Dict String) : AliasTable := ⟨normalizeAliases aliases⟩

/-- What a key is an alias of. A configured alias of a key to itself does not count. -/
def step (t : AliasTable) (key : String) : Option String :=
  match (Dict.get? t.extra key).filter fun target => lookupKey target != key with
  | some target => some target
  | none => if (Kind.ofCanonical? key).isSome then none else builtinAliases.lookup key

/-- Follows the aliases of a tag, at most `n` times and no key twice. -/
def follow (t : AliasTable) : Nat → List String → String → String
  | 0, _, tag => tag
  | n + 1, seen, tag =>
    let key := lookupKey tag
    match if seen.contains key then none else t.step key with
    | some next => t.follow n (key :: seen) next
    | none => if (Kind.ofCanonical? key).isSome then key else tag

/-- A tag replaced as long as an alias applies. A tag that stands for a canonical kind becomes the
tag of that kind, and any other is left as the last alias spells it. Only a key with a rule is
replaced, and each once, so the number of rules bounds the steps. -/
def normalize (t : AliasTable) (tag : String) : String :=
  t.follow (t.extra.length + builtinAliases.length + 1) [] tag

/-- The kind that a tag stands for. -/
def kind (t : AliasTable) (tag : String) : Kind :=
  let normalized := t.normalize tag
  (Kind.ofCanonical? normalized).getD (.other normalized)

end AliasTable

/-- The kind that a tag stands for by the built-in aliases. -/
def Kind.ofTag (tag : String) : Kind := AliasTable.builtin.kind tag

end WidgetFlow
