import WidgetFlow.Value.Basic

/-!
# Tables of a TOML document

A table remembers how it came about, because that decides how it may grow: a table that only lies on
the way to another one may still get a header of its own, one with a header may not get a second
one, and one made by dotted keys grows by dotted keys alone. Inline tables and arrays are closed.
-/

namespace WidgetFlow.Toml

/-- How a table came about. -/
inductive Origin where
  | path | header | dotted
deriving DecidableEq, Repr

/-- A document under construction: closed values, tables, and arrays of tables with the last one
first. -/
inductive Node where
  | value (v : Value)
  | table (origin : Origin) (entries : List (String × Node))
  | tables (items : List (List (String × Node)))

mutual
/-- The value that a node stands for. -/
def Node.toValue : Node → Value
  | .value v => v
  | .table _ entries => .obj (entryValues entries)
  | .tables items => .arr (tableValues items).reverse
/-- The value of every entry. -/
def entryValues : List (String × Node) → List (String × Value)
  | [] => []
  | (k, n) :: rest => (k, n.toValue) :: entryValues rest
/-- The value of every table. -/
def tableValues : List (List (String × Node)) → List Value
  | [] => []
  | entries :: rest => .obj (entryValues entries) :: tableValues rest
end

/-- The entries of a table. -/
abbrev Entries := List (String × Node)

/-- Puts a value under a dotted key into the entries of a table. The table that gets the value must
be made by dotted keys; on the way to it the key may pass tables that only lie on the way to another
one, and the last table of an array. -/
def assign (new : Value) : List String → Entries → Option Entries
  | [], _ => none
  | [key], entries =>
    match Dict.get? entries key with
    | some _ => none
    | none => some (Dict.insert entries key (.value new))
  | key :: rest, entries =>
    match Dict.get? entries key with
    | none => (assign new rest []).map fun inner => Dict.insert entries key (.table .dotted inner)
    | some (.table .dotted inner) =>
      (assign new rest inner).map fun inner => Dict.insert entries key (.table .dotted inner)
    | some (.table .path inner) =>
      if rest.length = 1 then none
      else (assign new rest inner).map fun inner => Dict.insert entries key (.table .path inner)
    | some (.tables (last :: before)) =>
      if rest.length = 1 then none
      else (assign new rest last).map fun t => Dict.insert entries key (.tables (t :: before))
    | some _ => none

/-- Applies a change to the table that a path leads to, making tables on the way where there are
none. An array of tables leads to its last table. -/
def modifyAt (change : Entries → Option Entries) : List String → Entries → Option Entries
  | [], entries => change entries
  | key :: rest, entries =>
    match Dict.get? entries key with
    | none => (modifyAt change rest []).map fun t => Dict.insert entries key (.table .path t)
    | some (.table origin t) =>
      (modifyAt change rest t).map fun t => Dict.insert entries key (.table origin t)
    | some (.tables (last :: before)) =>
      (modifyAt change rest last).map fun t => Dict.insert entries key (.tables (t :: before))
    | some _ => none

/-- Opens the table of a header. -/
def openTable (path : List String) (entries : Entries) : Option Entries :=
  match path.getLast? with
  | none => none
  | some key =>
    modifyAt (fun entries =>
      match Dict.get? entries key with
      | none => some (Dict.insert entries key (.table .header []))
      | some (.table .path t) => some (Dict.insert entries key (.table .header t))
      | some _ => none) path.dropLast entries

/-- Opens one more table of an array of tables. -/
def openArrayTable (path : List String) (entries : Entries) : Option Entries :=
  match path.getLast? with
  | none => none
  | some key =>
    modifyAt (fun entries =>
      match Dict.get? entries key with
      | none => some (Dict.insert entries key (.tables [[]]))
      | some (.tables items) => some (Dict.insert entries key (.tables ([] :: items)))
      | some _ => none) path.dropLast entries

end WidgetFlow.Toml
