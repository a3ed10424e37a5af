/-!
# Dictionaries

A dictionary is a list of entries whose keys strictly increase in the order of code points, so
that two dictionaries with the same entries are the same list and every listing of one is sorted.
The operations keep this order (`Dict.Sorted`).

A sorted set of names is a list of names in the same order (`insertName`, `removeName`).
-/

namespace WidgetFlow

/-- A dictionary from texts to `α`. -/
abbrev Dict (α : Type u) := List (String × α)

namespace Dict

variable {α : Type u} {β : Type v}

/-- The keys of the entries strictly increase. -/
def Sorted (d : Dict α) : Prop := d.Pairwise fun a b => a.1 < b.1

/-- The value under a key. -/
def get? : Dict α → String → Option α
  | [], _ => none
  | (k, v) :: rest, key => if k = key then some v else get? rest key

/-- Whether a key has a value. -/
def contains (d : Dict α) (key : String) : Bool := (get? d key).isSome

/-- The dictionary with a value put under a key, in place of an earlier one. -/
def insert : Dict α → String → α → Dict α
  | [], key, value => [(key, value)]
  | (k, v) :: rest, key, value =>
    if key = k then (key, value) :: rest
    else if key < k then (key, value) :: (k, v) :: rest
    else (k, v) :: insert rest key value

/-- The dictionary without a key. -/
def erase : Dict α → String → Dict α
  | [], _ => []
  | (k, v) :: rest, key => if k = key then rest else (k, v) :: erase rest key

/-- The keys in order. -/
def keys (d : Dict α) : List String := d.map (·.1)

/-- The values in the order of their keys. -/
def values (d : Dict α) : List α := d.map (·.2)

/-- The dictionary of a list of entries, a later entry in place of an earlier one. -/
def ofEntries (entries : List (String × α)) : Dict α :=
  entries.foldl (fun d e => insert d e.1 e.2) []

/-- The first dictionary with every entry of the second put on top. -/
def union (base overlay : Dict α) : Dict α :=
  overlay.foldl (fun d e => insert d e.1 e.2) base

/-- The dictionary with a function applied to the value under a key, if there is one. -/
def modify : Dict α → String → (α → α) → Dict α
  | [], _, _ => []
  | (k, v) :: rest, key, f => if k = key then (k, f v) :: rest else (k, v) :: modify rest key f

/-- The dictionary with a function applied to every value. -/
def mapValues (f : α → β) (d : Dict α) : Dict β := d.map fun e => (e.1, f e.2)

end Dict

/-- A sorted list of names with one more name. -/
def insertName (name : String) : List String → List String
  | [] => [name]
  | n :: rest =>
    if name = n then n :: rest
    else if name < n then name :: n :: rest
    else n :: insertName name rest

/-- A sorted list of names without a name. -/
def removeName (name : String) (names : List String) : List String := names.filter (· != name)

end WidgetFlow
