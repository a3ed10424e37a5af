/-!
# Finding, splitting and replacing

Search in texts by characters: positions count characters, and an empty pattern is found at
every position, first of all at 0.
-/

namespace WidgetFlow.Text

/-- The first position at which the pattern stands. -/
def indexOf? (pattern : List Char) : List Char → Option Nat
  | [] => if pattern.isEmpty then some 0 else none
  | c :: cs =>
    if pattern.isPrefixOf (c :: cs) then some 0 else (indexOf? pattern cs).map (· + 1)

/-- The pieces between the occurrences of a separator that is not empty. The first argument
counts the characters of an occurrence still to be skipped, the second one holds the piece read so
far, last character first. -/
def splitFrom (separator : List Char) : Nat → List Char → List Char → List (List Char)
  | _, piece, [] => [piece.reverse]
  | skip + 1, piece, _ :: cs => splitFrom separator skip piece cs
  | 0, piece, c :: cs =>
    if separator.isPrefixOf (c :: cs) then
      piece.reverse :: splitFrom separator (separator.length - 1) [] cs
    else splitFrom separator 0 (c :: piece) cs

/-- The pieces of a text between the occurrences of a separator; with the empty separator, its
single characters. -/
def split (separator s : String) : List String :=
  if separator.isEmpty then s.toList.map String.singleton
  else (splitFrom separator.toList 0 [] s.toList).map String.ofList

/-- The text with the first occurrence of the pattern replaced. -/
def replaceFirst (pattern replacement s : String) : String :=
  match indexOf? pattern.toList s.toList with
  | none => s
  | some i =>
    String.ofList (s.toList.take i) ++ replacement ++
      String.ofList (s.toList.drop (i + pattern.length))

end WidgetFlow.Text
