import WidgetFlow.Text.CaseTable

/-!
# Upper and lower case

Upper and lower case of whole texts. A character may map to several (`ß` to `SS`), and the lower
case of a capital sigma depends on its place: it is the final form `ς` where the sigma ends a
word, that is, where a cased character stands before it and none behind it, case-ignorable
characters skipped on both sides.
-/

namespace WidgetFlow.Text

/-- The code point `n` is mapped to by the first run that reaches it, if it lies on that run. -/
def shiftIn (n : Nat) : List CaseRun → Option Nat
  | [] => none
  | r :: rest =>
    if n ≤ r.last then
      if r.first ≤ n && (n - r.first) % r.step == 0 then some (n + r.shift).toNat else none
    else shiftIn n rest

/-- The image of a character under a case mapping given by its runs and its list of longer
images; a character that neither mentions stays. -/
def caseImage (runs : List CaseRun) (special : List (Nat × List Nat)) (c : Char) : List Char :=
  match special.lookup c.toNat with
  | some image => image.map Char.ofNat
  | none =>
    match shiftIn c.toNat runs with
    | some n => [Char.ofNat n]
    | none => [c]

/-- The upper-case form of one character. -/
def upperChar (c : Char) : List Char := caseImage upperRuns upperSpecial c

/-- The lower-case form of one character, whatever stands around it. -/
def lowerChar (c : Char) : List Char := caseImage lowerRuns lowerSpecial c

/-- Whether the first character that is not case-ignorable is cased. -/
def meetsCased (cs : List Char) : Bool :=
  match cs.dropWhile fun c => inRanges c.toNat caseIgnorableRanges with
  | [] => false
  | c :: _ => inRanges c.toNat casedRanges

/-- The lower-case form of a text that follows the characters `before`, nearest first. -/
def lowerFrom (before : List Char) : List Char → List Char
  | [] => []
  | c :: cs =>
    let image :=
      if c = 'Σ' then
        if meetsCased before && !meetsCased cs then ['ς'] else ['σ']
      else lowerChar c
    image ++ lowerFrom (c :: before) cs

/-- A text in upper case. -/
def upper (s : String) : String := String.ofList (s.toList.flatMap upperChar)

/-- A text in lower case. -/
def lower (s : String) : String := String.ofList (lowerFrom [] s.toList)

/-- A text whose first character is put in upper case. -/
def capitalize (s : String) : String :=
  match s.toList with
  | [] => ""
  | c :: cs => String.ofList (upperChar c ++ cs)

/-- A text whose first character is put in lower case. -/
def uncapitalize (s : String) : String :=
  match s.toList with
  | [] => ""
  | c :: cs => String.ofList (lowerChar c ++ cs)

/-- Whether a character has the property Uppercase. -/
def isUppercase (c : Char) : Bool := inRanges c.toNat uppercaseRanges

/-- Lower case of the letters `A` to `Z` alone; tags, aliases and levels are compared by it. -/
def lowerAscii (s : String) : String := s.map Char.toLower

end WidgetFlow.Text
