import WidgetFlow.Value.Outline
import WidgetFlow.Decimal.Reader
import WidgetFlow.Text.Hex

/-!
# Reading JSON text

`Value.ofJson?` reads a value from JSON text, with the fields of records as written, and
`Value.ofJsonAlong?` reads the part of it that an outline covers. A field outside the outline is
skipped: its value has to be well formed, but its numbers may lie beyond the doubles and its texts
may hold half of a surrogate pair, which no value can hold.

A literal without fraction and exponent that fits into a word of 64 bits is a whole number; any
other number is a double. Its digits are read into one word of 64 bits, further digits only count
for the scale, and the word is scaled once by a power of ten.
-/

namespace WidgetFlow

namespace Value

open WidgetFlow.Parser

/-- The blanks of JSON. -/
def isJsonBlank (c : Char) : Bool := c = ' ' || c = '\n' || c = '\t' || c = '\r'

/-- A parser with blanks allowed before what it reads. -/
def token {α : Type} (p : Parser α) : Parser α := fun cs => p (cs.dropWhile isJsonBlank)

/-- Four hexadecimal digits. -/
def hexWord : Parser Nat := Text.hexNumber 4

/-- The character of a `\u` escape, whose mark is read already. A unit of the upper half of a
surrogate pair needs one of the lower half behind it, and neither stands alone. -/
def unicodeChar : Parser Char := andThen hexWord fun high =>
  if 0xD800 ≤ high && high < 0xDC00 then
    skipLeft (literal ['\\', 'u']) (filterMap
      (fun low =>
        if 0xDC00 ≤ low && low < 0xE000 then
          some (Char.ofNat (0x10000 + (high - 0xD800) * 0x400 + (low - 0xDC00)))
        else none)
      hexWord)
  else if 0xDC00 ≤ high && high < 0xE000 then fail
  else success (Char.ofNat high)

/-- The character of an escape, whose backslash is read already. -/
def escapedChar : Parser Char
  | '"' :: rest => some ('"', rest)
  | '\\' :: rest => some ('\\', rest)
  | '/' :: rest => some ('/', rest)
  | 'b' :: rest => some ('\x08', rest)
  | 'f' :: rest => some ('\x0c', rest)
  | 'n' :: rest => some ('\n', rest)
  | 'r' :: rest => some ('\r', rest)
  | 't' :: rest => some ('\t', rest)
  | 'u' :: rest => unicodeChar rest
  | _ => none

/-- One character of a string. -/
def stringChar : Parser Char
  | '\\' :: rest => escapedChar rest
  | c :: rest => if c = '"' || c.toNat < 0x20 then none else some (c, rest)
  | [] => none

/-- A string with its quotes. -/
def stringLiteral : Parser String :=
  map String.ofList (between (char '"') (char '"') (many stringChar))

/-- One character of a string that is skipped, where a `\u` escape may be any four digits. -/
def skippedChar : Parser Unit
  | '\\' :: 'u' :: rest => map (fun _ => ()) hexWord rest
  | cs => map (fun _ => ()) stringChar cs

/-- A string that is skipped. -/
def skippedString : Parser Unit :=
  map (fun _ => ()) (between (char '"') (char '"') (many skippedChar))

/-- The greatest word of 64 bits. -/
def maxWord : Nat := 2 ^ 64 - 1

/-- Digits read into a word of 64 bits: the word, and how many digits found no room in it. -/
def readWord (word : Nat) : List Char → Nat × Nat
  | [] => (word, 0)
  | c :: cs =>
    let next := 10 * word + (c.toNat - 48)
    if next ≤ maxWord then readWord next cs else (word, cs.length + 1)

/-- The double of `word · 10 ^ scale` by one multiplication or division with a power of ten; a
scale too small for one power is reached in steps of 308. Fails beyond the largest double. -/
def scaleWord (word : Nat) (scale : Int) : Option Float :=
  let power (n : Nat) : Float := Decimal.nearest 1 n
  if word = 0 then some 0.0
  else if 308 < scale then none
  else if 0 ≤ scale then
    let x := Float.ofNat word * power scale.toNat
    if Decimal.isFinite x then some x else none
  else
    let steps := ((-scale).toNat - 1) / 308
    -- three steps bring every word of 64 bits to 0
    let x := (List.replicate (min steps 3) (power 308)).foldl (· / ·) (Float.ofNat word)
    if steps > 3 then some 0.0
    else some (x / power ((-scale).toNat - 308 * steps))

/-- The parts of a number as it is written. -/
structure NumberParts where
  negative : Bool
  whole : List Char
  fraction? : Option (List Char)
  exponent? : Option Int

/-- The number that the parts make, unless it lies beyond the doubles. -/
def NumberParts.number? (p : NumberParts) : Option Number :=
  let sign (x : Float) : Number := .float (if p.negative then -x else x)
  let (word, dropped) := readWord 0 p.whole
  match p.fraction?, p.exponent? with
  | none, none =>
    if dropped = 0 then
      if !p.negative then some (.int word)
      else if 0 < word && word ≤ 2 ^ 63 then some (.int (-word))
      else some (sign (Float.ofNat word))
    else (scaleWord word dropped).map sign
  | _, _ =>
    let digits := p.fraction?.getD []
    let (word, behind) := readWord word digits
    let scale := dropped - ((digits.length - behind : Nat) : Int) + p.exponent?.getD 0
    (scaleWord word scale).map sign

/-- One or more decimal digits. -/
def digits : Parser (List Char) := fun cs =>
  match cs.span Char.isDigit with
  | ([], _) => none
  | r => some r

/-- The digits of a whole part: a single zero, or digits without a leading zero. -/
def wholeDigits : Parser (List Char)
  | '0' :: rest => if (rest.head?.map Char.isDigit).getD false then none else some (['0'], rest)
  | cs => digits cs

/-- An exponent with its mark. -/
def exponentPart : Parser Int :=
  skipLeft (satisfy fun c => c = 'e' || c = 'E') <|
    andThen (opt (satisfy fun c => c = '+' || c = '-')) fun sign =>
      map (fun ds => if sign = some '-' then -(Decimal.ofDigitChars ds : Int)
        else Decimal.ofDigitChars ds) digits

/-- What a part behind a mark gives: nothing where the mark is absent, and failure where the mark
stands and the part does not follow. -/
def marked {α : Type} (mark : Char → Bool) (p : Parser α) : Parser (Option α) := fun cs =>
  match cs with
  | c :: _ => if mark c then map some p cs else some (none, cs)
  | [] => some (none, cs)

/-- A number as it is written. -/
def numberParts : Parser NumberParts :=
  andThen (opt (char '-')) fun minus =>
  andThen wholeDigits fun whole =>
  andThen (marked (· = '.') (skipLeft (char '.') digits)) fun fraction? =>
  map (fun exponent? => ⟨minus.isSome, whole, fraction?, exponent?⟩)
    (marked (fun c => c = 'e' || c = 'E') exponentPart)

/-- A number. -/
def numberLiteral : Parser Number := filterMap NumberParts.number? numberParts

/-- Items behind the first `place` ones of a list, each with a comma before it; at most `n`. -/
def moreItems {α : Type} (item : Nat → Parser α) : Nat → Nat → Parser (List α)
  | 0, _, cs => some ([], cs)
  | n + 1, place, cs =>
    match skipLeft (token (char ',')) (item place) cs with
    | none => some ([], cs)
    | some (a, rest) => map (a :: ·) (moreItems item n (place + 1)) rest

/-- Items in brackets with commas between them; the parser of an item may depend on its place. -/
def listOf {α : Type} (left right : Char) (item : Nat → Parser α) : Parser (List α) := fun cs =>
  match token (char left) cs with
  | none => none
  | some (_, rest) =>
    match token (char right) rest with
    | some (_, rest) => some ([], rest)
    | none =>
      skipRight (andThen (item 0) fun a => map (a :: ·) (moreItems item rest.length 1))
        (token (char right)) rest

/-- A value that is skipped, whose lists and records nest at most to the given depth. -/
def skippedValue : Nat → Parser Unit
  | 0, _ => none
  | depth + 1, cs => cs |> (token <| choice [
      literal ['n', 'u', 'l', 'l'],
      literal ['t', 'r', 'u', 'e'],
      literal ['f', 'a', 'l', 's', 'e'],
      skippedString,
      map (fun _ => ()) numberParts,
      map (fun _ => ()) (listOf '[' ']' fun _ => skippedValue depth),
      map (fun _ => ()) (listOf '\x7b' '\x7d' fun _ =>
        skipLeft (skipRight (token skippedString) (token (char ':'))) (skippedValue depth))])

/-- The part of a value that an outline covers; its lists and records nest at most to the given
depth. -/
def jsonValue : Nat → Outline → Parser Value
  | 0, _, _ => none
  | depth + 1, outline, cs => cs |> (token <| choice [
      map (fun _ => .null) (literal ['n', 'u', 'l', 'l']),
      map (fun _ => .bool true) (literal ['t', 'r', 'u', 'e']),
      map (fun _ => .bool false) (literal ['f', 'a', 'l', 's', 'e']),
      map .str stringLiteral,
      map .num numberLiteral,
      map .arr (listOf '[' ']' fun place => jsonValue depth (outline.item place)),
      map (fun fields => .obj (fields.filterMap id)) (listOf '\x7b' '\x7d' fun _ =>
        andThen (skipRight (token stringLiteral) (token (char ':'))) fun name =>
          match outline.field? name with
          | some inner => map (fun v => some (name, v)) (jsonValue depth inner)
          | none => map (fun _ => none) (skippedValue depth))])

/-- The part of the value that a JSON text spells which an outline covers. Blanks may stand around
the text. -/
def ofJsonAlong? (outline : Outline) (s : String) : Option Value :=
  let cs := s.toList
  run (skipRight (jsonValue (cs.length + 1) outline) (token endOfInput)) cs

/-- The value that a JSON text spells, with the fields of records as written. -/
def ofJson? (s : String) : Option Value := ofJsonAlong? .whole s

end Value

end WidgetFlow
