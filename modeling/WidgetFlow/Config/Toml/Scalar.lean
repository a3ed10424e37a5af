import WidgetFlow.Config.Toml.Lexeme

/-!
# Numbers and dates of TOML

A number is a whole number of at most 128 bits in one of four bases, or a double. Single underscores
may stand between digits.

A date, a time of day or both together is a value of its own kind. As there is no such kind among
the values, it is a record with one field that holds its text in one form: with seconds, with the
letters `T` and `Z` in upper case, and with a fraction of at most nine digits that does not end in
zero.
-/

namespace WidgetFlow.Toml

open WidgetFlow.Parser

/-- Digits of a base with single underscores between them, as a number; the digits are given too. -/
def digitsOf (isDigit : Char → Bool) : Parser (List Char) := fun cs =>
  let run := cs.takeWhile fun c => isDigit c || c = '_'
  let pieces := run.splitBy fun a b => (a = '_') = (b = '_')
  let sound := run.head? ≠ some '_' && run.getLast? ≠ some '_' && !run.isEmpty &&
    pieces.all fun p => p.head? ≠ some '_' || p.length = 1
  if sound then some (run.filter (· != '_'), cs.drop run.length) else none

/-- A sign, or none: whether it is a minus. -/
def signPart : Parser Bool
  | '-' :: rest => some (true, rest)
  | '+' :: rest => some (false, rest)
  | cs => some (false, cs)

/-- A whole number with a prefix for its base. -/
def prefixed : Parser Value := fun cs =>
  let based (base : Nat) (rest : List Char) (test : Char → Bool) : Option (Value × List Char) :=
    filterMap (fun ds =>
      let n := ds.foldl (fun n d => n * base + (Text.hexDigit? d).getD 0) 0
      if n < 2 ^ 128 then some (.ofNat n) else none) (digitsOf test) rest
  match cs with
  | '0' :: 'x' :: rest => based 16 rest fun c => (Text.hexDigit? c).isSome
  | '0' :: 'o' :: rest => based 8 rest fun c => '0' ≤ c && c ≤ '7'
  | '0' :: 'b' :: rest => based 2 rest fun c => c = '0' || c = '1'
  | _ => none

/-- The decimal digits of a whole part: no leading zero unless it is the only digit. -/
def wholePart : Parser (List Char) :=
  filterMap (fun ds => if ds.head? = some '0' && ds.length ≠ 1 then none else some ds)
    (digitsOf Char.isDigit)

/-- An exponent with its mark. -/
def exponentPart : Parser Int :=
  skipLeft (satisfy fun c => c = 'e' || c = 'E') <|
    andThen signPart fun minus =>
      map (fun ds => if minus then -(Decimal.ofDigitChars ds : Int) else Decimal.ofDigitChars ds)
        (digitsOf Char.isDigit)

/-- A decimal number: a whole number of 128 bits, or a double if it has a fraction or an exponent. A
number beyond the doubles is refused. -/
def decimalNumber : Parser Value :=
  andThen signPart fun minus =>
  andThen wholePart fun whole =>
  andThen (Value.marked (· = '.') (skipLeft (char '.') (digitsOf Char.isDigit))) fun fraction? =>
  filterMap (fun exponent? =>
      match fraction?, exponent? with
      | none, none =>
        let n := (Decimal.ofDigitChars whole : Int)
        let n := if minus then -n else n
        if -(2 ^ 127) ≤ n && n < 2 ^ 128 then some (.ofInt n) else none
      | _, _ =>
        let fraction := fraction?.getD []
        let x := Decimal.nearest (Decimal.ofDigitChars (whole ++ fraction))
          (exponent?.getD 0 - fraction.length)
        if Decimal.isFinite x then some (.num (.float (if minus then -x else x))) else none)
    (Value.marked (fun c => c = 'e' || c = 'E') exponentPart)

/-- An infinity or a NaN. -/
def specialNumber : Parser Value :=
  andThen signPart fun minus =>
  let infinity : Float := if minus then -1.0 / 0.0 else 1.0 / 0.0
  choice [
    map (fun _ => .num (.float infinity)) (literal ['i', 'n', 'f']),
    map (fun _ => .num (.float (0.0 / 0.0))) (literal ['n', 'a', 'n'])]

/-- A run of digits of a given length whose number passes a test. -/
def digitField (length : Nat) (test : Nat → Bool) : Parser (List Char) := fun cs =>
  let (digits, rest) := cs.span Char.isDigit
  if digits.length = length && test (Decimal.ofDigitChars digits) then some (digits, rest) else none

/-- How many days a month has. -/
def daysIn (year month : Nat) : Nat :=
  if month = 2 then
    if year % 4 = 0 && (year % 100 ≠ 0 || year % 400 = 0) then 29 else 28
  else if [4, 6, 9, 11].contains month then 30
  else 31

/-- The text of a day of the calendar. -/
def date : Parser (List Char) :=
  andThen (digitField 4 fun _ => true) fun year =>
  andThen (skipLeft (char '-') (digitField 2 fun n => 1 ≤ n && n ≤ 12)) fun month =>
  let days := daysIn (Decimal.ofDigitChars year) (Decimal.ofDigitChars month)
  map (fun day => year ++ '-' :: month ++ '-' :: day)
    (skipLeft (char '-') (digitField 2 fun n => 1 ≤ n && n ≤ days))

/-- The text of a fraction of a second, to nine digits and without zeros at its end. -/
def fractionText (digits : List Char) : List Char :=
  match ((digits.take 9).reverse.dropWhile (· = '0')).reverse with
  | [] => []
  | digits => '.' :: digits

/-- The text of a time of day, whose seconds may be missing. -/
def timeOfDay : Parser (List Char) :=
  andThen (digitField 2 (· ≤ 23)) fun hour =>
  andThen (skipLeft (char ':') (digitField 2 (· ≤ 59))) fun minute =>
  let seconds : Parser (List Char) :=
    skipLeft (char ':') <| andThen (digitField 2 (· ≤ 60)) fun second =>
      map (fun digits? => second ++ fractionText (digits?.getD []))
        (Value.marked (· = '.') (skipLeft (char '.') Value.digits))
  map (fun seconds? => hour ++ ':' :: minute ++ ':' :: seconds?.getD ['0', '0'])
    (Value.marked (· = ':') seconds)

/-- The text of an offset from universal time, or nothing. -/
def offset : Parser (List Char)
  | 'Z' :: rest => some (['Z'], rest)
  | 'z' :: rest => some (['Z'], rest)
  | cs =>
    let distance : Parser (List Char) :=
      andThen (satisfy fun c => c = '+' || c = '-') fun sign =>
      andThen (digitField 2 (· ≤ 23)) fun hours =>
      map (fun minutes =>
          let none := hours ++ minutes = ['0', '0', '0', '0']
          (if none then '+' else sign) :: hours ++ ':' :: minutes)
        (skipLeft (char ':') (digitField 2 (· ≤ 59)))
    map (·.getD []) (Value.marked (fun c => c = '+' || c = '-') distance) cs

/-- The name of the field that holds the text of a date. -/
def dateField : String := "$__toml_private_datetime"

/-- A date, perhaps with a time of day and an offset, or a time of day alone. -/
def dateTime : Parser Value :=
  let behindDate : Parser (List Char) :=
    skipLeft (satisfy fun c => c = 'T' || c = 't' || c = ' ')
      (map (fun (time, distance) => 'T' :: time ++ distance) (pair timeOfDay offset))
  map (fun text => .obj [(dateField, .str (String.ofList text))]) <| orElse
    (andThen date fun day => map (fun time? => day ++ time?.getD []) (opt behindDate))
    timeOfDay

/-- A value without parts. -/
def scalar : Parser Value := choice [
  map (fun _ => .bool true) (literal ['t', 'r', 'u', 'e']),
  map (fun _ => .bool false) (literal ['f', 'a', 'l', 's', 'e']),
  map .str string,
  dateTime, prefixed, decimalNumber, specialNumber]

end WidgetFlow.Toml
