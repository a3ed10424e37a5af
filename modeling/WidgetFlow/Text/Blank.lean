import WidgetFlow.Text.CharRange

/-!
# Blank characters

Blank characters are those with the property White_Space. Tags, selectors and numbers in text
are trimmed of them, and the handler language skips them between its tokens.
-/

namespace WidgetFlow.Text

/-- The code points with the property White_Space. -/
def blankRanges : List (Nat × Nat) :=
  [(0x9, 0xD), (0x20, 0x20), (0x85, 0x85), (0xA0, 0xA0), (0x1680, 0x1680), (0x2000, 0x200A),
   (0x2028, 0x2029), (0x202F, 0x202F), (0x205F, 0x205F), (0x3000, 0x3000)]

/-- Whether a character is blank. -/
def isBlank (c : Char) : Bool := inRanges c.toNat blankRanges

/-- The characters without the blanks in front of them. -/
def skipBlanks (cs : List Char) : List Char := cs.dropWhile isBlank

/-- The characters without the blanks in front of them and after them. -/
def trimChars (cs : List Char) : List Char := (skipBlanks (skipBlanks cs).reverse).reverse

/-- Text without the blanks around it. -/
def trim (s : String) : String := String.ofList (trimChars s.toList)

end WidgetFlow.Text
