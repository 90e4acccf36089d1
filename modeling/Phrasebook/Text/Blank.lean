import Phrasebook.Text.Ranges

/-!
# Blank characters

The characters with the property White_Space, and `trim`, which takes them off both ends of a
text.
-/

namespace Phrasebook.Text

/-- The characters with the property White_Space. -/
def blanks : Ranges := [
  (0x9, 0xd), (0x20, 0x20), (0x85, 0x85), (0xa0, 0xa0), (0x1680, 0x1680), (0x2000, 0x200a),
  (0x2028, 0x2029), (0x202f, 0x202f), (0x205f, 0x205f), (0x3000, 0x3000)]

/-- Whether the character is white space. -/
def isBlank (c : Char) : Bool := blanks.contains c.toNat

/-- The characters without the blanks at their end. -/
def dropBlankEnd (cs : List Char) : List Char := (cs.reverse.dropWhile isBlank).reverse

/-- The characters without the blanks at either end. -/
def trimChars (cs : List Char) : List Char := dropBlankEnd (cs.dropWhile isBlank)

/-- The text without the blanks at either end. -/
def trim (text : String) : String := String.ofList (trimChars text.toList)

@[simp] theorem toList_trim (text : String) : (trim text).toList = trimChars text.toList := by
  simp [trim]

end Phrasebook.Text
