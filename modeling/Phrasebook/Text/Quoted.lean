import Phrasebook.Text.PrintTable

/-!
# Quoted text

`quote` shows a text between double quotes, unambiguously and in printing characters only. Quotes
and backslashes are escaped, the common control characters have short escapes, and everything else
that does not print by itself is written as its code point.
-/

namespace Phrasebook.Text

/-- Whether the character shows by itself. -/
def isPrintable (c : Char) : Bool :=
  32 ≤ c.toNat && !unprintable.contains c.toNat && !attached.contains c.toNat

/-- The number in lowercase hexadecimal digits. -/
def hexadecimal (n : Nat) : List Char := Nat.toDigits 16 n

/-- A character of quoted text. -/
def escapeChar (c : Char) : List Char :=
  match c with
  | '\x00' => ['\\', '0']
  | '\t' => ['\\', 't']
  | '\n' => ['\\', 'n']
  | '\r' => ['\\', 'r']
  | '"' => ['\\', '"']
  | '\\' => ['\\', '\\']
  | c => if isPrintable c then [c] else ['\\', 'u', '\x7b'] ++ hexadecimal c.toNat ++ ['\x7d']

/-- The text in double quotes, with its special characters escaped. -/
def quote (text : String) : String :=
  "\"" ++ String.ofList (text.toList.flatMap escapeChar) ++ "\""

end Phrasebook.Text
