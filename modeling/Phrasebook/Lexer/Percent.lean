import Phrasebook.Lexer.Basic

/-!
# References with a percent sign

A reference is a percent sign and the small ASCII letters that follow it; the letters are the name.
A percent sign alone names nothing.
-/

namespace Phrasebook.Lexer

/-- The length of the reference at the start of a text, zero if there is none. -/
def percentLengthAt : List Char → Nat
  | '%' :: rest => (rest.takeWhile Char.isLower).length + 1
  | _ => 0

/-- The lexer of references with a percent sign. -/
def percent : Lexer where
  scan := Scan.ofMatches percentLengthAt
  chars_scan := Scan.chars_ofMatches percentLengthAt
  extract := List.drop 1

end Phrasebook.Lexer
