import Phrasebook.Error
import Phrasebook.Lexer.Basic
import Phrasebook.Text.Blank

/-!
# References between delimiters

A reference is the opening delimiter, one or more characters that occur in neither delimiter, and
the closing delimiter. The name is what stands between the delimiters; if the delimiters trim, the
blanks around it do not count.
-/

namespace Phrasebook

/-- Two texts that enclose the name in a reference. -/
structure Delimiters where
  opening : String
  closing : String
  /-- Whether the blanks around a name are taken off. -/
  trims : Bool
  opening_ne : opening ≠ ""
  closing_ne : closing ≠ ""

namespace Delimiters

/-- The delimiters, unless one is empty. -/
def create (opening closing : String) (trims : Bool) : Except Error Delimiters :=
  if h : opening ≠ "" ∧ closing ≠ "" then
    .ok ⟨opening, closing, trims, h.1, h.2⟩
  else .error (.emptyDelimiter opening closing)

/-- Braces, without trimming. -/
def braces : Delimiters := ⟨"\x7b", "\x7d", false, by decide, by decide⟩

/-- Whether the character may stand in a name: it occurs in neither delimiter. -/
def allows (d : Delimiters) (c : Char) : Bool :=
  !d.opening.toList.contains c && !d.closing.toList.contains c

/-- The length of the reference whose text after the opening delimiter starts here, zero if it is no
reference. -/
def lengthAfter (d : Delimiters) (cs : List Char) : Nat :=
  let name := cs.takeWhile d.allows
  if !name.isEmpty && d.closing.toList.isPrefixOf (cs.dropWhile d.allows) then
    d.opening.length + name.length + d.closing.length
  else 0

/-- The length of the reference at the start of a text, zero if there is none. -/
def lengthAt (d : Delimiters) (cs : List Char) : Nat :=
  if d.opening.toList.isPrefixOf cs then d.lengthAfter (cs.drop d.opening.length) else 0

/-- What stands between the delimiters; a text that they do not enclose stays whole. -/
def inner (d : Delimiters) (raw : List Char) : List Char :=
  let opening := d.opening.toList
  let closing := d.closing.toList
  let rest := raw.drop opening.length
  if opening.isPrefixOf raw && closing.isSuffixOf rest then
    rest.take (rest.length - closing.length)
  else raw

/-- The name in a reference. -/
def extract (d : Delimiters) (raw : List Char) : List Char :=
  if d.trims then Text.trimChars (d.inner raw) else d.inner raw

/-- The lexer of the references between these delimiters. -/
def lexer (d : Delimiters) : Lexer where
  scan := Scan.ofMatches d.lengthAt
  chars_scan := Scan.chars_ofMatches d.lengthAt
  extract := d.extract

end Delimiters

end Phrasebook
