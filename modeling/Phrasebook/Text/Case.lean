import Phrasebook.Text.CaseTable

/-!
# Small letters

`lowercase` maps every capital of a text to its small form. Two characters need more than a table:
`İ` becomes an `i` and a combining dot, and a capital sigma that ends a word becomes `ς`.
-/

namespace Phrasebook.Text

/-- Whether the character is a letter with case. -/
def isCased (c : Char) : Bool :=
  if c.toNat < 128 then c.isAlpha else cased.contains c.toNat

/-- Whether case ignores the character, as it does an apostrophe or an accent. -/
def isCaseIgnorable (c : Char) : Bool :=
  if c.toNat < 128 then c == '\'' || c == '.' || c == ':' || c == '^' || c.toNat == 0x60
  else caseIgnorable.contains c.toNat

/-- Whether the first character that case does not ignore is a letter with case. -/
def leadsCased (cs : List Char) : Bool :=
  match cs.dropWhile isCaseIgnorable with
  | c :: _ => isCased c
  | [] => false

/-- The small form of a character that stands alone. -/
def smallForm (c : Char) : List Char :=
  if c.toNat < 128 then [c.toLower]
  else if c = 'İ' then ['i', '\u0307']
  else match smallForms.findSome? (·.small? c.toNat) with
    | some small => [Char.ofNat small]
    | none => [c]

/-- The lowercase form of the characters that follow those of `before`, given last first. -/
def lowercaseAfter (before : List Char) : List Char → List Char
  | [] => []
  | c :: rest =>
    let small :=
      if c = 'Σ' then if leadsCased before && !leadsCased rest then ['ς'] else ['σ']
      else smallForm c
    small ++ lowercaseAfter (c :: before) rest

/-- The text in small letters. -/
def lowercase (text : String) : String := String.ofList (lowercaseAfter [] text.toList)

end Phrasebook.Text
