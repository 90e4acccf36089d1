import Phrasebook.Json.Reader
import Phrasebook.Json.Writer

/-!
# TOML strings

The four forms of a string in TOML, read and written. A basic string has escapes and a literal
string has none; both come on one line or, between three quotes, as a block of several. `Form.choose`
picks the form in which a text is written: the plainest that needs no escape, as far as there is
one. `quoted` writes a text, `readQuoted?` reads one.
-/

namespace Phrasebook.Toml

/-- Whether the character may stand unescaped in a string or a comment. -/
def isPlain (c : Char) : Bool := c == '\t' || (32 ≤ c.toNat && c.toNat ≠ 127)

/-- Whether the character is a space or a tab. -/
def isSpace (c : Char) : Bool := c == ' ' || c == '\t'

/-! ## Reading -/

/-- The character with that code point, if there is one. -/
def charOf? (n : Nat) : Option Char := if n.isValidChar then some (Char.ofNat n) else none

/-- The number that hexadecimal digits spell. -/
def hexValue? (digits : List Char) : Option Nat :=
  digits.foldlM (fun n c => (Json.hexDigit? c).map (16 * n + ·)) 0

/-- The character of an escape with one letter. -/
def shortEscape? : Char → Option Char
  | 'b' => some '\x08'
  | 't' => some '\t'
  | 'n' => some '\n'
  | 'f' => some '\x0c'
  | 'r' => some '\r'
  | '"' => some '"'
  | '\\' => some '\\'
  | _ => none

/-- The character of the escape that follows a backslash, and the length of the escape. -/
def escape? : List Char → Option (Char × Nat)
  | 'u' :: a :: b :: c :: d :: _ => do
    return (← charOf? (← hexValue? [a, b, c, d]), 5)
  | 'U' :: a :: b :: c :: d :: e :: f :: g :: h :: _ => do
    return (← charOf? (← hexValue? [a, b, c, d, e, f, g, h]), 9)
  | c :: _ => (shortEscape? c).map (·, 1)
  | [] => none

/-- One more character before those that were read. -/
def prepend (c : Char) : Option (List Char × List Char) → Option (List Char × List Char)
  | some (cs, rest) => some (c :: cs, rest)
  | none => none

/-- A basic string after its opening quote: its characters, and what follows it. -/
def readBasic? : List Char → Option (List Char × List Char)
  | [] => none
  | '"' :: rest => some ([], rest)
  | '\\' :: rest =>
    match escape? rest with
    | some (c, n) => prepend c (readBasic? (rest.drop n))
    | none => none
  | c :: rest => if isPlain c then prepend c (readBasic? rest) else none
termination_by cs => cs.length
decreasing_by
  · simp only [List.length_drop, List.length_cons]; omega
  · simp only [List.length_cons]; omega

/-- A literal string after its opening quote: its characters, and what follows it. -/
def readLiteral? : List Char → Option (List Char × List Char)
  | [] => none
  | '\'' :: rest => some ([], rest)
  | c :: rest => if isPlain c then prepend c (readLiteral? rest) else none

/-- The end of a block after three of its closing quotes: up to two more belong to the text. -/
def closeBlock (quote : Char) (cs : List Char) : List Char × List Char :=
  let more := ((cs.take 2).takeWhile (· == quote)).length
  (List.replicate more quote, cs.drop more)

/-- Whether a backslash before these characters joins its line to the next. -/
def joinsLine (cs : List Char) : Bool :=
  match cs.dropWhile isSpace with
  | '\n' :: _ => true
  | '\r' :: '\n' :: _ => true
  | _ => false

/-- The rest after spaces and line breaks. -/
def skipLines : List Char → List Char
  | '\r' :: '\n' :: rest => skipLines rest
  | c :: rest => if isSpace c || c == '\n' then skipLines rest else c :: rest
  | [] => []

theorem length_skipLines_le (cs : List Char) : (skipLines cs).length ≤ cs.length := by
  fun_induction skipLines cs <;> simp_all <;> omega

/-- A block of a basic string after its opening quotes: its characters, and what follows it. -/
def readBlock? : List Char → Option (List Char × List Char)
  | [] => none
  | '"' :: '"' :: '"' :: rest => some (closeBlock '"' rest)
  | '\\' :: rest =>
    if joinsLine rest then readBlock? (skipLines rest)
    else match escape? rest with
      | some (c, n) => prepend c (readBlock? (rest.drop n))
      | none => none
  | '\r' :: '\n' :: rest => prepend '\n' (readBlock? rest)
  | c :: rest => if c == '\n' || isPlain c then prepend c (readBlock? rest) else none
termination_by cs => cs.length
decreasing_by
  · have := length_skipLines_le rest
    simp only [List.length_cons]; omega
  · simp only [List.length_drop, List.length_cons]; omega
  · simp only [List.length_cons]; omega
  · simp only [List.length_cons]; omega

/-- A block of a literal string after its opening quotes: its characters, and what follows it. -/
def readLiteralBlock? : List Char → Option (List Char × List Char)
  | [] => none
  | '\'' :: '\'' :: '\'' :: rest => some (closeBlock '\'' rest)
  | '\r' :: '\n' :: rest => prepend '\n' (readLiteralBlock? rest)
  | c :: rest => if c == '\n' || isPlain c then prepend c (readLiteralBlock? rest) else none

/-- The rest after a line break right at the start of a block. -/
def skipFirstBreak : List Char → List Char
  | '\n' :: rest => rest
  | '\r' :: '\n' :: rest => rest
  | cs => cs

/-- A string in one of its forms: its characters, and what follows it. -/
def readQuoted? : List Char → Option (List Char × List Char)
  | '"' :: '"' :: '"' :: rest => readBlock? (skipFirstBreak rest)
  | '"' :: rest => readBasic? rest
  | '\'' :: '\'' :: '\'' :: rest => readLiteralBlock? (skipFirstBreak rest)
  | '\'' :: rest => readLiteral? rest
  | _ => none

/-! ## Writing -/

/-- The longest run of a character. -/
def longestRun (x : Char) (cs : List Char) : Nat :=
  (cs.foldl (fun (best, run) c =>
    if c = x then (max best (run + 1), run + 1) else (best, 0)) (0, 0)).1

/-- Whether the character has to be written by its code in any form. -/
def isControl (c : Char) : Bool := c ≠ '\t' && c ≠ '\n' && (c.toNat < 32 || c.toNat = 127)

/-- The form of a written string. -/
inductive Form where
  | basic
  | literal
  | block
  | literalBlock
  deriving DecidableEq, Repr

/-- The form in which a text is written. -/
def Form.choose (cs : List Char) : Form :=
  let coded := cs.any isControl
  let escaped := cs.contains '\\'
  let lines := cs.contains '\n'
  if !coded && !escaped && !lines && longestRun '"' cs = 0 then .basic
  else if !coded && !lines && longestRun '\'' cs = 0 then .literal
  else if !coded && !escaped && longestRun '"' cs ≤ 2 then .block
  else if !coded && longestRun '\'' cs ≤ 2 then .literalBlock
  else if lines then .block
  else .basic

/-- The four capital hexadecimal digits of a number. -/
def codeDigits (n : Nat) : List Char := (Json.fourDigits n).map Char.toUpper

/-- A character other than a quote in a string that has escapes. -/
def escaped (breaks : Bool) (c : Char) : List Char :=
  match c with
  | '\x08' => ['\\', 'b']
  | '\t' => ['\\', 't']
  | '\n' => if breaks then ['\n'] else ['\\', 'n']
  | '\x0c' => ['\\', 'f']
  | '\r' => ['\\', 'r']
  | '\\' => ['\\', '\\']
  | c => if c.toNat < 32 || c.toNat = 127 then '\\' :: 'u' :: codeDigits c.toNat else [c]

/-- The characters of a string that has escapes; of quotes next to each other `room` may stand as
they are, `left` of them still. -/
def escapedText (breaks : Bool) (room left : Nat) : List Char → List Char
  | [] => []
  | '"' :: rest =>
    match left with
    | 0 => '\\' :: '"' :: escapedText breaks room room rest
    | left + 1 => '"' :: escapedText breaks room left rest
  | c :: rest => escaped breaks c ++ escapedText breaks room room rest

/-- The characters between the quotes of a block, which starts on a new line if it has several. -/
def blockText (cs body : List Char) : List Char :=
  if cs.contains '\n' then '\n' :: body else body

/-- The text as a string in a form. -/
def writeAs (form : Form) (cs : List Char) : List Char :=
  match form with
  | .basic => '"' :: escapedText false 0 0 cs ++ ['"']
  | .literal => '\'' :: cs ++ ['\'']
  | .block => ['"', '"', '"'] ++ blockText cs (escapedText true 2 2 cs) ++ ['"', '"', '"']
  | .literalBlock => ['\'', '\'', '\''] ++ blockText cs cs ++ ['\'', '\'', '\'']

/-- The text as a string. -/
def quoted (text : String) : String :=
  String.ofList (writeAs (.choose text.toList) text.toList)

end Phrasebook.Toml
