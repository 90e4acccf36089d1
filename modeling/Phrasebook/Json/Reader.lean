import Phrasebook.Json.Basic
import Phrasebook.Number.Reader

/-!
# Reading JSON

`Json.read?` takes a whole document or nothing. Numbers without fraction and exponent that fit 64
bits stay exact, minus zero excepted; all others are rounded to the nearest double. A document with
a number beyond the range of doubles is refused.
-/

namespace Phrasebook.Json

/-- The greatest integer of 64 bits. -/
def maxUnsigned : Nat := 0xffffffffffffffff

/-- The deepest nesting of arrays and objects that is read. -/
def maxDepth : Nat := 127

/-- The rest after white space. -/
def skipSpace (cs : List Char) : List Char :=
  cs.dropWhile fun c => c == ' ' || c == '\n' || c == '\t' || c == '\r'

/-- The value of a hexadecimal digit. -/
def hexDigit? (c : Char) : Option Nat :=
  if '0' ≤ c ∧ c ≤ '9' then some (c.toNat - 48)
  else if 'a' ≤ c ∧ c ≤ 'f' then some (c.toNat - 87)
  else if 'A' ≤ c ∧ c ≤ 'F' then some (c.toNat - 55)
  else none

/-- Four hexadecimal digits and what follows them. -/
def hexUnit? : List Char → Option (Nat × List Char)
  | a :: b :: c :: d :: rest => do
    let a ← hexDigit? a
    let b ← hexDigit? b
    let c ← hexDigit? c
    let d ← hexDigit? d
    some (((a * 16 + b) * 16 + c) * 16 + d, rest)
  | _ => none

/-- The character of an escape after its backslash, and what follows it. A character beyond the
basic plane is written as two units. -/
def readEscape? : List Char → Option (Char × List Char)
  | '"' :: rest => some ('"', rest)
  | '\\' :: rest => some ('\\', rest)
  | '/' :: rest => some ('/', rest)
  | 'b' :: rest => some ('\x08', rest)
  | 'f' :: rest => some ('\x0c', rest)
  | 'n' :: rest => some ('\n', rest)
  | 'r' :: rest => some ('\r', rest)
  | 't' :: rest => some ('\t', rest)
  | 'u' :: rest => do
    let (unit, rest) ← hexUnit? rest
    if 0xd800 ≤ unit ∧ unit < 0xdc00 then
      match rest with
      | '\\' :: 'u' :: rest =>
        let (low, rest) ← hexUnit? rest
        if 0xdc00 ≤ low ∧ low < 0xe000 then
          some (Char.ofNat (0x10000 + (unit - 0xd800) * 0x400 + (low - 0xdc00)), rest)
        else none
      | _ => none
    else if 0xdc00 ≤ unit ∧ unit < 0xe000 then none
    else some (Char.ofNat unit, rest)
  | _ => none

/-- The rest of a string after its opening quote: the characters, last first, and what follows the
closing quote. -/
def readString? (fuel : Nat) (done : List Char) (cs : List Char) : Option (String × List Char) :=
  match fuel with
  | 0 => none
  | fuel + 1 =>
    match cs with
    | [] => none
    | '"' :: rest => some (String.ofList done.reverse, rest)
    | '\\' :: rest => do
      let (c, rest) ← readEscape? rest
      readString? fuel (c :: done) rest
    | c :: rest => if c.toNat < 32 then none else readString? fuel (c :: done) rest

/-- The digits after a point, if there is one, and what follows them. -/
def readFraction? : List Char → Option (List Char × List Char)
  | '.' :: rest =>
    let (digits, rest) := Digits.split rest
    if digits.isEmpty then none else some (digits, rest)
  | rest => some ([], rest)

/-- The exponent after its mark, if there is one, and what follows it. -/
def readExponent? : List Char → Option (Option Int × List Char)
  | [] => some (none, [])
  | mark :: rest =>
    if mark = 'e' ∨ mark = 'E' then
      let (negative, rest) := Digits.sign rest
      let (digits, rest) := Digits.split rest
      let n : Int := Digits.value 0 digits
      if digits.isEmpty then none else some (some (if negative then -n else n), rest)
    else some (none, mark :: rest)

/-- The number nearest to `digits · 10 ^ exponent`, unless it is too large. -/
def real? (negative : Bool) (digits : Nat) (exponent : Int) : Option Json :=
  let x := Binary64.ofDecimal negative digits exponent
  if x.isInfinite then none else some (.real x)

/-- A number without fraction and exponent, exactly if it fits 64 bits. -/
def whole? (negative : Bool) (n : Nat) : Option Json :=
  if !negative && n ≤ maxUnsigned then some (.int n)
  else if negative && n ≠ 0 && n ≤ 0x8000000000000000 then some (.int (-n))
  else real? negative n 0

/-- A number, and what follows it. -/
def readNumber? (cs : List Char) : Option (Json × List Char) := do
  let (negative, cs) : Bool × List Char := match cs with
    | '-' :: rest => (true, rest)
    | cs => (false, cs)
  let (whole, rest) := Digits.split cs
  if whole.isEmpty || (whole.head? == some '0' && 1 < whole.length) then none
  else
    let (fraction, rest) ← readFraction? rest
    let (exponent, rest) ← readExponent? rest
    let digits := Digits.value 0 (whole ++ fraction)
    let number ← match fraction, exponent with
      | [], none => whole? negative digits
      | fraction, exponent => real? negative digits (exponent.getD 0 - fraction.length)
    return (number, rest)

/-- The rest after a word that has to come next. -/
def expect? (word : List Char) (cs : List Char) : Option (List Char) :=
  if word.isPrefixOf cs then some (cs.drop word.length) else none

mutual

/-- A value with its leading white space skipped, and what follows it. -/
def readValue? (fuel depth : Nat) (cs : List Char) : Option (Json × List Char) :=
  match fuel with
  | 0 => none
  | fuel + 1 =>
    match skipSpace cs with
    | '"' :: rest => (readString? fuel [] rest).map fun (s, rest) => (.str s, rest)
    | '[' :: rest =>
      match depth with
      | 0 => none
      | depth + 1 =>
        match skipSpace rest with
        | ']' :: rest => some (.arr [], rest)
        | rest => (readElements? fuel depth rest).map fun (elements, rest) =>
            (.arr elements, rest)
    | '\x7b' :: rest =>
      match depth with
      | 0 => none
      | depth + 1 =>
        match skipSpace rest with
        | '\x7d' :: rest => some (.obj [], rest)
        | rest => (readMembers? fuel depth rest).map fun (members, rest) =>
            (ofMembers members, rest)
    | 't' :: rest => (expect? ['r', 'u', 'e'] rest).map fun rest => (.bool true, rest)
    | 'f' :: rest => (expect? ['a', 'l', 's', 'e'] rest).map fun rest => (.bool false, rest)
    | 'n' :: rest => (expect? ['u', 'l', 'l'] rest).map fun rest => (.null, rest)
    | rest => readNumber? rest

/-- The elements of an array up to its closing bracket. -/
def readElements? (fuel depth : Nat) (cs : List Char) : Option (List Json × List Char) :=
  match fuel with
  | 0 => none
  | fuel + 1 => do
    let (element, rest) ← readValue? fuel depth cs
    match skipSpace rest with
    | ',' :: rest =>
      let (elements, rest) ← readElements? fuel depth rest
      some (element :: elements, rest)
    | ']' :: rest => some ([element], rest)
    | _ => none

/-- The members of an object up to its closing brace. -/
def readMembers? (fuel depth : Nat) (cs : List Char) : Option (List (String × Json) × List Char) :=
  match fuel with
  | 0 => none
  | fuel + 1 =>
    match skipSpace cs with
    | '"' :: rest => do
      let (name, rest) ← readString? fuel [] rest
      match skipSpace rest with
      | ':' :: rest =>
        let (value, rest) ← readValue? fuel depth rest
        match skipSpace rest with
        | ',' :: rest =>
          let (members, rest) ← readMembers? fuel depth rest
          some ((name, value) :: members, rest)
        | '\x7d' :: rest => some ([(name, value)], rest)
        | _ => none
      | _ => none
    | _ => none

end

/-- The value that the whole document spells. Every call consumes a character or ends a container,
so twice the length is fuel enough. -/
def read? (document : String) : Option Json :=
  let cs := document.toList
  match readValue? (2 * cs.length + 2) maxDepth cs with
  | some (value, rest) => if (skipSpace rest).isEmpty then some value else none
  | none => none

end Phrasebook.Json
