import Phrasebook.Toml.Moment

/-!
# Plain values of TOML

A value that is not a string or a container is one run of letters, digits and the signs `+ - . : _`:
a number, a truth value, or a date or time, which may go on after a space. Integers have 63 bits and
a sign.
-/

namespace Phrasebook.Toml

/-- Whether the character may stand in a plain value. -/
def isWordChar (c : Char) : Bool :=
  c.isAlphanum || c == '+' || c == '-' || c == '.' || c == ':' || c == '_'

/-- Digits without the underscores between them; each underscore has a digit on both sides. -/
def ungroup? (isDigit : Char → Bool) : List Char → Option (List Char)
  | [] => none
  | [c] => if isDigit c then some [c] else none
  | c :: '_' :: rest => if isDigit c then (ungroup? isDigit rest).map (c :: ·) else none
  | c :: rest => if isDigit c then (ungroup? isDigit rest).map (c :: ·) else none

/-- The digits of a whole number, which has no zero before other digits. -/
def wholeDigits? (cs : List Char) : Option (List Char) :=
  match cs with
  | '0' :: _ :: _ => none
  | cs => ungroup? Char.isDigit cs

/-- An integer of 64 bits as a tree. -/
def whole? (n : Int) : Option Tree :=
  if -0x8000000000000000 ≤ n ∧ n < 0x8000000000000000 then some (.whole n) else none

/-- The value of a digit of a higher base. -/
def digitValue (c : Char) : Nat :=
  if c.isDigit then c.toNat - 48 else if c.isLower then c.toNat - 87 else c.toNat - 55

/-- The number that digits of a base spell. -/
def inBase? (base : Nat) (isDigit : Char → Bool) (cs : List Char) : Option Tree := do
  let digits ← ungroup? isDigit cs
  whole? (digits.foldl (fun n c => base * n + digitValue c) 0 : Nat)

/-- An integer. -/
def integer? (cs : List Char) : Option Tree :=
  match cs with
  | '0' :: 'x' :: rest =>
    inBase? 16 (fun c => c.isDigit || ('a' ≤ c && c ≤ 'f') || ('A' ≤ c && c ≤ 'F')) rest
  | '0' :: 'o' :: rest => inBase? 8 (fun c => '0' ≤ c && c ≤ '7') rest
  | '0' :: 'b' :: rest => inBase? 2 (fun c => c == '0' || c == '1') rest
  | cs => do
    let (negative, rest) := Digits.sign cs
    let n : Int := Digits.value 0 (← wholeDigits? rest)
    whole? (if negative then -n else n)

/-- The exponent after its mark. -/
def exponent? (cs : List Char) : Option Int := do
  let (negative, rest) := Digits.sign cs
  let n : Int := Digits.value 0 (← ungroup? Char.isDigit rest)
  return if negative then -n else n

/-- A number with a point or an exponent. One that is too great is none. -/
def real? (cs : List Char) : Option Tree := do
  let (negative, rest) := Digits.sign cs
  match rest with
  | ['i', 'n', 'f'] => return .real (.infinite negative)
  | ['n', 'a', 'n'] => return .real .nan
  | rest =>
    let isDigit (c : Char) := c.isDigit || c == '_'
    let isMark (c : Char) := c == 'e' || c == 'E'
    let whole ← wholeDigits? (rest.takeWhile isDigit)
    let (fraction, tail) ← match rest.dropWhile isDigit with
      | '.' :: rest => do
        pure (← ungroup? Char.isDigit (rest.takeWhile isDigit), rest.dropWhile isDigit)
      | rest => if (rest.head?.map isMark).getD false then pure ([], rest) else none
    let e ← match tail with
      | [] => pure 0
      | mark :: tail => if isMark mark then exponent? tail else none
    let x := Binary64.ofDecimal negative (Digits.value 0 (whole ++ fraction)) (e - fraction.length)
    if x = .infinite false then none else return .real x

/-- The value that a run of characters spells. -/
def scalar? (cs : List Char) : Option Tree :=
  if cs = ['t', 'r', 'u', 'e'] then some (.flag true)
  else if cs = ['f', 'a', 'l', 's', 'e'] then some (.flag false)
  else (integer? cs).or ((real? cs).or (moment? cs))

/-- Whether a date ends here and a time follows after a space. -/
def continuesMoment (word rest : List Char) : Bool :=
  match date? word, rest with
  | some (_, []), ' ' :: a :: b :: ':' :: _ => a.isDigit && b.isDigit
  | _, _ => false

/-- A plain value at the start, and what follows it. -/
def readScalar? (cs : List Char) : Option (Tree × List Char) :=
  let word := cs.takeWhile isWordChar
  let rest := cs.dropWhile isWordChar
  if continuesMoment word rest then
    let time := (rest.drop 1).takeWhile isWordChar
    (moment? (word ++ ' ' :: time)).map (·, (rest.drop 1).dropWhile isWordChar)
  else (scalar? word).map (·, rest)

end Phrasebook.Toml
