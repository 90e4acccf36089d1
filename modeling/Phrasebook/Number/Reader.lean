import Phrasebook.Number.Binary64

/-!
# Reading numbers

`Integer.read?` reads a signed decimal integer, `Binary64.read?` a number in decimal or exponent
notation or one of the names of the numbers that have no digits. Both take the whole text or
nothing.
-/

namespace Phrasebook

/-- The value of decimal digits after `value`. -/
def Digits.value (value : Nat) (digits : List Char) : Nat :=
  digits.foldl (fun n c => 10 * n + (c.toNat - 48)) value

/-- The digits at the start, and what follows them. -/
def Digits.split (cs : List Char) : List Char × List Char :=
  (cs.takeWhile Char.isDigit, cs.dropWhile Char.isDigit)

/-- A sign at the start, if there is one: whether it is a minus, and what follows it. -/
def Digits.sign : List Char → Bool × List Char
  | '-' :: rest => (true, rest)
  | '+' :: rest => (false, rest)
  | cs => (false, cs)

/-- The signed integer that the whole text spells. -/
def Integer.read? (text : String) : Option Int :=
  let (negative, rest) := Digits.sign text.toList
  if rest.isEmpty || !rest.all Char.isDigit then none
  else
    let n : Int := Digits.value 0 rest
    some (if negative then -n else n)

/-- An exponent mark with its digits, or nothing at all. -/
def Digits.exponent? : List Char → Option Int
  | [] => some 0
  | mark :: rest =>
    if mark = 'e' ∨ mark = 'E' then
      let (negative, digits) := Digits.sign rest
      if digits.isEmpty || !digits.all Char.isDigit then none
      else
        let n : Int := Digits.value 0 digits
        some (if negative then -n else n)
    else none

/-- The number that the whole text spells, rounded to the nearest. -/
def Binary64.read? (text : String) : Option Binary64 :=
  let (negative, rest) := Digits.sign text.toList
  match String.ofList (rest.map Char.toLower) with
  | "inf" | "infinity" => some (.infinite negative)
  | "nan" => some .nan
  | _ =>
    let (whole, rest) := Digits.split rest
    let (fraction, rest) := match rest with
      | '.' :: rest => Digits.split rest
      | rest => ([], rest)
    if whole.isEmpty && fraction.isEmpty then none
    else (Digits.exponent? rest).map fun e =>
      .ofDecimal negative (Digits.value 0 (whole ++ fraction)) (e - fraction.length)

end Phrasebook
