/-!
# Numbers with 53 significant bits

`Binary64` is the number format of 64 bits, as a sign, a mantissa and a power of two. `ofRatio`
rounds a quotient to the nearest number of the format, a tie going to the even mantissa, and
`ofDecimal` reads `digits · 10 ^ exponent` that way. All of it is arithmetic on `Nat` and `Int`.
-/

namespace Phrasebook

/-- A number of the 64 bit format: `mantissa · 2 ^ exponent` with its sign, an infinity, or no
number. The exponent is at least -1074 and at most 971, the mantissa is below `2 ^ 53`, and it is at
least `2 ^ 52` unless the exponent is the least. -/
inductive Binary64 where
  | finite (negative : Bool) (mantissa : Nat) (exponent : Int)
  | infinite (negative : Bool)
  | nan
  deriving DecidableEq, Inhabited

namespace Binary64

/-- The least exponent. -/
def minExponent : Int := -1074

/-- The greatest exponent of a finite number. -/
def maxExponent : Int := 971

/-- Zero with a sign. -/
def zero (negative : Bool) : Binary64 := .finite negative 0 minExponent

/-- The quotient `num / den · 2 ^ (-exponent)` as a pair. -/
def scale (num den : Nat) : Int → Nat × Nat
  | .ofNat e => (num, den <<< e)
  | .negSucc e => (num <<< (e + 1), den)

/-- The integer nearest to `num / den`; a tie goes to the even one. -/
def roundDiv (num den : Nat) : Nat :=
  let q := num / den
  let r := num % den
  if 2 * r < den then q
  else if den < 2 * r then q + 1
  else q + q % 2

/-- The number with this mantissa, which may be `2 ^ 53`; too large an exponent is an infinity. -/
def ofRounded (negative : Bool) (mantissa : Nat) (exponent : Int) : Binary64 :=
  let (m, e) :=
    if mantissa = 0x20000000000000 then (0x10000000000000, exponent + 1) else (mantissa, exponent)
  if maxExponent < e then .infinite negative else .finite negative m e

/-- The number nearest to `num / den`, for a `den` that is not zero. -/
def ofRatio (negative : Bool) (num den : Nat) : Binary64 :=
  if num = 0 then zero negative
  else
    let guess := max ((num.log2 : Int) - den.log2 - 53) minExponent
    let (n, d) := scale num den guess
    if n / d < 0x20000000000000 then ofRounded negative (roundDiv n d) guess
    else
      let (n, d) := scale num den (guess + 1)
      ofRounded negative (roundDiv n d) (guess + 1)

/-- How many decimal digits the number has; none for zero. -/
def digitCount (n : Nat) : Nat := if n = 0 then 0 else (Nat.toDigits 10 n).length

/-- The number nearest to `digits · 10 ^ exponent`. -/
def ofDecimal (negative : Bool) (digits : Nat) (exponent : Int) : Binary64 :=
  let magnitude := exponent + digitCount digits
  if digits = 0 ∨ magnitude < -400 then zero negative
  else if 400 < magnitude then .infinite negative
  else match exponent with
    | .ofNat e => ofRatio negative (digits * Nat.pow 10 e) 1
    | .negSucc e => ofRatio negative digits (Nat.pow 10 (e + 1))

/-- The integer as a number of the format, rounded to the nearest. -/
def ofInt (n : Int) : Binary64 := ofRatio (n < 0) n.natAbs 1

/-- Whether the number is zero, of either sign. -/
def isZero : Binary64 → Bool
  | .finite _ m _ => m == 0
  | _ => false

/-- Whether the number is infinite. -/
def isInfinite : Binary64 → Bool
  | .infinite _ => true
  | _ => false

/-- `m · 2 ^ e` as a quotient. -/
def ratio (m : Nat) (e : Int) : Nat × Nat := scale m 1 (-e)

end Binary64

end Phrasebook
