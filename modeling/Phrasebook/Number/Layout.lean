import Phrasebook.Number.Shortest

/-!
# How a number is laid out

A `Layout` says how a finite number is written: which exponents stay in positional notation, whether
a whole number keeps its point, and how equally near digits are told apart. `Layout.plain` never
uses an exponent, `Layout.json` is the notation of JSON documents.
-/

namespace Phrasebook

/-- The decisions of a number notation. The exponents are those of the first digit. -/
structure Layout where
  tie : Decimal.Tie
  positional : Int → Bool
  keepsPoint : Bool

namespace Layout

/-- Positional for every number; a whole number has no point. -/
def plain : Layout := ⟨.up, fun _ => true, false⟩

/-- Positional from `0.00001` up to sixteen digits, and always with a point. -/
def json : Layout := ⟨.even, fun e => -5 ≤ e && e ≤ 15, true⟩

/-- The digits of a decimal. -/
def digitsOf (n : Nat) : List Char := Nat.toDigits 10 n

/-- The decimal in positional notation. -/
def fixed (keepsPoint : Bool) (d : Decimal) : List Char :=
  let digits := digitsOf d.digits
  match d.exponent with
  | .ofNat e =>
    digits ++ List.replicate e '0' ++ if keepsPoint then ['.', '0'] else []
  | .negSucc e =>
    let places := e + 1
    if places < digits.length then
      digits.take (digits.length - places) ++ '.' :: digits.drop (digits.length - places)
    else ['0', '.'] ++ List.replicate (places - digits.length) '0' ++ digits

/-- The decimal with one digit before the point and a power of ten. -/
def scientific (d : Decimal) : List Char :=
  let digits := digitsOf d.digits
  let e : Int := d.exponent + digits.length - 1
  let sign := if e < 0 then '-' else '+'
  digits.take 1 ++ (if digits.length = 1 then [] else '.' :: digits.drop 1)
    ++ ['e', sign] ++ digitsOf e.natAbs

/-- A finite number in this notation; a zero keeps its sign. -/
def write (layout : Layout) (negative : Bool) (mantissa : Nat) (exponent : Int) : String :=
  let d := if mantissa = 0 then ⟨0, 0⟩ else Decimal.shortest layout.tie mantissa exponent
  let leading : Int := d.exponent + (digitsOf d.digits).length - 1
  let unsigned := if layout.positional leading then fixed layout.keepsPoint d else scientific d
  String.ofList (if negative then '-' :: unsigned else unsigned)

end Layout

/-- The number in plain notation. -/
def Binary64.text : Binary64 → String
  | .finite negative m e => Layout.plain.write negative m e
  | .infinite negative => if negative then "-inf" else "inf"
  | .nan => "NaN"

end Phrasebook
