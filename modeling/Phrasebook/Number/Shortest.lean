import Phrasebook.Number.Binary64

/-!
# The shortest decimal that reads back

Every decimal in a certain interval around a finite number rounds back to it. `shortest` finds the
one with the fewest digits and, of these, the nearest to the number: for one digit, two digits and
so on it tries the two neighbours of the number on the grid of decimals with that many digits.
-/

namespace Phrasebook

/-- The decimal number `digits · 10 ^ exponent`. -/
structure Decimal where
  digits : Nat
  exponent : Int
  deriving DecidableEq, Inhabited

namespace Decimal

/-- What to do when two decimals of the same length are equally near. -/
inductive Tie where
  | up
  | even
  deriving DecidableEq

/-- The decimal without the zeros at its end. -/
def stripZeros (fuel : Nat) (d : Decimal) : Decimal :=
  match fuel with
  | 0 => d
  | fuel + 1 =>
    if d.digits ≠ 0 ∧ d.digits % 10 = 0 then stripZeros fuel ⟨d.digits / 10, d.exponent + 1⟩ else d

/-- The interval of decimals that round to `mantissa · 2 ^ exponent`, in quarters of
`2 ^ exponent`. -/
structure Interval where
  low : Nat
  value : Nat
  high : Nat
  closed : Bool
  unitNum : Nat
  unitDen : Nat

/-- The interval of a finite number. Below a power of two the numbers lie twice as dense. -/
def Interval.of (mantissa : Nat) (exponent : Int) : Interval :=
  let below := if mantissa = 0x10000000000000 ∧ Binary64.minExponent < exponent then 1 else 2
  let unit := Binary64.ratio 1 (exponent - 2)
  { low := 4 * mantissa - below
    value := 4 * mantissa
    high := 4 * mantissa + 2
    closed := mantissa % 2 == 0
    unitNum := unit.1
    unitDen := unit.2 }

/-- The power `10 ^ k` as a quotient. -/
def power : Int → Nat × Nat
  | .ofNat k => (Nat.pow 10 k, 1)
  | .negSucc k => (1, Nat.pow 10 (k + 1))

/-- Whether `digits · 10 ^ k` rounds to the interval's number. -/
def Interval.holds (i : Interval) (digits : Nat) (k : Int) : Bool :=
  let (c, d) := power k
  let x := digits * c * i.unitDen
  let low := i.low * i.unitNum * d
  let high := i.high * i.unitNum * d
  if i.closed then low ≤ x && x ≤ high else low < x && x < high

/-- The number of the interval, measured in `10 ^ k`, as a quotient. -/
def Interval.inUnits (i : Interval) (k : Int) : Nat × Nat :=
  let (c, d) := power k
  (i.value * i.unitNum * d, i.unitDen * c)

/-- The neighbour of the number on the grid of multiples of `10 ^ k` that reads back, if one does;
of two the nearer. -/
def Interval.onGrid? (i : Interval) (tie : Tie) (k : Int) : Option Decimal :=
  let (n, d) := i.inUnits k
  let below := n / d
  let above := below + 1
  let rest := 2 * (n % d)
  let down : Bool := rest < d || (rest == d && tie == .even && below % 2 == 0)
  match i.holds below k, i.holds above k with
  | true, true => some ⟨if down then below else above, k⟩
  | true, false => some ⟨below, k⟩
  | false, true => some ⟨above, k⟩
  | false, false => none

/-- How many digits the number of the interval has before its point; zero or less for a number
below one. `guess` is at most the answer. -/
def Interval.magnitude (i : Interval) (guess : Int) : Nat → Int
  | 0 => guess
  | fuel + 1 =>
    let (n, d) := i.inUnits guess
    if n < d then guess else i.magnitude (guess + 1) fuel

/-- The shortest decimal that reads back as `mantissa · 2 ^ exponent`, for a mantissa that is not
zero. Seventeen digits always do. -/
def shortest (tie : Tie) (mantissa : Nat) (exponent : Int) : Decimal :=
  let i := Interval.of mantissa exponent
  let bits : Int := mantissa.log2 + exponent
  let magnitude := i.magnitude (bits * 30103 / 100000 - 1) 6
  let found := (List.range 17).findSome? fun (n : Nat) => i.onGrid? tie (magnitude - (n + 1))
  (found.getD ⟨0, 0⟩).stripZeros 20

end Decimal

end Phrasebook
