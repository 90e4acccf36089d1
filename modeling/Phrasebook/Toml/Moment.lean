import Phrasebook.Number.Reader
import Phrasebook.Settings.Tree

/-!
# Dates and times of TOML

A date, a time or both, kept in their usual spelling. They stand in a document as they are, or as a
text in a table that is marked as a date: its first member has the name `dateName`, and what else it
holds does not count. `settle?` puts the dates in place of such tables.
-/

namespace Phrasebook.Toml

/-- A number of so many digits, and what follows it. -/
def digits? (count : Nat) (cs : List Char) : Option (Nat × List Char) :=
  let digits := cs.take count
  if digits.length = count ∧ digits.all Char.isDigit then
    some (Digits.value 0 digits, cs.drop count)
  else none

/-- The number in at least so many digits. -/
def padded (count n : Nat) : List Char :=
  let digits := Nat.toDigits 10 n
  List.replicate (count - digits.length) '0' ++ digits

/-- How many days the month has. -/
def daysIn (year month : Nat) : Nat :=
  match month with
  | 2 => if (year % 4 = 0 ∧ year % 100 ≠ 0) ∨ year % 400 = 0 then 29 else 28
  | 4 | 6 | 9 | 11 => 30
  | _ => 31

/-- A date at the start: its spelling, and what follows it. -/
def date? (cs : List Char) : Option (List Char × List Char) := do
  let (year, rest) ← digits? 4 cs
  let '-' :: rest := rest | none
  let (month, rest) ← digits? 2 rest
  let '-' :: rest := rest | none
  let (day, rest) ← digits? 2 rest
  if 1 ≤ month ∧ month ≤ 12 ∧ 1 ≤ day ∧ day ≤ daysIn year month then
    some (padded 4 year ++ '-' :: padded 2 month ++ '-' :: padded 2 day, rest)
  else none

/-- A fraction of a second, of which nine digits count. -/
def fraction? : List Char → Option (List Char × List Char)
  | '.' :: rest =>
    let (digits, rest) := Digits.split rest
    let shown := ((digits.take 9).reverse.dropWhile (· == '0')).reverse
    if digits.isEmpty then none
    else some (if shown.isEmpty then [] else '.' :: shown, rest)
  | rest => some ([], rest)

/-- A time at the start: its spelling, and what follows it. -/
def time? (cs : List Char) : Option (List Char × List Char) := do
  let (hour, rest) ← digits? 2 cs
  let ':' :: rest := rest | none
  let (minute, rest) ← digits? 2 rest
  let ':' :: rest := rest | none
  let (second, rest) ← digits? 2 rest
  let (fraction, rest) ← fraction? rest
  if hour ≤ 23 ∧ minute ≤ 59 ∧ second ≤ 60 then
    some (padded 2 hour ++ ':' :: padded 2 minute ++ ':' :: padded 2 second ++ fraction, rest)
  else none

/-- The distance to universal time, which may be left out. -/
def offset? (cs : List Char) : Option (List Char) :=
  match cs with
  | [] => some []
  | ['Z'] => some ['Z']
  | ['z'] => some ['Z']
  | sign :: rest => do
    let (hours, rest) ← digits? 2 rest
    let ':' :: rest := rest | none
    let (minutes, rest) ← digits? 2 rest
    if (sign = '+' ∨ sign = '-') ∧ rest.isEmpty ∧ hours ≤ 23 ∧ minutes ≤ 59 then
      let sign := if hours = 0 ∧ minutes = 0 then '+' else sign
      some (sign :: padded 2 hours ++ ':' :: padded 2 minutes)
    else none

/-- A date, a time or both. -/
def moment? (cs : List Char) : Option Tree := do
  let moment (cs : List Char) : Tree := .moment (String.ofList cs)
  match date? cs with
  | some (date, []) => return moment date
  | some (date, mark :: rest) =>
    if mark = 'T' ∨ mark = 't' ∨ mark = ' ' then
      let (time, rest) ← time? rest
      return moment (date ++ 'T' :: time ++ (← offset? rest))
    else none
  | none =>
    let (time, rest) ← time? cs
    if rest.isEmpty then return moment time else none

/-! ## Tables that are dates -/

/-- The name of the first member of a table that is a date. -/
def dateName : String := "$__toml_private_datetime"

mutual

/-- The tree with dates in place of the tables that are marked as dates; none if one of these spells
no date. -/
def settle? : Tree → Option Tree
  | .table members => settleTable? members
  | .list elements => do return .list (← settleElements? elements)
  | tree => some tree

/-- The table with these members, settled. -/
def settleTable? : List (String × Tree) → Option Tree
  | [] => some (.table [])
  | (name, value) :: rest =>
    if name = dateName then
      match value with
      | .text spelling => moment? spelling.toList
      | _ => none
    else do return .table ((name, ← settle? value) :: (← settleMembers? rest))

/-- The members of a table, each settled. -/
def settleMembers? : List (String × Tree) → Option (List (String × Tree))
  | [] => some []
  | (name, value) :: rest => do return (name, ← settle? value) :: (← settleMembers? rest)

/-- The elements of an array, each settled. -/
def settleElements? : List Tree → Option (List Tree)
  | [] => some []
  | element :: rest => do return (← settle? element) :: (← settleElements? rest)

end

end Phrasebook.Toml
