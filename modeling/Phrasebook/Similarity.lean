/-!
# How near a name is to another

`Similarity.score? choice pattern` is a score for names that contain the characters of the pattern
in order, higher for names that contain them closer together and at the starts of words; other names
have none. Letters are told apart by case only if the pattern has a capital.

`Similarity.nearest?` picks the name with the highest score, of several the smallest.
-/

namespace Phrasebook.Similarity

/-- What a character is in a name. -/
inductive CharClass where
  /-- No character: the start of the name. -/
  | none
  /-- A space, a slash or a bracket. -/
  | hard
  /-- Other punctuation. -/
  | soft
  | digit
  | capital
  | letter
  deriving DecidableEq

/-- The class of a character. -/
def classOf (c : Char) : CharClass :=
  let n := c.toNat
  if n = 0 then .none
  else if n = 0x20 || n = 0x2f || n = 0x5c || n = 0x7c || n = 0x28 || n = 0x29 || n = 0x5b
      || n = 0x5d || n = 0x7b || n = 0x7d then .hard
  else if (0x21 ≤ n && n ≤ 0x27) || (0x2a ≤ n && n ≤ 0x2e) || (0x3a ≤ n && n ≤ 0x40)
      || (0x5e ≤ n && n ≤ 0x60) || n = 0x7e then .soft
  else if 0x30 ≤ n && n ≤ 0x39 then .digit
  else if 0x41 ≤ n && n ≤ 0x5a then .capital
  else .letter

/-- What a match of a character earns by its place in the name. -/
def placeBonus (before here : CharClass) : Int :=
  match before, here with
  | .none, _ => 8
  | .hard, _ => 8
  | .soft, _ => 7
  | .letter, .capital => 6
  | .digit, .capital => 6
  | _, _ => 0

/-- The bonuses of the characters of a name; that of the first counts twice. -/
def placeBonuses (choice : List Char) : List Int :=
  let classes := choice.map classOf
  match List.zipWith placeBonus (.none :: classes) classes with
  | first :: rest => 2 * first :: rest
  | [] => []

/-- Whether two characters match. -/
def sameChar (byCase : Bool) (a b : Char) : Bool :=
  if byCase then a == b else a.toLower == b.toLower

/-- Where the characters of the pattern are first found, one after the other, from `place` on. -/
def firstPlaces? (byCase : Bool) (place : Nat) : List Char → List Char → Option (List Nat)
  | _, [] => some []
  | [], _ :: _ => none
  | c :: choice, p :: pattern =>
    if sameChar byCase c p then
      (firstPlaces? byCase (place + 1) choice pattern).map (place :: ·)
    else firstPlaces? byCase (place + 1) choice (p :: pattern)

/-- The score so far: with the last character matched here, with it matched before, and the bonus of
the run of matches. -/
structure Cell where
  matched : Int
  passed : Int
  run : Int
  deriving Inhabited

/-- The score of what cannot be. -/
def awful : Int := -32768

/-- One character of the pattern against one place of the name: the row before, and the row being
filled. The cell before also takes up the bonus of the run. -/
def fill (byCase : Bool) (choice : Array Char) (bonuses : Array Int) (p : Char)
    (previous : Array Cell) (row : Array Cell) (j : Nat) : Array Cell :=
  let last := row.getD j default
  let cell := row.getD (j + 1) default
  let diagonal := previous.getD j default
  let c := choice.getD j ' '
  let passed := max (last.matched - 4) (last.passed - 1)
  if sameChar byCase c p then
    let place := bonuses.getD j 0
    let run := max (max last.run place) 4
    let base : Int := if c = p then 16 else 14
    let matched := base + max (diagonal.matched + run) (diagonal.passed + place)
    (row.setIfInBounds j { last with run }).setIfInBounds (j + 1) ⟨matched, passed, cell.run⟩
  else row.setIfInBounds (j + 1) ⟨awful, passed, 0⟩

/-- The characters of the pattern, each from its first place on. Two rows take turns. -/
def rows (byCase : Bool) (choice : Array Char) (bonuses : Array Int) :
    List (Char × Nat) → Array Cell → Array Cell → Array Cell
  | [], previous, _ => previous
  | (p, start) :: rest, previous, row =>
    let filled := (List.range' start (choice.size - start)).foldl
      (fill byCase choice bonuses p previous) row
    rows byCase choice bonuses rest filled previous

/-- The score of a name, if it contains the characters of the pattern in order. -/
def score? (choice pattern : String) : Option Int :=
  let cs := choice.toList
  let ps := pattern.toList
  let byCase := ps.any Char.isUpper
  match firstPlaces? byCase 0 cs ps with
  | none => none
  | some places =>
    match places.getLast? with
    | none => some 0
    | some final =>
      let start := Array.replicate (cs.length + 1) (Cell.mk awful (-1) 0)
      let spare := Array.replicate (cs.length + 1) (Cell.mk awful awful 0)
      let row := rows byCase cs.toArray (placeBonuses cs).toArray (ps.zip places) start spare
      (row.toList.drop final |>.map (·.matched)).max?

/-- The name with the highest score, the smallest of several. -/
def nearest? (score : String → Option Int) (names : List String) : Option String :=
  (names.foldl (fun best name =>
    match score name, best with
    | none, _ => best
    | some s, none => some (s, name)
    | some s, some (t, other) =>
      if t < s || (s == t && decide (name < other)) then some (s, name) else best)
    none).map (·.2)

end Phrasebook.Similarity
