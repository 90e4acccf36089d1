import Phrasebook.Value

/-!
# Closures

Placeholders get their texts from closures of the calling program. A closure may remember what it
was used for, and it may share what it remembers: the copies of a placeholder have one closure, and
two closures may work on the same counter. So the text that a closure gives depends on all `Uses` of
closures until then, and to use a closure is to add one more to them.
-/

namespace Phrasebook

/-- Which closure. The copies of a closure are the same one. -/
structure ClosureId where
  index : Nat
  deriving DecidableEq, Repr, Inhabited

/-- One use of a closure. -/
inductive Use where
  /-- A closure that takes nothing gave a text. -/
  | generated (closure : ClosureId)
  /-- A closure was given a datum, or told that there is none. -/
  | transformed (closure : ClosureId) (given : Option Datum)

/-- What closures were used for until now, in order. -/
abbrev Uses := List Use

/-- Whether it is a use of that closure, which takes nothing. -/
def Use.isOf (closure : ClosureId) : Use → Bool
  | .generated other => other = closure
  | .transformed _ _ => false

/-- How often a closure that takes nothing was used. -/
def Uses.times (uses : Uses) (closure : ClosureId) : Nat := uses.countP (Use.isOf closure)

/-- A closure that takes nothing. -/
structure Generator where
  id : ClosureId
  /-- The text after those uses. -/
  text : Uses → String

/-- A closure that takes a datum. -/
structure Transform where
  id : ClosureId
  /-- The text for a datum, or for none, after those uses. -/
  text : Uses → Option Datum → String

/-- A closure that counts its own uses, from zero. -/
def Generator.counting (id : ClosureId) (textAt : Nat → String) : Generator :=
  ⟨id, fun uses => textAt (uses.times id)⟩

/-- A closure that remembers nothing. -/
def Transform.steady (id : ClosureId) (text : Option Datum → String) : Transform :=
  ⟨id, fun _ => text⟩

/-- Uses the closure: the text, and the uses after it. -/
def Generator.use (generator : Generator) (uses : Uses) : String × Uses :=
  (generator.text uses, uses ++ [.generated generator.id])

/-- Uses the closure: the text, and the uses after it. -/
def Transform.use (transform : Transform) (uses : Uses) (given : Option Datum) : String × Uses :=
  (transform.text uses given, uses ++ [.transformed transform.id given])

end Phrasebook
