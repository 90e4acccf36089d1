import Std.Data.ExtTreeMap
import Phrasebook.Error
import Phrasebook.Text.Case
import Phrasebook.TypeKey

/-!
# Keys of bindings

A value is bound for the placeholder at a position, for the placeholders of a name, or for those
that accept a family of types. `KeyName` is a key as it is given, `Key` one that is normalized, and
`KeyName.normalize` the step between them. Keys are ordered: positions first, then names, then
types, each sorted.
-/

namespace Phrasebook

/-- A key as it is given. -/
inductive KeyName where
  /-- The placeholders of a name. -/
  | name (name : String)
  /-- The placeholder at a position, which must not be negative. -/
  | index (index : Int)
  /-- The placeholder at a position. -/
  | position (position : Nat)
  /-- The placeholders that accept the type's family. -/
  | type (key : TypeKey)
  deriving DecidableEq, Repr

/-- A normalized key. -/
inductive Key where
  /-- The placeholder at a position, counted from zero. -/
  | index (index : Nat)
  /-- The placeholders of a name. -/
  | name (name : String)
  /-- The placeholders that accept a family, named by its topmost type. -/
  | type (family : TypeName)
  deriving DecidableEq, Repr

namespace Key

/-- The place of the kind of key in the order. -/
def rank : Key → Nat
  | .index _ => 0
  | .name _ => 1
  | .type _ => 2

/-- The position, zero for the other keys. -/
def indexOrZero : Key → Nat
  | .index n => n
  | _ => 0

/-- The name or type, empty for a position. -/
def label : Key → String
  | .index _ => ""
  | .name n => n
  | .type family => family.text

/-- The order of keys. -/
def cmp (a b : Key) : Ordering :=
  (compare a.rank b.rank).then
    ((compare a.indexOrZero b.indexOrZero).then (compare a.label b.label))

instance : Std.TransCmp cmp :=
  inferInstanceAs (Std.TransCmp
    (compareLex (compareOn rank) (compareLex (compareOn indexOrZero) (compareOn label))))

instance : Std.LawfulEqCmp cmp where
  eq_of_compare {a b} h := by
    simp only [cmp, Ordering.then_eq_eq, Std.LawfulEqOrd.compare_eq_iff_eq] at h
    cases a <;> cases b <;> simp_all [rank, indexOrZero, label, TypeName.ext_iff]

/-- The position that the key means. -/
def index? : Key → Option Nat
  | .index n => some n
  | _ => none

end Key

/-- The key that is meant: names in small letters unless case counts, types by their family. -/
def KeyName.normalize (caseSensitive : Bool) : KeyName → Except Error Key
  | .name n => .ok (.name (if caseSensitive then n else Text.lowercase n))
  | .index (.ofNat n) => .ok (.index n)
  | .index n => .error (.negativeIndex n)
  | .position n => .ok (.index n)
  | .type key => .ok (.type key.topmost)

end Phrasebook
