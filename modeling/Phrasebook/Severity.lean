/-!
# Severity

How grave a report about a message is, from least to most: `Severity.le_iff` is the order by rank.
-/

namespace Phrasebook

/-- How grave a report is. -/
inductive Severity where
  /-- Information, not an error. -/
  | notify
  /-- An error that leaves the outcome's structure alone. -/
  | warning
  /-- A breaking error. -/
  | issue
  /-- A breaking error after which processing should stop. -/
  | fatal
  deriving DecidableEq, Repr, Inhabited

namespace Severity

/-- The place of the severity in the order. -/
def rank : Severity → Nat
  | .notify => 0
  | .warning => 1
  | .issue => 2
  | .fatal => 3

instance : LE Severity := ⟨fun a b => a.rank ≤ b.rank⟩

instance (a b : Severity) : Decidable (a ≤ b) := inferInstanceAs (Decidable (a.rank ≤ b.rank))

theorem le_iff {a b : Severity} : a ≤ b ↔ a.rank ≤ b.rank := Iff.rfl

/-- The order as an `Ordering`. -/
instance : Ord Severity := ⟨fun a b => compare a.rank b.rank⟩

/-- The word for the severity. -/
def name : Severity → String
  | .notify => "notify"
  | .warning => "warning"
  | .issue => "issue"
  | .fatal => "fatal"

/-- The severity of that name. -/
def ofName? : String → Option Severity
  | "notify" => some .notify
  | "warning" => some .warning
  | "issue" => some .issue
  | "fatal" => some .fatal
  | _ => none

@[simp] theorem ofName?_name (s : Severity) : ofName? s.name = some s := by cases s <;> rfl

/-- Whether processing may stop on this severity. -/
def isBreaking (s : Severity) : Bool := s == .issue || s == .fatal

/-- Whether the severity denotes an error at all. -/
def isError (s : Severity) : Bool := s != .notify

end Severity

end Phrasebook
