import Phrasebook.Diagnostic

/-!
# The journal of processing

Processing a message makes remarks: events for the log, and diagnostics for the handler. The journal
is what becomes of them: each event, each diagnostic handed over, and after it the events of the
handler itself. `Entry.events` and `Entry.diagnostics` are the two views of a journal.
-/

namespace Phrasebook

/-- The level of a log event. -/
inductive Level where
  | trace
  | debug
  | info
  | warn
  | error
  deriving DecidableEq, Repr

/-- The word for the level. -/
def Level.name : Level → String
  | .trace => "TRACE"
  | .debug => "DEBUG"
  | .info => "INFO"
  | .warn => "WARN"
  | .error => "ERROR"

/-- A log event: a message and named fields. -/
structure Event where
  level : Level
  message : String
  fields : List (String × String)
  deriving DecidableEq, Repr

/-- Something that happens while a message is processed. -/
inductive Remark where
  /-- An event for the log. -/
  | event (event : Event)
  /-- A diagnostic for the handler. -/
  | diagnostic (diagnostic : Diagnostic)
  deriving DecidableEq, Repr

/-- The diagnostics among remarks. -/
def Remark.diagnostics (remarks : List Remark) : List Diagnostic :=
  remarks.filterMap fun
    | .diagnostic d => some d
    | .event _ => none

/-- A line of the journal. -/
inductive Entry where
  /-- An event of processing. -/
  | event (event : Event)
  /-- A diagnostic, as it is handed to the handler. -/
  | report (diagnostic : Diagnostic)
  /-- An event of the handler. -/
  | handling (event : Event)
  deriving DecidableEq, Repr

/-- The journal of a piece of processing, in order. -/
abbrev Journal := List Entry

namespace Journal

/-- The log events of the journal. -/
def events (journal : Journal) : List Event :=
  journal.filterMap fun
    | .event e => some e
    | .handling e => some e
    | .report _ => none

/-- The diagnostics handed to the handler. -/
def diagnostics (journal : Journal) : List Diagnostic :=
  journal.filterMap fun
    | .report d => some d
    | _ => none

@[simp] theorem diagnostics_nil : diagnostics [] = [] := rfl

@[simp] theorem diagnostics_append (a b : Journal) :
    diagnostics (a ++ b) = diagnostics a ++ diagnostics b := by
  simp [diagnostics]

@[simp] theorem diagnostics_event (e : Event) (journal : Journal) :
    diagnostics (.event e :: journal) = diagnostics journal := rfl

@[simp] theorem events_nil : events [] = [] := rfl

@[simp] theorem events_append (a b : Journal) : events (a ++ b) = events a ++ events b := by
  simp [events]

end Journal

end Phrasebook
