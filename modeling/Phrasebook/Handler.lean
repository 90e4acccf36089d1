import Phrasebook.Journal

/-!
# Handlers

A handler accepts a diagnostic or raises it, and may log events about it. What it does with one may
depend on those that it was given before; `Handler.after` is the handler that there is after some
were given, and a handler made with `Handler.forgetful` stays as it is. `Handler.judge` passes the
remarks of a piece of processing by the handler up to the first diagnostic that it raises: the
handler decides where processing stops and nothing else (`judge_append`).
-/

namespace Phrasebook

/-- What is done with diagnostics. -/
structure Handler where
  /-- The error with which a diagnostic is raised after some others; none accepts it. -/
  raises? : List Diagnostic → Diagnostic → Option Error
  /-- The events logged for a diagnostic after some others. -/
  logs : List Diagnostic → Diagnostic → List Event
  /-- The collector that keeps the diagnostics, if there is one. -/
  collector : Option String

namespace Handler

/-- A handler that does the same with a diagnostic, whatever it was given before. -/
def forgetful (raises? : Diagnostic → Option Error) (logs : Diagnostic → List Event)
    (collector : Option String) : Handler :=
  ⟨fun _ => raises?, fun _ => logs, collector⟩

/-- Raises the diagnostics of at least this severity and logs all of them. -/
def raisingAt (threshold : Severity) : Handler :=
  forgetful (fun d => if threshold ≤ d.severity then some d.toError else none)
    (fun d =>
      let name := ("placeholder", d.placeholder)
      let graded := [name, ("severity", d.severity.name)]
      if threshold ≤ d.severity then [⟨.error, d.message, graded⟩]
      else if d.severity = .notify then [⟨.info, d.message, [name]⟩]
      else [⟨.warn, d.message, graded⟩])
    none

/-- The handler of a language that names no other: only breaking diagnostics are raised. -/
def standard : Handler := raisingAt .issue

instance : Inhabited Handler := ⟨standard⟩

/-- Keeps every diagnostic in the collector and raises none. -/
def collecting (collector : String) : Handler :=
  forgetful (fun _ => none) (fun _ => []) (some collector)

/-- Raises the diagnostics of one kind and accepts the others, without a word. -/
def abortingOn (kind : Diagnostic.Kind) : Handler :=
  forgetful (fun d => if d.kind = kind then some d.toError else none) (fun _ => []) none

variable (handler : Handler)

/-- The error with which the handler raises a diagnostic now; none accepts it. -/
def answer (d : Diagnostic) : Option Error := handler.raises? [] d

/-- The events that the handler logs for a diagnostic now. -/
def events (d : Diagnostic) : List Event := handler.logs [] d

/-- The handler after it was given these diagnostics. -/
def after (ds : List Diagnostic) : Handler :=
  ⟨fun given => handler.raises? (ds ++ given), fun given => handler.logs (ds ++ given),
    handler.collector⟩

@[simp] theorem after_nil : handler.after [] = handler := rfl

@[simp] theorem after_after (a b : List Diagnostic) :
    (handler.after a).after b = handler.after (a ++ b) := by
  simp [after]

@[simp] theorem after_forgetful (raises? : Diagnostic → Option Error)
    (logs : Diagnostic → List Event) (collector : Option String) (ds : List Diagnostic) :
    (forgetful raises? logs collector).after ds = forgetful raises? logs collector := rfl

@[simp] theorem collector_after (ds : List Diagnostic) :
    (handler.after ds).collector = handler.collector := rfl

/-- The journal lines of a diagnostic. -/
def entries (d : Diagnostic) : Journal := .report d :: (handler.events d).map .handling

@[simp] theorem diagnostics_entries (d : Diagnostic) : (handler.entries d).diagnostics = [d] := by
  have hevents : Journal.diagnostics ((handler.events d).map .handling) = [] := by
    rw [Journal.diagnostics, List.filterMap_map]
    exact List.filterMap_eq_nil_iff.mpr fun _ _ => rfl
  show d :: Journal.diagnostics ((handler.events d).map .handling) = [d]
  rw [hevents]

/-- Passes remarks by the handler until it raises one: the error it raises, and the journal. -/
def judge (handler : Handler) : List Remark → Option Error × Journal
  | [] => (none, [])
  | .event e :: rest =>
    let (error, journal) := handler.judge rest
    (error, .event e :: journal)
  | .diagnostic d :: rest =>
    match handler.answer d with
    | some error => (some error, handler.entries d)
    | none =>
      let (error, journal) := (handler.after [d]).judge rest
      (error, handler.entries d ++ journal)

@[simp] theorem judge_nil : handler.judge [] = (none, []) := rfl

theorem judge_append (a b : List Remark) :
    handler.judge (a ++ b) =
      match handler.judge a with
      | (some error, journal) => (some error, journal)
      | (none, journal) =>
        let more := (handler.after journal.diagnostics).judge b
        (more.1, journal ++ more.2) := by
  induction a generalizing handler with
  | nil => simp
  | cons remark rest ih =>
    cases remark with
    | event e =>
      simp only [List.cons_append, judge, ih]
      rcases handler.judge rest with ⟨_ | error, journal⟩ <;> simp
    | diagnostic d =>
      simp only [List.cons_append, judge]
      cases handler.answer d with
      | some error => rfl
      | none =>
        simp only [ih]
        rcases (handler.after [d]).judge rest with ⟨_ | error, journal⟩ <;> simp

end Handler

end Phrasebook
