import Phrasebook.Proofs.Rendering.Outcome

/-!
# Where a handler raises a diagnostic

A journal without the events of the handler is a list of remarks
(`Journal.remarks`). All remarks are made, or those up to a diagnostic that is
raised after the handler has accepted all before it (`judge_cases`), and so it
is with the steps of a rendering (`conclude_cases`). A handler may remember what
it was given: it is asked about each diagnostic as it is after those before.
-/

namespace Phrasebook

namespace Journal

/-- The remarks in a journal, the events of handlers aside. -/
def remarks (journal : Journal) : List Remark :=
  journal.filterMap fun
    | .event e => some (.event e)
    | .report d => some (.diagnostic d)
    | .handling _ => none

@[simp] theorem remarks_append (a b : Journal) : remarks (a ++ b) = remarks a ++ remarks b :=
  List.filterMap_append

@[simp] theorem remarks_event (e : Event) (journal : Journal) :
    remarks (.event e :: journal) = .event e :: remarks journal := rfl

theorem diagnostics_remarks (journal : Journal) :
    Remark.diagnostics journal.remarks = journal.diagnostics := by
  induction journal with
  | nil => rfl
  | cons entry rest ih =>
    cases entry with
    | event e => exact ih
    | report d => exact congrArg (d :: ·) ih
    | handling e => exact ih

end Journal

namespace Handler

@[simp] theorem remarks_entries (handler : Handler) (d : Diagnostic) :
    (handler.entries d).remarks = [.diagnostic d] := by
  have hevents : Journal.remarks ((handler.events d).map .handling) = [] := by
    rw [Journal.remarks, List.filterMap_map]
    exact List.filterMap_eq_nil_iff.mpr fun _ _ => rfl
  show .diagnostic d :: Journal.remarks ((handler.events d).map .handling) = [.diagnostic d]
  rw [hevents]

/-- The handler accepts what is said before the diagnostic `d`, and raises `d`. -/
structure Raises (handler : Handler) (remarks said : List Remark) (d : Diagnostic)
    (error : Error) : Prop where
  split : ∃ unsaid, remarks = said ++ .diagnostic d :: unsaid
  accepts : handler.Accepts (Remark.diagnostics said)
  answer : (handler.after (Remark.diagnostics said)).answer d = some error

variable {handler : Handler} {remarks said : List Remark} {d : Diagnostic} {error : Error}

theorem Raises.cons_event (h : handler.Raises remarks said d error) (e : Event) :
    handler.Raises (.event e :: remarks) (.event e :: said) d error := by
  obtain ⟨unsaid, hsplit⟩ := h.split
  exact ⟨⟨unsaid, congrArg (.event e :: ·) hsplit⟩, h.accepts, h.answer⟩

theorem Raises.cons_diagnostic {b : Diagnostic} (hb : handler.answer b = none)
    (h : (handler.after [b]).Raises remarks said d error) :
    handler.Raises (.diagnostic b :: remarks) (.diagnostic b :: said) d error := by
  obtain ⟨unsaid, hsplit⟩ := h.split
  refine ⟨⟨unsaid, congrArg (.diagnostic b :: ·) hsplit⟩, ?_, ?_⟩
  · exact accepts_cons.mpr ⟨hb, h.accepts⟩
  · have hanswer := h.answer
    rwa [after_after] at hanswer

/-- All remarks are made, or those up to a diagnostic that is raised. -/
theorem judge_cases (handler : Handler) (remarks : List Remark) :
    (handler.Accepts (Remark.diagnostics remarks) ∧
        (handler.judge remarks).1 = none ∧ (handler.judge remarks).2.remarks = remarks) ∨
      ∃ said d error, handler.Raises remarks said d error ∧
        (handler.judge remarks).1 = some error ∧
        (handler.judge remarks).2.remarks = said ++ [.diagnostic d] := by
  induction remarks generalizing handler with
  | nil => exact .inl ⟨accepts_nil, rfl, rfl⟩
  | cons remark rest ih =>
    cases remark with
    | event e =>
      rw [judge, Journal.remarks_event]
      rcases ih handler with ⟨haccepts, herror, hsaid⟩ | ⟨said, d, error, hraises, herror, hsaid⟩
      · exact .inl ⟨haccepts, herror, by rw [hsaid]⟩
      · refine .inr ⟨.event e :: said, d, error, hraises.cons_event e, herror, ?_⟩
        rw [hsaid, List.cons_append]
    | diagnostic b =>
      rw [judge]
      cases hb : handler.answer b with
      | some error =>
        exact .inr ⟨[], b, error, ⟨⟨rest, rfl⟩, accepts_nil, hb⟩, rfl, remarks_entries handler b⟩
      | none =>
        simp only [Journal.remarks_append, remarks_entries, List.singleton_append]
        rcases ih (handler.after [b]) with ⟨haccepts, herror, hsaid⟩ |
          ⟨said, d, error, hraises, herror, hsaid⟩
        · exact .inl ⟨accepts_cons.mpr ⟨hb, haccepts⟩, herror, by rw [hsaid]⟩
        · refine .inr ⟨.diagnostic b :: said, d, error, hraises.cons_diagnostic hb, herror, ?_⟩
          rw [hsaid, List.cons_append]

/-- Of the diagnostics the handler is given all, or those up to the first that
it raises. -/
theorem diagnostics_judge_cases (handler : Handler) (remarks : List Remark) :
    (handler.Accepts (Remark.diagnostics remarks) ∧ (handler.judge remarks).1 = none ∧
        (handler.judge remarks).2.diagnostics = Remark.diagnostics remarks) ∨
      ∃ before d after error, Remark.diagnostics remarks = before ++ d :: after ∧
        handler.Accepts before ∧ (handler.after before).answer d = some error ∧
        (handler.judge remarks).1 = some error ∧
        (handler.judge remarks).2.diagnostics = before ++ [d] := by
  rw [← Journal.diagnostics_remarks]
  rcases handler.judge_cases remarks with ⟨haccepts, herror, hsaid⟩ |
    ⟨said, d, error, ⟨⟨unsaid, rfl⟩, haccepts, hanswer⟩, herror, hsaid⟩
  · exact .inl ⟨haccepts, herror, by rw [hsaid]⟩
  · refine .inr ⟨Remark.diagnostics said, d, Remark.diagnostics unsaid, error, ?_, haccepts,
      hanswer, herror, ?_⟩
    · rw [Remark.diagnostics_append, Remark.diagnostics_diagnostic]
    · rw [hsaid, Remark.diagnostics_append]
      rfl

/-- The handler lets the remarks pass. -/
def passes (handler : Handler) (remarks : List Remark) : Bool := (handler.judge remarks).1.isNone

@[simp] theorem passes_nil (handler : Handler) : handler.passes [] = true := rfl

theorem diagnostics_judge_of_passes (h : handler.passes remarks) :
    (handler.judge remarks).2.diagnostics = Remark.diagnostics remarks := by
  rcases handler.diagnostics_judge_cases remarks with ⟨-, -, hgiven⟩ |
    ⟨before, d, after, error, -, -, -, herror, -⟩
  · exact hgiven
  · rw [passes, herror] at h
    cases h

theorem passes_append (handler : Handler) (a b : List Remark) :
    handler.passes (a ++ b) =
      (handler.passes a && (handler.after (Remark.diagnostics a)).passes b) := by
  cases ha : handler.passes a with
  | true =>
    have hgiven := diagnostics_judge_of_passes ha
    rw [passes, Option.isNone_iff_eq_none] at ha
    rw [passes, judge_append]
    rcases hjudge : handler.judge a with ⟨error, journal⟩
    rw [hjudge] at ha hgiven
    cases ha
    simp only [← hgiven, Bool.true_and]
    rfl
  | false =>
    rw [passes] at ha
    rw [passes, judge_append]
    rcases hjudge : handler.judge a with ⟨_ | error, journal⟩
    all_goals rw [hjudge] at ha
    · cases ha
    · rfl

end Handler

/-- All steps are gone through, or those up to one on which a diagnostic is raised. -/
theorem conclude_cases (handler : Handler) (context : Context) (steps : List Step) :
    let outcome := conclude handler context steps
    ((∃ text, outcome.result = .ok text) ∧
        outcome.journal.remarks = steps.flatMap Step.remarks) ∨
      ∃ before step after said d error, steps = before ++ step :: after ∧
        (handler.after (Remark.diagnostics (before.flatMap Step.remarks))).Raises step.remarks said
          d error ∧
        outcome.result = .error error ∧
        outcome.journal.remarks = before.flatMap Step.remarks ++ said ++ [.diagnostic d] := by
  induction steps generalizing handler context with
  | nil => exact .inl ⟨⟨"", rfl⟩, rfl⟩
  | cons step rest ih =>
    rw [conclude]
    rcases handler.judge_cases step.remarks with ⟨-, herror, hsaid⟩ |
      ⟨said, d, error, hraises, herror, hsaid⟩
    all_goals
      rcases hjudge : handler.judge step.remarks with ⟨raised, journal⟩
      rw [hjudge] at herror hsaid
      cases herror
    · have hgiven : journal.diagnostics = Remark.diagnostics step.remarks := by
        rw [← Journal.diagnostics_remarks, hsaid]
      simp only [List.flatMap_cons, Journal.remarks_append, hsaid, hgiven]
      rcases ih (handler.after (Remark.diagnostics step.remarks)) step.context with
        ⟨⟨text, hok⟩, hmore⟩ | ⟨before, last, after, said, d, error, hsplit, hraises, herror, hmore⟩
      · exact .inl ⟨⟨_, by rw [hok]; rfl⟩, by rw [hmore]⟩
      · refine .inr ⟨step :: before, last, after, said, d, error, by rw [hsplit]; rfl, ?_, ?_, ?_⟩
        · rwa [Handler.after_after, ← Remark.diagnostics_append] at hraises
        · rw [herror]
          rfl
        · rw [hmore, List.flatMap_cons]
          simp only [List.append_assoc]
    · exact .inr ⟨[], step, rest, said, d, error, rfl, hraises, rfl, hsaid⟩

end Phrasebook
