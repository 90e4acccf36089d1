import Phrasebook.Rendering

/-!
# What the handler is given

A rendering hands the handler the diagnostics among the remarks of its steps,
as one list: `journal_conclude` says so of every handler. What a handler does
with a diagnostic may depend on those before it, so it accepts a list of them
one after the other (`Handler.Accepts`). It is then given all of them
(`judge_of_accepts`), as is a handler that raises nothing, whatever it is given
(`Handler.Accepting`); any other is given those up to the first that it raises
(`judge_of_raises`).
-/

namespace Phrasebook

namespace Remark

@[simp] theorem diagnostics_nil : diagnostics [] = [] := rfl

@[simp] theorem diagnostics_event (e : Event) (rest : List Remark) :
    diagnostics (.event e :: rest) = diagnostics rest := rfl

@[simp] theorem diagnostics_diagnostic (d : Diagnostic) (rest : List Remark) :
    diagnostics (.diagnostic d :: rest) = d :: diagnostics rest := rfl

@[simp] theorem diagnostics_append (a b : List Remark) :
    diagnostics (a ++ b) = diagnostics a ++ diagnostics b :=
  List.filterMap_append

@[simp] theorem diagnostics_map (ds : List Diagnostic) :
    diagnostics (ds.map .diagnostic) = ds := by
  induction ds with
  | nil => rfl
  | cons d ds ih => rw [List.map_cons, diagnostics_diagnostic, ih]

@[simp] theorem diagnostics_map_event (events : List Event) :
    diagnostics (events.map .event) = [] := by
  rw [diagnostics, List.filterMap_map]
  exact List.filterMap_eq_nil_iff.mpr fun _ _ => rfl

theorem diagnostics_flatMap {α : Type} (f : α → List Remark) (xs : List α) :
    diagnostics (xs.flatMap f) = xs.flatMap fun x => diagnostics (f x) := by
  induction xs with
  | nil => rfl
  | cons x xs ih => rw [List.flatMap_cons, diagnostics_append, ih, List.flatMap_cons]

end Remark

namespace Handler

/-- The handler accepts the diagnostics, one after the other. -/
def Accepts (handler : Handler) (ds : List Diagnostic) : Prop :=
  ∀ before d after, ds = before ++ d :: after → (handler.after before).answer d = none

/-- The handler raises nothing, whatever it is given. -/
def Accepting (handler : Handler) : Prop :=
  ∀ given d, (handler.after given).answer d = none

/-- The handler stays as it is, whatever it is given. -/
def Forgetful (handler : Handler) : Prop := ∀ given, handler.after given = handler

variable {handler : Handler} {ds es : List Diagnostic} {remarks : List Remark}

theorem accepts_nil : handler.Accepts [] :=
  fun _ _ _ h => absurd h.symm (List.append_ne_nil_of_right_ne_nil _ (List.cons_ne_nil _ _))

theorem accepts_cons {d : Diagnostic} :
    handler.Accepts (d :: ds) ↔ handler.answer d = none ∧ (handler.after [d]).Accepts ds := by
  constructor
  · intro h
    refine ⟨h [] d ds rfl, fun before b after hds => ?_⟩
    rw [after_after]
    exact h (d :: before) b after (congrArg (d :: ·) hds)
  · rintro ⟨hfirst, hrest⟩ before b after hds
    cases before with
    | nil =>
      cases hds
      exact hfirst
    | cons c before =>
      obtain ⟨rfl, htail⟩ := List.cons.inj hds
      have hb := hrest before b after htail
      rwa [after_after] at hb

/-- A handler that remembers nothing accepts what it accepts one by one. -/
theorem accepts_forgetful {raises? : Diagnostic → Option Error} {logs : Diagnostic → List Event}
    {collector : Option String} (h : ∀ d ∈ ds, raises? d = none) :
    (forgetful raises? logs collector).Accepts ds := by
  rintro before d after rfl
  exact h d (List.mem_append_right before List.mem_cons_self)

theorem Accepting.accepts (h : handler.Accepting) (ds : List Diagnostic) : handler.Accepts ds :=
  fun before d _ _ => h before d

theorem Accepting.after (h : handler.Accepting) (ds : List Diagnostic) :
    (handler.after ds).Accepting := by
  intro given d
  rw [after_after]
  exact h (ds ++ given) d

theorem accepting_collecting (collector : String) : (collecting collector).Accepting :=
  fun _ _ => rfl

/-- A handler that accepts all diagnostics is given all of them. -/
theorem judge_of_accepts (h : handler.Accepts (Remark.diagnostics remarks)) :
    (handler.judge remarks).1 = none ∧
      (handler.judge remarks).2.diagnostics = Remark.diagnostics remarks := by
  induction remarks generalizing handler with
  | nil => exact ⟨rfl, rfl⟩
  | cons remark rest ih =>
    cases remark with
    | event e =>
      rw [Remark.diagnostics_event] at h ⊢
      rw [judge, Journal.diagnostics_event]
      exact ih h
    | diagnostic d =>
      rw [Remark.diagnostics_diagnostic] at h ⊢
      obtain ⟨hfirst, hrest⟩ := accepts_cons.mp h
      obtain ⟨herror, hgiven⟩ := ih hrest
      simp only [judge, hfirst]
      rw [Journal.diagnostics_append, diagnostics_entries, hgiven]
      exact ⟨herror, rfl⟩

/-- The first diagnostic that a handler raises is the last that it is given. -/
theorem judge_of_raises {before after : List Diagnostic} {d : Diagnostic} {error : Error}
    (hsplit : Remark.diagnostics remarks = before ++ d :: after) (haccepts : handler.Accepts before)
    (hraises : (handler.after before).answer d = some error) :
    (handler.judge remarks).1 = some error ∧
      (handler.judge remarks).2.diagnostics = before ++ [d] := by
  induction remarks generalizing handler before with
  | nil => simp at hsplit
  | cons remark rest ih =>
    cases remark with
    | event e =>
      rw [Remark.diagnostics_event] at hsplit
      rw [judge, Journal.diagnostics_event]
      exact ih hsplit haccepts hraises
    | diagnostic b =>
      rw [Remark.diagnostics_diagnostic] at hsplit
      cases before with
      | nil =>
        obtain ⟨rfl, -⟩ := List.cons.inj hsplit
        rw [after_nil] at hraises
        rw [judge, hraises]
        exact ⟨rfl, diagnostics_entries handler b⟩
      | cons b' before =>
        obtain ⟨rfl, hrest⟩ := List.cons.inj hsplit
        obtain ⟨hfirst, hbefore⟩ := accepts_cons.mp haccepts
        have hlater : ((handler.after [b]).after before).answer d = some error := by
          rw [after_after]
          exact hraises
        obtain ⟨herror, hgiven⟩ := ih hrest hbefore hlater
        simp only [judge, hfirst]
        rw [Journal.diagnostics_append, diagnostics_entries, hgiven]
        exact ⟨herror, rfl⟩

end Handler

/-- The journal of a rendering is that of all its remarks in a row. -/
theorem journal_conclude (handler : Handler) (context : Context) (steps : List Step) :
    (conclude handler context steps).journal = (handler.judge (steps.flatMap Step.remarks)).2 := by
  induction steps generalizing handler context with
  | nil => rfl
  | cons step rest ih =>
    rw [List.flatMap_cons, Handler.judge_append, conclude]
    rcases handler.judge step.remarks with ⟨_ | error, journal⟩
    · simp only [ih]
    · rfl

/-- A handler that raises nothing leaves the texts of all steps. -/
theorem result_conclude_of_accepting {handler : Handler} (accepting : handler.Accepting)
    (context : Context) (steps : List Step) :
    (conclude handler context steps).result = .ok (String.join (steps.map Step.text)) := by
  induction steps generalizing handler context with
  | nil => rfl
  | cons step rest ih =>
    have hnone := (Handler.judge_of_accepts (accepting.accepts (Remark.diagnostics step.remarks))).1
    rw [conclude]
    rcases hjudge : handler.judge step.remarks with ⟨error, journal⟩
    rw [hjudge] at hnone
    cases hnone
    simp only [ih (accepting.after journal.diagnostics), List.map_cons, String.join_cons]
    rfl

/-- A handler that raises nothing leaves the context of the last step. -/
theorem context_conclude_of_accepting {handler : Handler} (accepting : handler.Accepting)
    (context : Context) (steps : List Step) :
    (conclude handler context steps).context =
      steps.foldl (fun _ step => step.context) context := by
  induction steps generalizing handler context with
  | nil => rfl
  | cons step rest ih =>
    have hnone := (Handler.judge_of_accepts (accepting.accepts (Remark.diagnostics step.remarks))).1
    rw [conclude]
    rcases hjudge : handler.judge step.remarks with ⟨error, journal⟩
    rw [hjudge] at hnone
    cases hnone
    exact ih (accepting.after journal.diagnostics) step.context

/-- A handler that raises nothing is given the diagnostics of all steps. -/
theorem diagnostics_conclude_of_accepting {handler : Handler} (accepting : handler.Accepting)
    (context : Context) (steps : List Step) :
    (conclude handler context steps).journal.diagnostics =
      (steps.map fun step => Remark.diagnostics step.remarks).flatten := by
  rw [journal_conclude, (Handler.judge_of_accepts (accepting.accepts _)).2,
    Remark.diagnostics_flatMap, List.flatMap_def]

end Phrasebook
