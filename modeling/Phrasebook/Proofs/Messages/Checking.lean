import Mathlib.Data.List.Forall2
import Phrasebook.Lexer.Delimiters
import Phrasebook.Processing
import Phrasebook.Proofs.Rendering.Raising
import Phrasebook.Proofs.Rendering.Rules

/-!
# Checking tokens

Checking keeps every token, and reports each reference whose name the lexicon
does not know, each time again and apart from the other tokens. A handler is
given these reports in order, up to the first that it raises after those before
(`Profile.check_reports`).
-/

namespace Phrasebook

namespace Lexicon

/-- The diagnostic reports the name as one that the lexicon does not know, with
the nearest name that it has if there is one. -/
structure ReportsUnknown (lexicon : Lexicon) (name : String) (d : Diagnostic) : Prop where
  kind : d.kind = .unknownPlaceholder
  severity : d.severity = .notify
  placeholder : d.placeholder = name
  plain : lexicon.suggest? name = none → d.message = "placeholder " ++ name ++ " is dynamic"
  suggested : ∀ near, lexicon.suggest? name = some near →
    d.message = "placeholder " ++ name ++ " is dynamic" ++ " (did you mean \x60" ++ near ++ "\x60?)"

variable (lexicon : Lexicon)

theorem reportsUnknown_unknown (name : String) :
    lexicon.ReportsUnknown name (.unknown name (lexicon.suggest? name)) where
  kind := rfl
  severity := rfl
  placeholder := rfl
  plain h := by
    rw [h]
    exact String.append_empty
  suggested near h := by
    rw [h, String.append_assoc, String.append_assoc]
    rfl

theorem unknownNames_cons (token : Token) (rest : Tokens) :
    lexicon.unknownNames (token :: rest) =
      lexicon.unknownNames [token] ++ lexicon.unknownNames rest :=
  List.filterMap_append (l := [token])

/-- Each token is reported as it is on its own. -/
theorem unknownNames_eq_flatMap (tokens : Tokens) :
    lexicon.unknownNames tokens = tokens.flatMap fun token => lexicon.unknownNames [token] := by
  induction tokens with
  | nil => rfl
  | cons token rest ih => rw [unknownNames_cons, ih, List.flatMap_cons]

theorem unknownNames_placeholder (raw name : String) :
    lexicon.unknownNames [.placeholder raw name] =
      if lexicon.has name then [] else [.unknown name (lexicon.suggest? name)] := by
  by_cases hhas : lexicon.has name
  · simp [unknownNames, hhas]
  · simp [unknownNames, hhas]

/-- The references to names that the lexicon does not know are reported in order. -/
theorem forall₂_unknownNames (tokens : Tokens) :
    List.Forall₂ lexicon.ReportsUnknown (tokens.names.filter fun name => !lexicon.has name)
      (lexicon.unknownNames tokens) := by
  induction tokens with
  | nil => exact .nil
  | cons token rest ih =>
    rw [unknownNames_cons]
    cases token with
    | literal raw => exact ih
    | placeholder raw name =>
      have hnames : Tokens.names (.placeholder raw name :: rest) = name :: Tokens.names rest := rfl
      rw [hnames, unknownNames_placeholder, List.filter_cons]
      cases lexicon.has name with
      | true => exact ih
      | false => exact .cons (lexicon.reportsUnknown_unknown name) ih

end Lexicon

namespace Profile

/-- Checking gives the tokens as they are, after a report on each reference to
a name that the lexicon does not know, which is the same wherever the reference
stands; or it fails with what the handler answers to one of the reports, after
all before it. -/
theorem check_reports (profile : Profile) {methods : Methods}
    (hcheck : methods.nameCheck = .reporting) (context : Context) (tokens : Tokens) :
    let lexicon := context.lexicon
    let reports := lexicon.unknownNames tokens
    List.Forall₂ lexicon.ReportsUnknown (tokens.names.filter fun name => !lexicon.has name)
        reports ∧
      reports = (tokens.flatMap fun token => lexicon.unknownNames [token]) ∧
      ∀ handler : Handler,
        let checked := profile.check methods context handler tokens
        (∀ kept, checked.result = .ok kept →
          kept = tokens ∧ handler.Accepts reports ∧ checked.journal.diagnostics = reports) ∧
        ∀ error, checked.result = .error error → ∃ before d after,
          reports = before ++ d :: after ∧ handler.Accepts before ∧
            (handler.after before).answer d = some error ∧
            checked.journal.diagnostics = before ++ [d] := by
  intro lexicon reports
  refine ⟨lexicon.forall₂_unknownNames tokens, lexicon.unknownNames_eq_flatMap tokens,
    fun handler => ?_⟩
  have hcases := handler.diagnostics_judge_cases (profile.checkRemarks lexicon tokens)
  have hreports : Remark.diagnostics (profile.checkRemarks lexicon tokens) = reports := by
    simp [checkRemarks, reports]
  rw [hreports] at hcases
  simp only [check, hcheck]
  rcases hjudge : handler.judge (profile.checkRemarks lexicon tokens) with ⟨raised, journal⟩
  rw [hjudge] at hcases
  rcases hcases with ⟨haccepts, herror, hgiven⟩ |
    ⟨before, d, after, raisedError, hsplit, haccepts, hanswer, herror, hgiven⟩
  all_goals cases herror
  · refine ⟨fun kept hkept => ⟨(Except.ok.inj hkept).symm, haccepts, hgiven⟩, ?_⟩
    intro error hfailed
    cases hfailed
  · constructor
    · intro kept hkept
      cases hkept
    · intro error hfailed
      rw [← Except.error.inj hfailed]
      exact ⟨before, d, after, hsplit, haccepts, hanswer, hgiven⟩

/-- The same name is reported twice, and the handler raises what it is given
for the second time. -/
theorem check_reports_of_repeated :
    let profile : Profile := ⟨⟨0⟩, "English", "en", ⟨0⟩, Delimiters.braces.lexer⟩
    let lexicon := (Lexicon.empty false).set (.constant "user.name" "Ada")
    let tokens : Tokens := [.placeholder "{usr.name}" "usr.name", .literal " ",
      .placeholder "{USER.NAME}" "USER.NAME", .placeholder "{usr.name}" "usr.name",
      .placeholder "{zzz}" "zzz"]
    let handler : Handler :=
      ⟨fun given d => if d ∈ given then some d.toError else none, fun _ _ => [], none⟩
    let checked := profile.check .standard ⟨lexicon, []⟩ handler tokens
    let report := Diagnostic.unknown "usr.name" (some "user.name")
    List.Forall₂ lexicon.ReportsUnknown ["usr.name", "usr.name", "zzz"]
        [report, report, .unknown "zzz" none] ∧
      checked.result = .error report.toError ∧
      checked.journal.diagnostics = [report, report] := by
  intro profile lexicon tokens handler checked report
  obtain ⟨hreports, -, hhandled⟩ :=
    profile.check_reports Methods.nameCheck_standard ⟨lexicon, []⟩ tokens
  have hnames : tokens.names.filter (fun name => !lexicon.has name) =
      ["usr.name", "usr.name", "zzz"] := by
    decide +kernel
  have hunknown : lexicon.unknownNames tokens = [report, report, .unknown "zzz" none] := by
    decide +kernel
  have hgiven : checked.journal.diagnostics = [report, report] := by
    decide +kernel
  rw [hnames, hunknown] at hreports
  refine ⟨hreports, ?_, hgiven⟩
  obtain ⟨hkept, hraised⟩ := hhandled handler
  have hraises : (handler.after [report]).answer report = some report.toError := by
    show (if report ∈ [report] then some report.toError else none) = some report.toError
    exact if_pos List.mem_cons_self
  cases hresult : checked.result with
  | ok kept =>
    have haccepts := (hkept kept hresult).2.1 [report] report [.unknown "zzz" none] hunknown
    cases haccepts.symm.trans hraises
  | error error =>
    obtain ⟨before, d, after, -, -, hanswer, hjournal⟩ := hraised error hresult
    have hlast : before ++ [d] = [report] ++ [report] := hjournal.symm.trans hgiven
    obtain ⟨rfl, hd⟩ := List.append_inj' hlast rfl
    obtain rfl := List.singleton_inj.mp hd
    rw [Option.some.inj (hanswer.symm.trans hraises)]

end Profile

end Phrasebook
