import Phrasebook.Proofs.Rendering.Raising
import Phrasebook.Proofs.Rendering.Stopping

/-!
# Every reference is accounted for

Rendering says of each reference once how it was resolved, or that it was not,
and before that at most once that a value had another type (`Account`). So it
does of the references of a message one after another (`accounts_steps`), and a
rendering that a handler ends has done so for all references before the one
that was raised (`render_accounts`).
-/

namespace Phrasebook

/-- The remark says how the reference to `name` at a position was resolved, or
that it was not. -/
inductive Remark.Settles (position : Nat) (name : String) : Remark → Prop where
  | byIndex : Settles position name
      (Resolution.trace name "resolved by index" [("position", toString position)])
  | byName : Settles position name (Resolution.trace name "resolved by name" [])
  | byType (accepts : TypeName) : Settles position name
      (Resolution.trace name "resolved by type" [("accepting", accepts.text)])
  | withoutValue : Settles position name (Resolution.trace name "resolved without a value" [])
  | unbound : Settles position name (.diagnostic (.unbound name))

/-- The remarks on the reference to `name` at a position: one that settles it,
which a report on a value of another type may precede if no value is used. -/
inductive Remark.Account (position : Nat) (name : String) : List Remark → Prop where
  | settled {remark : Remark} (settles : remark.Settles position name) :
      Account position name [remark]
  | mismatched (accepted bound : String) {remark : Remark}
      (settles : remark = Resolution.trace name "resolved without a value" [] ∨
        remark = .diagnostic (.unbound name)) :
      Account position name [.diagnostic (.mismatch name accepted bound), remark]

/-- The remarks on tokens, the first reference of which is at `position`: an
account of each reference, in order, and nothing else. -/
inductive Remark.Accounts : Nat → Tokens → List Remark → Prop where
  | nil (position : Nat) : Accounts position [] []
  | literal {position : Nat} {rest : Tokens} {remarks : List Remark} (raw : String)
      (more : Accounts position rest remarks) : Accounts position (.literal raw :: rest) remarks
  | placeholder {position : Nat} {name : String} {rest : Tokens} {account remarks : List Remark}
      (raw : String) (first : Remark.Account position name account)
      (more : Accounts (position + 1) rest remarks) :
      Accounts position (.placeholder raw name :: rest) (account ++ remarks)

namespace Remark

/-- Whether the remark is an event that says how a reference was resolved. -/
def isResolved : Remark → Bool
  | .event e => e.message ∈
      ["resolved by index", "resolved by name", "resolved by type", "resolved without a value"]
  | .diagnostic _ => false

/-- Whether the remark is a report that a reference was not resolved. -/
def isUnbound : Remark → Bool
  | .event _ => false
  | .diagnostic d => d.kind = .unboundPlaceholder

variable {position : Nat} {name : String} {account remarks : List Remark}

theorem Settles.count {remark : Remark} (h : remark.Settles position name) :
    [remark].countP isResolved + [remark].countP isUnbound = 1 := by
  cases h <;> simp [isResolved, isUnbound, Resolution.trace, Diagnostic.unbound]

theorem Account.count (h : Account position name account) :
    account.countP isResolved + account.countP isUnbound = 1 := by
  cases h with
  | settled settles => exact settles.count
  | mismatched accepted bound settles =>
    rcases settles with rfl | rfl <;>
      simp [isResolved, isUnbound, Resolution.trace, Diagnostic.unbound, Diagnostic.mismatch]

theorem Accounts.count {tokens : Tokens} (h : Accounts position tokens remarks) :
    remarks.countP isResolved + remarks.countP isUnbound = tokens.placeholders.length := by
  induction h with
  | nil => rfl
  | literal raw more ih => exact ih
  | placeholder raw first more ih =>
    have hfirst := first.count
    rw [List.countP_append, List.countP_append]
    show _ = (Tokens.placeholders _).length + 1
    omega

end Remark

namespace Context

open Remark (Account Accounts)

variable (context : Context) (binder : Binder) (position : Nat)

theorem account_resolveNothing {name : String} (p : Placeholder) {mismatch : Option Diagnostic}
    (h : ∀ d ∈ mismatch, ∃ accepted bound, d = .mismatch name accepted bound) :
    Account position name
      ((context.resolveNothing p mismatch).1.remarks position name) := by
  rw [resolveNothing]
  cases mismatch with
  | none =>
    rcases p.transformNothing context.uses with ⟨_ | text, uses⟩
    · exact .settled .unbound
    · exact .settled .withoutValue
  | some d =>
    obtain ⟨accepted, bound, rfl⟩ := h d rfl
    rcases p.transformNothing context.uses with ⟨_ | text, uses⟩
    · exact .mismatched accepted bound (.inr rfl)
    · exact .mismatched accepted bound (.inl rfl)

theorem account_resolvePlaceholder (name : String) (p : Placeholder) :
    Account position name
      ((context.resolvePlaceholder binder name p).1.remarks position name) := by
  have hnone : ∀ d ∈ (none : Option Diagnostic), ∃ accepted bound,
      d = .mismatch name accepted bound :=
    fun d h => nomatch h
  rw [resolvePlaceholder]
  cases p.accepts? with
  | none => exact context.account_resolveNothing position p hnone
  | some accepts =>
    simp only
    cases binder.at? (.type accepts.topmost) with
    | none => exact context.account_resolveNothing position p hnone
    | some value =>
      simp only
      rcases p.transformValue context.uses value with ⟨_ | text, uses⟩
      · refine account_resolveNothing _ position p fun d hd => ?_
        exact ⟨_, _, (Option.some.inj hd).symm⟩
      · exact .settled (.byType accepts.name)

/-- Whatever a reference comes to, there is one account of it. -/
theorem account_resolve (name : String) :
    Account position name ((context.resolve binder position name).1.remarks position name) := by
  rw [resolve]
  cases binder.at? (.index position) with
  | some value => exact .settled .byIndex
  | none =>
    simp only
    cases binder.at? (binder.nameKey name) with
    | some value => exact .settled .byName
    | none =>
      simp only
      cases context.lexicon.get? name with
      | some p => exact context.account_resolvePlaceholder binder position name p
      | none => exact .settled .unbound

/-- Rendering accounts for the references among the tokens. -/
theorem accounts_steps (tokens : Tokens) :
    Accounts position tokens ((context.steps binder position tokens).flatMap Step.remarks) := by
  induction tokens generalizing context position with
  | nil => exact .nil position
  | cons token rest ih =>
    cases token with
    | literal raw => exact .literal raw (ih context position)
    | placeholder raw name =>
      rw [steps_placeholder, List.flatMap_cons]
      exact .placeholder raw (context.account_resolve binder position name) (ih _ (position + 1))

/-- Before a step on which something is remarked, rendering has accounted for
the references among the tokens before; the step is that of a reference. -/
theorem accounts_before {context : Context} {tokens : Tokens} {before after : List Step}
    {step : Step} (h : context.steps binder position tokens = before ++ step :: after)
    (hsaid : step.remarks ≠ []) :
    ∃ (told : Tokens) (raw name : String) (rest : Tokens),
      tokens = told ++ .placeholder raw name :: rest ∧
      Accounts position told (before.flatMap Step.remarks) ∧
      Account (position + told.names.length) name step.remarks := by
  induction tokens generalizing context position before with
  | nil => cases before <;> cases h
  | cons token tokens ih =>
    cases token with
    | literal raw =>
      rw [steps] at h
      cases before with
      | nil =>
        obtain ⟨rfl, -⟩ := List.cons.inj h
        exact absurd rfl hsaid
      | cons first before =>
        obtain ⟨rfl, hrest⟩ := List.cons.inj h
        obtain ⟨told, raw', name, rest, rfl, haccounts, haccount⟩ := ih position hrest
        exact ⟨.literal raw :: told, raw', name, rest, rfl, .literal raw haccounts, haccount⟩
    | placeholder raw name =>
      rw [steps_placeholder] at h
      cases before with
      | nil =>
        obtain ⟨rfl, -⟩ := List.cons.inj h
        exact ⟨[], raw, name, tokens, rfl, .nil position,
          context.account_resolve binder position name⟩
      | cons first before =>
        obtain ⟨rfl, hrest⟩ := List.cons.inj h
        obtain ⟨told, raw', other, rest, rfl, haccounts, haccount⟩ := ih (position + 1) hrest
        refine ⟨.placeholder raw name :: told, raw', other, rest, rfl, ?_, ?_⟩
        · exact .placeholder raw (context.account_resolve binder position name) haccounts
        · have hposition : position + (name :: told.names).length =
              position + 1 + told.names.length := by
            rw [List.length_cons]
            omega
          rw [← hposition] at haccount
          exact haccount

/-! ## Renderings -/

/-- Rendering that succeeds gives one account of each reference, in order, so
what was resolved and what was not add up to all references. Rendering that
fails does so for the references before the one on which the handler raised a
diagnostic, and ends the account of that one there. -/
theorem render_accounts (handler : Handler) (content : String) (tokens : Tokens) :
    let rendered := context.render handler binder content tokens
    let told := rendered.journal.remarks
    (∀ text, rendered.result = .ok text →
      Accounts 0 tokens told ∧
      told.countP Remark.isResolved + told.countP Remark.isUnbound = tokens.placeholders.length) ∧
    ∀ error, rendered.result = .error error →
      ∃ (before : Tokens) (raw name : String) (after : Tokens) (first said unsaid : List Remark)
        (d : Diagnostic),
        tokens = before ++ .placeholder raw name :: after ∧
        told = first ++ said ++ [.diagnostic d] ∧
        Accounts 0 before first ∧
        first.countP Remark.isResolved + first.countP Remark.isUnbound =
          before.placeholders.length ∧
        Account before.names.length name (said ++ .diagnostic d :: unsaid) ∧
        (handler.after (Remark.diagnostics (first ++ said))).answer d = some error := by
  cases tokens with
  | nil => exact ⟨fun _ _ => ⟨.nil 0, rfl⟩, fun _ herror => nomatch herror⟩
  | cons token rest =>
    have hrendered : context.render handler binder content (token :: rest) =
        conclude handler context (context.steps binder 0 (token :: rest)) := rfl
    rw [hrendered]
    intro rendered told
    rcases conclude_cases handler context (context.steps binder 0 (token :: rest)) with
      ⟨⟨text, hresult⟩, htold⟩ |
      ⟨before, step, after, said, d, raised, hsteps, ⟨⟨unsaid, hsplit⟩, -, hanswer⟩, hresult, htold⟩
    · refine ⟨fun _ _ => ?_, fun error herror => ?_⟩
      · have haccounts := context.accounts_steps binder 0 (token :: rest)
        rw [← htold] at haccounts
        exact ⟨haccounts, haccounts.count⟩
      · cases hresult.symm.trans herror
    · refine ⟨fun text htext => ?_, fun error herror => ?_⟩
      · cases hresult.symm.trans htext
      · obtain rfl := Except.error.inj (hresult.symm.trans herror)
        obtain ⟨first, raw, name, untold, hsame, haccounts, haccount⟩ :=
          accounts_before binder 0 hsteps (by simp [hsplit])
        rw [hsplit, Nat.zero_add] at haccount
        rw [Handler.after_after, ← Remark.diagnostics_append] at hanswer
        exact ⟨first, raw, name, untold, _, said, unsaid, d, hsame, htold, haccounts,
          haccounts.count, haccount, hanswer⟩

/-- A message in which each reference comes to something else. -/
theorem render_accounts_of_every_kind :
    let lexicon := (Lexicon.empty false).extend
      [.display ⟨0⟩ "word" .string, .display ⟨1⟩ "number" .integer, .constant "mark" "!"]
    let binder := (((Binder.empty false).insert (.index 0) (.displayed (.string "a"))).insert
      (.name "b") (.displayed (.string "b"))).insert (.type .integer) (.sealed (.integer 7))
      |>.insert (.type .string) (.sealed (.integer 8))
    let tokens : Tokens := [.placeholder "<a>" "a", .literal "-", .placeholder "<B>" "B",
      .placeholder "<number>" "number", .placeholder "<mark>" "mark",
      .placeholder "<word>" "word"]
    let handler : Handler :=
      ⟨fun given d => if given.length < 2 then none else some d.toError, fun _ _ => [], none⟩
    let context : Context := ⟨lexicon, []⟩
    let rendered := context.render handler binder "" tokens
    let told := rendered.journal.remarks
    rendered.result.toOption = some "a-b7!" ∧
      told =
        [Resolution.trace "a" "resolved by index" [("position", "0")],
          Resolution.trace "B" "resolved by name" [],
          Resolution.trace "number" "resolved by type" [("accepting", "i64")],
          Resolution.trace "mark" "resolved without a value" [],
          .diagnostic (.mismatch "word" "alloc::string::String" "i64"),
          .diagnostic (.unbound "word")] ∧
      Accounts 0 tokens told := by
  intro lexicon binder tokens handler context rendered told
  have htext : rendered.result.toOption = some "a-b7!" := by
    decide +kernel
  refine ⟨htext, by decide +kernel, ?_⟩
  cases hresult : rendered.result with
  | error error =>
    rw [hresult] at htext
    cases htext
  | ok text => exact ((context.render_accounts binder handler "" tokens).1 text hresult).1

end Context

end Phrasebook
