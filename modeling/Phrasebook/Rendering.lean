import Phrasebook.Handler
import Phrasebook.Resolution

/-!
# Rendering tokens

`Context.steps` goes through the tokens of a message and says for each what it comes to and what is
remarked on it. None of this depends on the handler. `conclude` then takes the steps up to the first
diagnostic that the handler raises.
-/

namespace Phrasebook

/-- What one token comes to. -/
structure Step where
  text : String
  remarks : List Remark
  /-- The context after the token. -/
  context : Context

/-- The outcome of processing: the result, the context afterwards, and the journal. -/
structure Outcome (α : Type) where
  result : Except Error α
  context : Context
  journal : Journal

/-- What the tokens come to in turn; `position` counts the placeholder references. -/
def Context.steps (context : Context) (binder : Binder) (position : Nat) : Tokens → List Step
  | [] => []
  | .literal raw :: rest => ⟨raw, [], context⟩ :: context.steps binder position rest
  | .placeholder _ name :: rest =>
    let (resolution, after) := context.resolve binder position name
    ⟨resolution.text, resolution.remarks position name, after⟩
      :: after.steps binder (position + 1) rest

/-- The steps up to the first diagnostic that the handler raises. No closure is used for a reference
of which a report is raised: a value of another type does not reach the closure, and the report on it
comes before the text for no value. -/
def conclude (handler : Handler) (context : Context) : List Step → Outcome String
  | [] => ⟨.ok "", context, []⟩
  | step :: rest =>
    match handler.judge step.remarks with
    | (some error, journal) => ⟨.error error, context, journal⟩
    | (none, journal) =>
      let outcome := conclude (handler.after journal.diagnostics) step.context rest
      { outcome with
        result := outcome.result.map (step.text ++ ·)
        journal := journal ++ outcome.journal }

/-- Renders the tokens of `content`; a message without tokens is its content. -/
def Context.render (context : Context) (handler : Handler) (binder : Binder) (content : String)
    (tokens : Tokens) : Outcome String :=
  if tokens.isEmpty then ⟨.ok content, context, []⟩
  else conclude handler context (context.steps binder 0 tokens)

end Phrasebook
