/-!
# Tokens

A message is a list of tokens: text that stands for itself, and references to placeholders.
`Tokens.rawText` puts the source text together again.
-/

namespace Phrasebook

/-- A span of message text. -/
inductive Token where
  /-- Text that is rendered as it is. -/
  | literal (raw : String)
  /-- A reference to the placeholder `name`, spelt `raw` with its delimiters. -/
  | placeholder (raw name : String)
  deriving DecidableEq, Repr, Inhabited

namespace Token

/-- The source text of the token. -/
def raw : Token → String
  | .literal raw => raw
  | .placeholder raw _ => raw

/-- The name of the placeholder that the token refers to. -/
def name? : Token → Option String
  | .literal _ => none
  | .placeholder _ name => some name

/-- Whether the token refers to a placeholder. -/
def isPlaceholder : Token → Bool
  | .literal _ => false
  | .placeholder _ _ => true

@[simp] theorem raw_literal (raw : String) : (literal raw).raw = raw := rfl
@[simp] theorem raw_placeholder (raw name : String) : (placeholder raw name).raw = raw := rfl
@[simp] theorem name?_literal (raw : String) : (literal raw).name? = none := rfl
@[simp] theorem name?_placeholder (raw name : String) :
    (placeholder raw name).name? = some name := rfl

end Token

/-- The tokens of a message, in order. -/
abbrev Tokens := List Token

namespace Tokens

/-- The source text of all tokens. -/
def rawText (tokens : Tokens) : String := String.join (tokens.map Token.raw)

/-- The tokens that refer to placeholders. -/
def placeholders (tokens : Tokens) : Tokens := tokens.filter Token.isPlaceholder

end Tokens

end Phrasebook
