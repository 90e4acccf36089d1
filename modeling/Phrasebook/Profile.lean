import Phrasebook.Lexer.Basic

/-!
# Profiles and messages

A `Profile` says how the messages of a language are processed: which lexer finds the placeholder
references, and which lexicon, handler and methods go with it. A lexicon and a handler change while
messages are kept, and methods look at lexicons, so the profile only says which they are. A
`Message` is a text with its tokens and the profile that it was parsed with.
-/

namespace Phrasebook

/-- Which lexicon. -/
structure LexiconId where
  index : Nat
  deriving DecidableEq, Repr, Inhabited

/-- Which profile, and so which handler and which methods. -/
structure ProfileId where
  index : Nat
  deriving DecidableEq, Repr, Inhabited

/-- Which registry. -/
structure RegistryId where
  index : Nat
  deriving DecidableEq, Repr, Inhabited

/-- How the messages of a language are processed. -/
structure Profile where
  id : ProfileId
  name : String
  abbreviation : String
  lexicon : LexiconId
  lexer : Lexer
  deriving Inhabited

/-- The identity of the language: its name and abbreviation. -/
def Profile.identifier (profile : Profile) : String := profile.name ++ "/" ++ profile.abbreviation

/-- A text parsed once in a language. -/
structure Message where
  content : String
  tokens : Tokens
  profile : Profile

/-- The identity of the language in which the message was parsed. -/
def Message.identifier (message : Message) : String := message.profile.identifier

end Phrasebook
