import Phrasebook.Severity

/-!
# Settings

What can be configured of a language and of the binders used with it.
-/

namespace Phrasebook

/-- The settings of a language and its binders. -/
structure Settings where
  opening : String
  closing : String
  /-- Whether the blanks around a name are taken off. -/
  trims : Bool
  lexiconCaseSensitive : Bool
  binderCaseSensitive : Bool
  /-- The least severity that is raised. -/
  raiseAt : Severity
  deriving DecidableEq, Repr

namespace Settings

/-- The settings that hold where nothing is configured. -/
def standard : Settings := ⟨"\x7b", "\x7d", false, false, false, .issue⟩

instance : Inhabited Settings := ⟨standard⟩

end Settings

end Phrasebook
