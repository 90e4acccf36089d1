import Phrasebook.Settings.Decode
import Phrasebook.Settings.Environment
import Phrasebook.Settings.Files
import Phrasebook.Toml.Writer

/-!
# Loading and saving settings

Settings are loaded from files and from environment variables, with a `Library` that knows formats
of files, finds the file that a path means and merges what the sources say. The sources are asked in
order (`Files.sources`), and each is merged over those before it: a later one wins setting by
setting. A file that may be missing is left out if it is not there, but no file may be malformed.
Settings are saved as tables (`Settings.tables`).
-/

namespace Phrasebook

/-- A format of settings files, by the endings of their names. -/
structure Format where
  endings : List String
  deriving DecidableEq, Repr

/-- The format that the name of a file tells by its ending. -/
def Format.of? (formats : List Format) (path : String) : Option Format :=
  formats.find? fun format => format.endings.any (Files.hasEnding path)

/-- What settings are loaded and saved with. -/
structure Library where
  formats : List Format
  /-- What the text of a file says. -/
  parse? : Format → String → Option Layer
  /-- What the file that a path means says. One that has to be there fails if it is not. -/
  collect? (files : Files) (path : String) (required : Bool) : Option Layer
  /-- The tree with a layer merged in. -/
  merge : Tree → Layer → Tree
  /-- The tables as a text. -/
  write : Toml.Tables → String

namespace Files

/-- A file that is asked for. -/
structure Source where
  path : String
  /-- Whether it has to be there. -/
  required : Bool
  deriving DecidableEq, Repr

/-- The files that are always asked for. -/
def places : List String := ["plang.toml", ".plang.toml", "config/plang.toml"]

/-- The path of the file of the user. -/
def userFile? (files : Files) : Option String := files.userDirectory?.map (· ++ "/plang.toml")

/-- The files that are asked for, lower ones first. That of the user is asked for only if there is
something of this very name. -/
def sources (files : Files) (path : Option String) : List Source :=
  places.map (⟨·, false⟩) ++ (files.userFile?.filter files.isThere).toList.map (⟨·, false⟩)
    ++ path.toList.map (⟨·, true⟩)

end Files

/-- The tables of settings in a file. -/
def Settings.tables (s : Settings) : Toml.Tables :=
  [("lexer",
      [("opening", .text s.opening), ("closing", .text s.closing),
        ("trim_whitespace", .flag s.trims)]),
    ("lexicon", [("case_sensitive", .flag s.lexiconCaseSensitive)]),
    ("binder", [("case_sensitive", .flag s.binderCaseSensitive)]),
    ("errors", [("raise_at", .text s.raiseAt.name)])]

namespace Library

/-- What comes of a file that is not there. -/
def absent? (required : Bool) : Option Layer := if required then none else some []

variable (lib : Library)

/-- The settings that layers say, later ones over earlier ones. -/
def ofLayers? (layers : List Layer) : Option Settings :=
  Settings.ofTree? (layers.foldl lib.merge (.table []))

/-- What the files that are asked for say. -/
def layers? (files : Files) (path : Option String) : Option (List Layer) :=
  (files.sources path).mapM fun source => lib.collect? files source.path source.required

/-- The settings from all sources; the environment is the highest. -/
def load? (files : Files) (path : Option String) (vars : List (String × String)) :
    Option Settings := do
  lib.ofLayers? ((← lib.layers? files path) ++ [Environment.layer vars])

/-- The files with the settings saved to one of them. -/
def save? (s : Settings) (files : Files) (path : String) : Option Files :=
  files.write? path (lib.write s.tables)

end Library

end Phrasebook
