import Phrasebook.Settings.Library
import Phrasebook.Settings.Path
import Phrasebook.Toml.Reader

/-!
# The standard library for settings

A file is meant by its path, or by its path without the ending of its name (`Files.find?`); the
ending tells the format. `Library.ofFormats` finds files so, in any formats and whatever the order
in which their endings are tried. The standard library reads TOML and JSON. The names of a layer are
paths into the tree that it is merged into (`Tree.addLayer`).
-/

namespace Phrasebook

namespace Format

def toml : Format := ⟨[".toml"]⟩

def json : Format := ⟨[".json"]⟩

/-- The members of the table that a file spells. -/
def parse? (format : Format) (text : String) : Option Layer :=
  if format = toml then Toml.read? text
  else
    match Json.read? text with
    | some (.obj members) => some (Tree.ofMembers members)
    | _ => none

end Format

/-- The file that a path means, with its format: that one, or the one with an ending put to its
name. A file that is there under another ending is not meant. -/
def Files.find? (formats : List Format) (files : Files) (path : String) :
    Option (Format × String) :=
  match files.read? path with
  | some text => (Format.of? formats path).map (·, text)
  | none => (formats.flatMap Format.endings).findSome? fun ending => do
    let longer ← extend? path ending
    return (← Format.of? formats longer, ← files.read? longer)

/-- The tree with a layer merged in. -/
def Tree.addLayer (tree : Tree) (layer : Layer) : Tree :=
  layer.foldl (fun tree entry => (Path.read entry.1).set entry.2 tree) tree

namespace Library

/-- The library that finds files in these formats and reads them so. -/
def ofFormats (formats : List Format) (parse? : Format → String → Option Layer) : Library where
  formats
  parse?
  collect? files path required :=
    (files.find? formats path).elim (absent? required) fun (format, text) => parse? format text
  merge := Tree.addLayer
  write := Toml.document

/-- The library that settings are loaded and saved with, if there is no other. -/
def standard : Library := ofFormats [.toml, .json] Format.parse?

end Library

namespace Settings

/-- The settings from all sources. -/
def load? (files : Files) (path : Option String) (vars : List (String × String)) :
    Option Settings :=
  Library.standard.load? files path vars

/-- The files with the settings saved to one of them. -/
def save? (settings : Settings) (files : Files) (path : String) : Option Files :=
  Library.standard.save? settings files path

/-- The settings as they are saved. -/
def toToml (s : Settings) : String := Library.standard.write s.tables

end Settings

end Phrasebook
