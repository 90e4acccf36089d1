/-!
# Files

The files that are there, by their places, and how a path leads to a place: from the root, or from
the working directory, part by part, each part before the last a directory (`Files.locate?`). A path
that leads nowhere is not an error by itself; nothing can be read or written there. `Files.add?`
makes the directories of a path first. The view of the files is `Files.at?`, and `at?_put` says what
writing does to it.
-/

namespace Phrasebook

/-- A place: the names that lead to it from the root. -/
structure Place where
  names : List String
  deriving DecidableEq, Repr

namespace Place

/-- The directory that is in no other. -/
def root : Place := ⟨[]⟩

/-- The directory of the place; the root is its own. -/
def parent (place : Place) : Place := ⟨place.names.dropLast⟩

/-- The place of that name in a directory. -/
def child (place : Place) (name : String) : Place := ⟨place.names ++ [name]⟩

@[simp] theorem parent_child (place : Place) (name : String) : (place.child name).parent = place := by
  simp [parent, child]

end Place

/-- Files by place, with the texts in them, and the directories. -/
structure Files where
  entries : List (Place × String)
  directories : List Place
  /-- The working directory, which is there with all directories above it. -/
  working : Place
  /-- The path of the directory for the settings of the user, if the platform has one. -/
  userDirectory? : Option String

namespace Files

/-- A working directory with nothing in it, and a directory for the settings of the user below it
that is yet to be made. -/
def empty : Files := ⟨[], [], ⟨["work"]⟩, some "/work/xdg/plang"⟩

/-- The parts of a path. -/
def parts (path : String) : List String := (path.toList.splitOn '/').map String.ofList

/-- Whether the part of a path names nothing: the directory itself is meant. -/
def isIdle (part : String) : Bool := part = "" || part = "."

/-- Whether the place is a directory. -/
def isDirectory (files : Files) (place : Place) : Bool :=
  place.names.isPrefixOf files.working.names || files.directories.contains place

/-- The text of the file at a place. -/
def at? (files : Files) (place : Place) : Option String := files.entries.lookup place

/-- The files with a text at a place. -/
def put (files : Files) (place : Place) (text : String) : Files :=
  { files with entries := (place, text) :: files.entries.filter fun entry => entry.1 != place }

/-- The most bytes that a name may have. -/
def maxName : Nat := 255

/-- The most bytes that a path may have. -/
def maxPath : Nat := 4095

/-- Whether a file can have the name. -/
def isName (part : String) : Bool := part.utf8ByteSize ≤ maxName && !part.toList.contains '\x00'

/-- Where one part of a path leads from a place, which has to be a directory. -/
def step? (files : Files) (place : Place) (part : String) : Option Place :=
  if !files.isDirectory place then none
  else if isIdle part then some place
  else if part = ".." then some place.parent
  else if isName part then some (place.child part)
  else none

/-- Where a path begins: at the root, or in the working directory. -/
def start (files : Files) (path : String) : Place :=
  if path.startsWith "/" then .root else files.working

/-- Where a path leads. -/
def locate? (files : Files) (path : String) : Option Place :=
  if maxPath < path.utf8ByteSize then none else (parts path).foldlM files.step? (files.start path)

/-- The files with a directory for one part of a path, and where the part leads. -/
def enter? (files : Files) (place : Place) (part : String) : Option (Files × Place) := do
  let next ← files.step? place part
  if files.isDirectory next then return (files, next)
  else if (files.at? next).isSome then none
  else return ({ files with directories := next :: files.directories }, next)

/-- The files with a text at a path, and with the directories that the path goes through. -/
def add? (files : Files) (path text : String) : Option Files := do
  let names := parts path
  let (files, directory) ← names.dropLast.foldlM
    (fun (files, place) part => files.enter? place part) (files, files.start path)
  let place ← files.step? directory (names.getLastD "")
  if files.isDirectory place then none else some (files.put place text)

/-- The files with texts at these paths, each made in turn if it can be. -/
def ofTexts (texts : List (String × String)) : Files :=
  texts.foldl (fun files (path, text) => (files.add? path text).getD files) empty

/-- The text of a file. -/
def read? (files : Files) (path : String) : Option String := do files.at? (← files.locate? path)

/-- Whether there is a file or a directory. -/
def isThere (files : Files) (path : String) : Bool :=
  match files.locate? path with
  | some place => (files.at? place).isSome || files.isDirectory place
  | none => false

/-- Writes a file, unless its place is a directory. -/
def write? (files : Files) (path text : String) : Option Files := do
  let place ← files.locate? path
  if files.isDirectory place then none else some (files.put place text)

/-! ## What writing does to the view `at?` -/

theorem at?_put (files : Files) (place q : Place) (text : String) :
    (files.put place text).at? q = if q = place then some text else files.at? q := by
  by_cases h : q = place
  · subst h
    simp [put, at?]
  · have hq : (q == place) = false := beq_eq_false_iff_ne.2 h
    simp only [put, at?, List.lookup_cons, hq, h, if_false]
    induction files.entries with
    | nil => rfl
    | cons entry rest ih =>
      obtain ⟨r, t⟩ := entry
      by_cases hr : r = place
      · subst hr
        simpa [List.lookup_cons, hq] using ih
      · by_cases hqr : q = r
        · subst hqr
          simp [hr]
        · simpa [hr, List.lookup_cons, beq_eq_false_iff_ne.2 hqr] using ih

/-! ## Names of files -/

/-- The name that a path ends with. -/
def name (path : String) : String := (parts path).getLastD ""

/-- Whether the name that a path ends with has the ending, which is not all of the name. The way to
the directory above is no name. -/
def hasEnding (path ending : String) : Bool :=
  name path != ".." && ending.length < (name path).length && (name path).endsWith ending

/-- The path with an ending put to the name that it ends with, if it ends with a name. -/
def extend? (path ending : String) : Option String :=
  match (parts path).reverse.dropWhile isIdle with
  | [] => none
  | name :: rest =>
    if name = ".." then none else some ("/".intercalate ((name ++ ending) :: rest).reverse)

end Files

end Phrasebook
