import Phrasebook.Lexer.Delimiters
import Phrasebook.Processing
import Phrasebook.Registry
import Phrasebook.Settings.Basic
import Phrasebook.Workspace.Shelf

/-!
# The workspace

Languages, lexicons, registries, binders, tokens and messages under the names that a caller gives
them. Several languages may share a lexicon, and a message keeps the profile that it was parsed with
while the handler and the lexicon of that profile go on changing; those are kept on shelves, and the
methods of a profile beside its handler.

A `Session` is an operation that may fail. It changes the workspace as far as it gets: a rendering
that is broken off has still used the closures before that point. `Workspace.perform` runs one and
gives the journal of it.
-/

namespace Phrasebook

/-- A profile with the registry of its messages. -/
structure Language where
  profile : Profile
  registry : RegistryId

/-- Everything that has a name, and what it refers to. -/
structure Workspace where
  lexicons : Shelf Lexicon
  /-- The handler of each profile. -/
  handlers : Shelf Handler
  /-- The methods of each profile. -/
  methods : Shelf Methods
  registries : Shelf Registry
  /-- What closures were used for. -/
  uses : Uses
  collectors : Std.ExtTreeMap String (List Diagnostic)
  lexiconNames : Std.ExtTreeMap String LexiconId
  registryNames : Std.ExtTreeMap String RegistryId
  languages : Std.ExtTreeMap String Language
  binders : Std.ExtTreeMap String Binder
  tokenLists : Std.ExtTreeMap String Tokens
  messages : Std.ExtTreeMap String Message
  /-- The journal of the operation that is going on. -/
  journal : Journal

/-- An operation on the workspace. -/
abbrev Session := ExceptT Error (StateM Workspace)

namespace Workspace

/-- A workspace with nothing in it. -/
def empty : Workspace where
  lexicons := .empty
  handlers := .empty
  methods := .empty
  registries := .empty
  uses := []
  collectors := ∅
  lexiconNames := ∅
  registryNames := ∅
  languages := ∅
  binders := ∅
  tokenLists := ∅
  messages := ∅
  journal := []

/-- The lexicon of a profile, as it is now. -/
def lexiconOf (w : Workspace) (profile : Profile) : Lexicon :=
  w.lexicons.get profile.lexicon.index

/-- The context in which messages of a profile are rendered. -/
def contextOf (w : Workspace) (profile : Profile) : Context := ⟨w.lexiconOf profile, w.uses⟩

/-- The handler of a profile, as it is now. -/
def handlerOf (w : Workspace) (profile : Profile) : Handler := w.handlers.get profile.id.index

/-- The methods of a profile. -/
def methodsOf (w : Workspace) (profile : Profile) : Methods := w.methods.get profile.id.index

/-- Keeps the diagnostics in the collector of the handler. -/
def collect (w : Workspace) (handler : Handler) (diagnostics : List Diagnostic) : Workspace :=
  match handler.collector with
  | none => w
  | some name =>
    { w with collectors := w.collectors.insert name (w.collectors.getD name [] ++ diagnostics) }

/-- What processing with a profile leaves behind: its context, its journal, its handler after what
that was given, and the diagnostics that are kept. -/
def settle {α : Type} (w : Workspace) (profile : Profile) (outcome : Outcome α) : Workspace :=
  let handler := w.handlerOf profile
  let w := w.collect handler outcome.journal.diagnostics
  { w with
    lexicons := w.lexicons.put profile.lexicon.index outcome.context.lexicon
    uses := outcome.context.uses
    handlers := w.handlers.put profile.id.index (handler.after outcome.journal.diagnostics)
    journal := w.journal ++ outcome.journal }

/-- Runs an operation: its result, its journal and the workspace after it. -/
def perform {α : Type} (w : Workspace) (operation : Session α) :
    Except Error α × Journal × Workspace :=
  let (result, after) := operation.run { w with journal := [] }
  (result, after.journal, after)

end Workspace

namespace Session

variable {α : Type}

/-- An operation that only fails or gives a result. -/
def ofExcept : Except Error α → Session α
  | .ok a => pure a
  | .error e => throw e

/-- The object of that name. -/
def find (objects : Workspace → Std.ExtTreeMap String α) (name : String) : Session α := do
  match (objects (← get))[name]? with
  | some a => return a
  | none => throw (.unknownName name)

/-- Notes events in the journal. -/
def log (events : List Event) : Session Unit :=
  modify fun w => { w with journal := w.journal ++ events.map .event }

/-- Processes something with a profile, its methods, its context and its handler. -/
def process (profile : Profile) (run : Methods → Context → Handler → Outcome α) : Session α := do
  let w ← get
  let outcome := run (w.methodsOf profile) (w.contextOf profile) (w.handlerOf profile)
  set (w.settle profile outcome)
  ofExcept outcome.result

end Session

end Phrasebook
