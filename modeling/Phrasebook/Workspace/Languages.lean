import Phrasebook.Workspace.Basic

/-!
# Languages, lexicons and binders in the workspace

Making languages and lexicons, changing what has a name, and processing texts in a language.
-/

namespace Phrasebook

/-- What a language is made from. -/
structure Blueprint where
  name : String
  abbreviation : String
  lexer : Lexer
  /-- The lexicon to share; none makes a new one. -/
  lexicon : Option LexiconId
  /-- Whether a new lexicon is case-sensitive. -/
  caseSensitive : Bool
  handler : Handler
  nameCheck : NameCheck
  rendition : Rendition

namespace Blueprint

/-- Everything as it is where nothing else is asked for. -/
def standard (name abbreviation : String) : Blueprint where
  name := name
  abbreviation := abbreviation
  lexer := Delimiters.braces.lexer
  lexicon := none
  caseSensitive := false
  handler := .standard
  nameCheck := .reporting
  rendition := .resolved

/-- A language as it is configured. -/
def ofSettings (name abbreviation : String) (settings : Settings) : Except Error Blueprint := do
  let delimiters ← Delimiters.create settings.opening settings.closing settings.trims
  return { standard name abbreviation with
    lexer := delimiters.lexer
    caseSensitive := settings.lexiconCaseSensitive
    handler := .raisingAt settings.raiseAt }

end Blueprint

/-- What there is to say about a language. -/
structure LanguageInfo where
  identifier : String
  name : String
  abbreviation : String
  caseSensitive : Bool
  description : String

namespace Workspace

/-- One more lexicon. -/
def addLexicon (w : Workspace) (lexicon : Lexicon) : LexiconId × Workspace :=
  (⟨w.lexicons.next⟩, { w with lexicons := w.lexicons.add lexicon })

/-- One more registry. -/
def addRegistry (w : Workspace) (registry : Registry) : RegistryId × Workspace :=
  (⟨w.registries.next⟩, { w with registries := w.registries.add registry })

/-- The collector of a handler is there from the first time on that the handler is used. -/
def openCollector (w : Workspace) (handler : Handler) : Workspace := w.collect handler []

/-- One more language, without messages. -/
def addLanguage (w : Workspace) (plan : Blueprint) : Language × Workspace :=
  let w := w.openCollector plan.handler
  let (lexicon, w) := match plan.lexicon with
    | some lexicon => (lexicon, w)
    | none => w.addLexicon (.empty plan.caseSensitive)
  let profile : Profile :=
    { id := ⟨w.handlers.next⟩
      name := plan.name
      abbreviation := plan.abbreviation
      lexicon
      lexer := plan.lexer }
  let w := { w with
    handlers := w.handlers.add plan.handler
    methods := w.methods.add ⟨plan.nameCheck, plan.rendition⟩ }
  let (registry, w) := w.addRegistry (.empty profile)
  (⟨profile, registry⟩, w)

/-- What there is to say about a language. -/
def describe (w : Workspace) (language : Language) : LanguageInfo :=
  let profile := language.profile
  let count := (w.registries.get language.registry.index).size
  { identifier := profile.identifier
    name := profile.name
    abbreviation := profile.abbreviation
    caseSensitive := (w.lexiconOf profile).caseSensitive
    description :=
      "Language \x7b identifier: " ++ Text.quote profile.identifier ++ ", messages: "
        ++ toString count ++ " \x7d" }

end Workspace

namespace Session

variable {α : Type}

/-! ## Making objects -/

/-- Makes a lexicon. -/
def makeLexicon (name : String) (caseSensitive : Bool) : Session Unit :=
  modify fun w =>
    let (lexicon, w) := w.addLexicon (.empty caseSensitive)
    { w with lexiconNames := w.lexiconNames.insert name lexicon }

/-- Makes a language; its lexicon goes by its name, too. -/
def makeLanguage (name : String) (plan : Blueprint) : Session LanguageInfo :=
  modifyGet fun w =>
    let (language, w) := w.addLanguage plan
    let w := { w with
      languages := w.languages.insert name language
      lexiconNames := w.lexiconNames.insert name language.profile.lexicon }
    (w.describe language, w)

/-- Makes a binder. -/
def makeBinder (name : String) (binder : Binder) : Session Unit :=
  modify fun w => { w with binders := w.binders.insert name binder }

/-! ## Using and changing them -/

/-- The language of that name. -/
def findLanguage (name : String) : Session Language := find Workspace.languages name

/-- The binder of that name. -/
def findBinder (name : String) : Session Binder := find Workspace.binders name

/-- The lexicon of that name, with its number. -/
def findLexicon (name : String) : Session (LexiconId × Lexicon) := do
  let id ← find Workspace.lexiconNames name
  return (id, (← get).lexicons.get id.index)

/-- Asks a lexicon. -/
def useLexicon (name : String) (f : Lexicon → α) : Session α := do
  return f (← findLexicon name).2

/-- Changes a lexicon. -/
def changeLexicon (name : String) (f : Lexicon → α × Lexicon) : Session α := do
  let (id, lexicon) ← findLexicon name
  let (result, lexicon) := f lexicon
  modify fun w => { w with lexicons := w.lexicons.put id.index lexicon }
  return result

/-- Registers a placeholder: the placeholder that it replaces, and the number there are then. -/
def register (name : String) (p : Placeholder) : Session (Option Placeholder × Nat) := do
  let result ← changeLexicon name fun lexicon =>
    let after := lexicon.set p
    ((lexicon.get? p.name, after.size), after)
  log [Lexicon.setEvent p]
  return result

/-- Asks a binder. -/
def useBinder (name : String) (f : Binder → Except Error α) : Session α := do
  ofExcept (f (← findBinder name))

/-- Changes a binder; if that fails it stays as it is. -/
def changeBinder (name : String) (f : Binder → Except Error (α × Binder)) : Session α := do
  let (result, after) ← useBinder name f
  makeBinder name after
  return result

/-- Removes a value from a binder: the value. -/
def unbind (name : String) (key : KeyName) : Session (Option Value) := do
  let before ← findBinder name
  let removed ← changeBinder name fun binder => binder.unbind key
  log (before.searchEvents (← findBinder name))
  return removed

/-- Gives the profile of a language another handler. The collector is there even if the language is
not. -/
def setHandler (name : String) (handler : Handler) : Session Unit := do
  modify fun w => w.openCollector handler
  let language ← findLanguage name
  modify fun w => { w with handlers := w.handlers.put language.profile.id.index handler }

/-- The diagnostics that a collector keeps, all or of one kind, and how many there are in all. -/
def collected (name : String) (kind : Option Diagnostic.Kind) : Session (List Diagnostic × Nat) := do
  let diagnostics ← find Workspace.collectors name
  let shown := match kind with
    | some kind => diagnostics.filter fun d => d.kind = kind
    | none => diagnostics
  return (shown, diagnostics.length)

/-- Empties a collector. -/
def clearCollector (name : String) : Session Unit := do
  discard (find Workspace.collectors name)
  modify fun w => { w with collectors := w.collectors.insert name [] }

/-! ## Processing texts -/

/-- Splits a text into tokens. -/
def tokenize (lexer : Lexer) (content : String) : Session Tokens := do
  log (lexer.events content)
  return lexer.tokenize content

/-- Keeps tokens under a name. -/
def keepTokens (name : String) (tokens : Tokens) : Session Tokens := do
  modify fun w => { w with tokenLists := w.tokenLists.insert name tokens }
  return tokens

/-- Parses a text and keeps its tokens. -/
def parse (name : String) (language : Language) (content : String) : Session Tokens := do
  let tokens ← process language.profile fun methods context handler =>
    language.profile.parse methods context handler content
  keepTokens name tokens

/-- Checks tokens and keeps them. -/
def check (name : String) (language : Language) (tokens : Tokens) : Session Tokens := do
  let tokens ← process language.profile fun methods context handler =>
    language.profile.check methods context handler tokens
  keepTokens name tokens

/-- Renders the tokens of a text. -/
def transform (language : Language) (binder : Binder) (content : String) (tokens : Tokens) :
    Session String :=
  process language.profile fun methods context handler =>
    language.profile.transform methods context handler binder content tokens

/-- Parses and renders a text. -/
def render (language : Language) (binder : Binder) (content : String) : Session String :=
  process language.profile fun methods context handler =>
    language.profile.render methods context handler binder content

end Session

end Phrasebook
