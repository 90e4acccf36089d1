import Phrasebook.Rendering

/-!
# Processing messages with a profile

From text to tokens, from tokens to a checked message, from a message to its rendering, with the
remarks that each step makes. A language may have methods of its own for the last two. Otherwise
checking keeps every token and reports the names that the lexicon does not know, each time one
occurs (`unknownNames`), and rendering resolves the placeholders.
-/

namespace Phrasebook

/-- The diagnostics for the names among the tokens that the lexicon does not know. -/
def Lexicon.unknownNames (lexicon : Lexicon) (tokens : Tokens) : List Diagnostic :=
  tokens.filterMap fun token =>
    match token.name? with
    | some name => if lexicon.has name then none else some (.unknown name (lexicon.suggest? name))
    | none => none

/-- The events of splitting a text into tokens. -/
def Lexer.events (lexer : Lexer) (content : String) : List Event :=
  (lexer.dropped content).map
      (fun raw => ⟨.trace, "dropping placeholder with empty name", [("raw", raw)]⟩)
    ++ [⟨.debug, "tokenized message", [("tokens", toString (lexer.tokenize content).length)]⟩]

/-- What is done with the tokens of a text before they are rendered. -/
inductive NameCheck where
  /-- All are kept, and the names that the lexicon does not know are reported. -/
  | reporting
  /-- What the language does itself: the tokens that it keeps, and the journal. -/
  | own (check : Profile → Context → Handler → Tokens → Except Error Tokens × Journal)

/-- Nothing at all. -/
def NameCheck.silent : NameCheck := .own fun _ _ _ tokens => (.ok tokens, [])

/-- What rendering makes of the tokens of a text. -/
inductive Rendition where
  /-- Each placeholder is resolved from the bindings and the lexicon. -/
  | resolved
  /-- What the language makes of them itself. -/
  | own (render : Profile → Context → Handler → Binder → String → Tokens → Outcome String)

/-- Each placeholder stands for its own source text. -/
def Rendition.verbatim : Rendition :=
  .own fun _ context _ _ _ tokens => ⟨.ok tokens.rawText, context, []⟩

/-- How texts are processed in a language. -/
structure Methods where
  nameCheck : NameCheck
  rendition : Rendition

/-- The methods of a language that has none of its own. -/
def Methods.standard : Methods := ⟨.reporting, .resolved⟩

@[simp] theorem Methods.nameCheck_standard : standard.nameCheck = .reporting := rfl

@[simp] theorem Methods.rendition_standard : standard.rendition = .resolved := rfl

instance : Inhabited Methods := ⟨.standard⟩

namespace Profile

/-- The event at the end of checking. -/
def parsedEvent (profile : Profile) (tokens : Tokens) : Event :=
  ⟨.debug, "parsed message",
    [("language", profile.identifier), ("tokens", toString tokens.length),
      ("placeholders", toString tokens.placeholders.length)]⟩

/-- The remarks of checking tokens where the language does not do that itself. -/
def checkRemarks (profile : Profile) (lexicon : Lexicon) (tokens : Tokens) : List Remark :=
  (lexicon.unknownNames tokens).map .diagnostic ++ [.event (profile.parsedEvent tokens)]

/-- Checks tokens. -/
def check (profile : Profile) (methods : Methods) (context : Context) (handler : Handler)
    (tokens : Tokens) : Outcome Tokens :=
  match methods.nameCheck with
  | .reporting =>
    let (error, journal) := handler.judge (profile.checkRemarks context.lexicon tokens)
    ⟨match error with
      | some error => .error error
      | none => .ok tokens, context, journal⟩
  | .own check =>
    let (result, journal) := check profile context handler tokens
    ⟨result, context, journal⟩

/-- Splits a text into tokens and checks them. -/
def parse (profile : Profile) (methods : Methods) (context : Context) (handler : Handler)
    (content : String) : Outcome Tokens :=
  let outcome := profile.check methods context handler (profile.lexer.tokenize content)
  { outcome with journal := (profile.lexer.events content).map .event ++ outcome.journal }

@[simp] theorem context_check (profile : Profile) (methods : Methods) (context : Context)
    (handler : Handler) (tokens : Tokens) :
    (profile.check methods context handler tokens).context = context := by
  rw [check]
  split <;> rfl

@[simp] theorem context_parse (profile : Profile) (methods : Methods) (context : Context)
    (handler : Handler) (content : String) :
    (profile.parse methods context handler content).context = context :=
  profile.context_check methods context handler _

/-- Renders the tokens of `content`. -/
def transform (profile : Profile) (methods : Methods) (context : Context) (handler : Handler)
    (binder : Binder) (content : String) (tokens : Tokens) : Outcome String :=
  match methods.rendition with
  | .resolved => context.render handler binder content tokens
  | .own render => render profile context handler binder content tokens

/-- Parses and renders a text. -/
def render (profile : Profile) (methods : Methods) (context : Context) (handler : Handler)
    (binder : Binder) (content : String) : Outcome String :=
  let parsed := profile.parse methods context handler content
  match parsed.result with
  | .error error => ⟨.error error, parsed.context, parsed.journal⟩
  | .ok tokens =>
    let handler := handler.after parsed.journal.diagnostics
    let rendered := profile.transform methods parsed.context handler binder content tokens
    { rendered with journal := parsed.journal ++ rendered.journal }

end Profile

namespace Message

/-- Parses a text with a profile. -/
def parse (profile : Profile) (methods : Methods) (context : Context) (handler : Handler)
    (content : String) : Outcome Message :=
  let parsed := profile.parse methods context handler content
  { parsed with result := parsed.result.map fun tokens => ⟨content, tokens, profile⟩ }

@[simp] theorem context_parse (profile : Profile) (methods : Methods) (context : Context)
    (handler : Handler) (content : String) :
    (parse profile methods context handler content).context = context :=
  profile.context_parse methods context handler content

/-- The binder with the message's profile and the message itself under their types, unless it has
values for these types already. -/
def equip (message : Message) (binder : Binder) : Binder :=
  let binder :=
    if binder.isTypeBound .profile then binder else (binder.bindType (.profile message.profile)).2
  if binder.isTypeBound .message then binder else (binder.bindType (.message message)).2

/-- Whether the binder has values for the types that a message binds. -/
def suppliedBy (binder : Binder) : Bool :=
  binder.isTypeBound .profile && binder.isTypeBound .message

/-- Renders the message with a binder that becomes its own. -/
def transformOwned (message : Message) (methods : Methods) (context : Context) (handler : Handler)
    (binder : Binder) : Outcome String :=
  message.profile.transform methods context handler (message.equip binder) message.content
    message.tokens

/-- Renders the message. A binder that lacks nothing is used as it is. -/
def transform (message : Message) (methods : Methods) (context : Context) (handler : Handler)
    (binder : Binder) : Outcome String :=
  if suppliedBy binder then
    message.profile.transform methods context handler binder message.content message.tokens
  else message.transformOwned methods context handler binder

/-- Renders the message without any values. -/
def render (message : Message) (methods : Methods) (context : Context) (handler : Handler) :
    Outcome String :=
  message.transformOwned methods context handler (.empty false)

end Message

end Phrasebook
