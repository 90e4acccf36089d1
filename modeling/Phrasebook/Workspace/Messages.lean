import Phrasebook.Workspace.Languages

/-!
# Messages and registries in the workspace

Parsing, storing and rendering messages. Nothing that fails changes a registry.
-/

namespace Phrasebook.Session

variable {α : Type}

/-- The message of that name. -/
def findMessage (name : String) : Session Message := find Workspace.messages name

/-- Parses a message with a profile. -/
def parseMessage (profile : Profile) (content : String) : Session Message :=
  process profile fun methods context handler =>
    Message.parse profile methods context handler content

/-- Parses a message in a language and keeps it under a name. -/
def makeMessage (name : String) (language : Language) (content : String) : Session Message := do
  let message ← parseMessage language.profile content
  modify fun w => { w with messages := w.messages.insert name message }
  return message

/-- Renders a message. -/
def renderMessage (message : Message) (binder : Binder) : Session String :=
  process message.profile fun methods context handler =>
    message.transform methods context handler binder

/-- Renders a message with a binder that becomes its own. -/
def renderMessageOwned (message : Message) (binder : Binder) : Session String :=
  process message.profile fun methods context handler =>
    message.transformOwned methods context handler binder

/-- Renders a message without any values. -/
def renderMessageAlone (message : Message) : Session String :=
  process message.profile fun methods context handler => message.render methods context handler

/-! ## Registries -/

/-- Which registry is meant: the one of that name, or else the current one of the language. -/
def findRegistryId (name : Option String) (language : String) : Session RegistryId :=
  match name with
  | some name => find Workspace.registryNames name
  | none => do return (← findLanguage language).registry

/-- The registry of a number. -/
def registryAt (id : RegistryId) : Session Registry := do return (← get).registries.get id.index

/-- Changes a registry; if that fails it stays as it is. -/
def changeRegistry (id : RegistryId) (f : Registry → Except Error (α × Registry)) :
    Session α := do
  let (result, after) ← ofExcept (f (← registryAt id))
  modify fun w => { w with registries := w.registries.put id.index after }
  return result

/-- Makes a registry for the messages of a profile. -/
def makeRegistry (name : String) (profile : Profile) : Session Registry :=
  modifyGet fun w =>
    let registry := Registry.empty profile
    let (id, w) := w.addRegistry registry
    (registry, { w with registryNames := w.registryNames.insert name id })

/-- Makes a registry the current one of a language, which has to be its own: the registry that was
current until then. -/
def setRegistry (name : String) (id : RegistryId) : Session RegistryId := do
  let language ← findLanguage name
  let registry ← registryAt id
  if registry.identifier = language.profile.identifier then
    modify fun w =>
      { w with languages := w.languages.insert name { language with registry := id } }
    return language.registry
  else throw (.languageMismatch language.profile.identifier registry.identifier)

/-- Gives a registry a name. -/
def nameRegistry (name : String) (id : RegistryId) : Session Unit :=
  modify fun w => { w with registryNames := w.registryNames.insert name id }

/-- Parses a message in the registry's language, without storing it. -/
def createMessage (id : RegistryId) (content : String) : Session Message := do
  parseMessage (← registryAt id).profile content

/-- Parses a message and stores it under a key. -/
def storeMessage (id : RegistryId) (key content : String) : Session Message := do
  ofExcept (Registry.checkKey key)
  let message ← createMessage id content
  changeRegistry id fun registry => .ok (message, registry.put key message)

/-- Stores a message under a key: the message that it replaces. -/
def insertMessage (id : RegistryId) (key : String) (message : Message) :
    Session (Option Message) :=
  changeRegistry id fun registry => registry.insert key message

/-- The message under a key. -/
def getMessage (id : RegistryId) (key : String) : Session Message := do
  ofExcept ((← registryAt id).get key)

/-- Forgets the message under a key: the message. -/
def removeMessage (id : RegistryId) (key : String) : Session (Option Message) :=
  changeRegistry id fun registry => .ok (registry.get? key, registry.remove key)

/-- Forgets all messages of a registry. -/
def clearRegistry (id : RegistryId) : Session Unit :=
  changeRegistry id fun registry => .ok ((), registry.clear)

/-- Renders the message under a key. -/
def renderStored (id : RegistryId) (key : String) (binder : Binder) : Session String := do
  renderMessage (← getMessage id key) binder

end Phrasebook.Session
