import TextCriteria.Builder.Model
import TextCriteria.Document.Cache
import TextCriteria.Log.Logger
import TextCriteria.Settings.Default

namespace TextCriteria

/-!
# Sessions

A session is everything that operations may find and leave behind: the environment, the default
settings, files, loggers, builders by name and what was stored under a name.

* `Session` — the state; `Action`, an operation on it that may fail and keeps what was done before.
* `Session.builder` — the builder with a name, made at its first use.
* `useLog` — an operation on loggers and files within a session.
-/

/-- What can be stored under a name. -/
inductive Stored
  | pattern (c : Pattern.Compiled)
  | validator (v : Validator)
  deriving Repr

/-- The state of a session. -/
structure Session where
  environment : Environment := {}
  defaults : DefaultSettings := {}
  log : Log.LogState := {}
  documents : Document.Cache := {}
  builders : List (String × Builder) := []
  stored : List (String × Stored) := []
  deriving Repr

/-- An operation. -/
abbrev Action := ExceptT Failure (StateM Session)

/-- A list of pairs with one more, in place of an earlier one of its name. -/
def putNamed {α : Type} (name : String) (a : α) (l : List (String × α)) : List (String × α) :=
  (name, a) :: l.filter fun x => x.1 != name

namespace Session

/-- Notes go to the log. -/
def note (notes : List Note) (s : Session) : Session :=
  { s with log := notes.foldl Log.emitNote s.log }

/-- A builder under a name. -/
def putBuilder (name : String) (b : Builder) (s : Session) : Session :=
  { s with builders := putNamed name b s.builders }

/-- Something stored under a name. -/
def store (name : String) (a : Stored) (s : Session) : Session :=
  { s with stored := putNamed name a s.stored }

end Session

/-- An operation on the default settings. -/
def useDefaults (f : DefaultSettings → Environment → Except Failure Settings × DefaultSettings) :
    Action Settings := do
  let s ← get
  let (result, defaults) := f s.defaults s.environment
  set { s with defaults }
  result

/-- The default settings. -/
def defaultSettings : Action Settings := useDefaults DefaultSettings.get

/-- An operation on loggers and files. -/
def useLog {α : Type} (a : Log.LogAction α) : Action α := do
  let s ← get
  let (result, log) := a.run.run s.log
  set { s with log }
  result

/-- An operation on files alone. -/
def useFiles (f : Files → Except Failure Files) : Action Unit := do
  let s ← get
  let files ← f s.log.files
  set { s with log := { s.log with files } }

/-- The builder with a name. If there is none, it is made with the default settings. -/
def builder (name : String) : Action Builder := do
  match (← get).builders.lookup name with
  | some b => return b
  | none =>
    let b := Builder.create .null (← defaultSettings)
    modify (Session.putBuilder name b)
    return b

/-- The content of a file of configuration. -/
def document (path : String) (base : Option String) : Action Value := do
  let s ← get
  let (result, documents) := s.documents.load s.log.files path base
  set { s with documents }
  result

/-- What is stored under a name as a validator. -/
def storedValidator (name : String) : Action Validator := do
  match (← get).stored.lookup name with
  | some (.validator v) => return v
  | _ => throw (.nothingStored name)

/-- What is stored under a name as a pattern. -/
def storedPattern (name : String) : Action Pattern.Compiled := do
  match (← get).stored.lookup name with
  | some (.pattern c) => return c
  | _ => throw (.nothingStored name)

end TextCriteria
