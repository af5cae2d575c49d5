import QueryBindings.Log.Traced

/-!
# The package logger

Loggers form a hierarchy by the dots in their names.  The package logger has a
level and handlers of its own; a logger below it shares its level, and every
other logger has the level of the root.  Configuring it takes one handler after
the other away before it adds its own.
-/

namespace QueryBindings.Log

/-- The name of the logger that all loggers of the package stand below. -/
def packageName : String := "sqlc_gen_typescript"

/-- The environment variable that gives the level when no argument does. -/
def levelVariable : String := "SQLC_GEN_TYPESCRIPT_LOG_LEVEL"

def rootLevel : Level := Level.warning

/--
What writes the records of a logger to a console.  Handlers are told apart by their
identity; two of them may write to one console.
-/
structure Handler (Console : Type) where
  identity : Nat
  console : Console
  deriving DecidableEq, Repr

namespace Handler

variable {Console : Type}

def isSame (handler other : Handler Console) : Bool :=
  handler.identity == other.identity

def fresh (others : List (Handler Console)) (console : Console) : Handler Console :=
  ⟨others.foldr (fun other bound => max (other.identity + 1) bound) 0, console⟩

@[simp] theorem fresh_console (others : List (Handler Console)) (console : Console) :
    (fresh others console).console = console := rfl

@[simp] theorem isSame_self (handler : Handler Console) : handler.isSame handler = true :=
  beq_self_eq_true handler.identity

end Handler

/-- The state of the package logger. -/
structure Logger (Console : Type) where
  level : Level
  handlers : List (Handler Console)
  deriving DecidableEq, Repr

namespace Logger

variable {Console : Type}

def initial : Logger Console :=
  ⟨Level.warning, []⟩

/-- Whether a logger is the package logger or stands below it. -/
def inPackage (name : String) : Bool :=
  name == packageName || (packageName ++ ".").toList.isPrefixOf name.toList

/-- The level that decides for the logger of a name; level zero defers to the root. -/
def effectiveLevel (logger : Logger Console) (name : String) : Level :=
  if inPackage name && logger.level != 0 then logger.level else rootLevel

/-- Whether a record passes; levels of zero and below never do. -/
def accepts (logger : Logger Console) (name : String) (level : Level) : Bool :=
  0 < level && logger.effectiveLevel name ≤ level

def send (logger : Logger Console) (name : String) (record : Record) : List Record :=
  if logger.accepts name record.level then [record] else []

def setLevel (logger : Logger Console) (level : Level) : Logger Console :=
  { logger with level := level }

def removeHandler (logger : Logger Console) (handler : Handler Console) : Logger Console :=
  { logger with handlers := logger.handlers.eraseP handler.isSame }

/-- Take away, one after the other, the handlers that the logger has at the start. -/
def removeHandlers (logger : Logger Console) : Logger Console :=
  logger.handlers.foldl removeHandler logger

/-- Add a handler at the end, unless the logger has it. -/
def addHandler (logger : Logger Console) (handler : Handler Console) : Logger Console :=
  if logger.handlers.any handler.isSame then logger
  else { logger with handlers := logger.handlers ++ [handler] }

theorem removeHandler_head (level : Level) (handler : Handler Console)
    (rest : List (Handler Console)) :
    removeHandler ⟨level, handler :: rest⟩ handler = ⟨level, rest⟩ := by
  simp [removeHandler]

/--
Set the level and replace all handlers by one for the console.  A level that
does not resolve leaves the logger as it was.
-/
def configure (logger : Logger Console) (console : Console) (choice : Option LevelChoice)
    (environment : Option String) : Logger Console × Traced UnknownLevel Unit :=
  match resolveLevel choice environment with
  | .error fault => (logger, .fail fault)
  | .ok level =>
      let cleared := (logger.setLevel level).removeHandlers
      let configured := cleared.addHandler (.fresh logger.handlers console)
      (configured,
        ⟨configured.send packageName ⟨Level.debug, "Logging configured at " ++ level.name⟩,
          .ok ()⟩)

theorem configure_of_unknown (logger : Logger Console) (console : Console)
    {choice : Option LevelChoice} {environment : Option String} {fault : UnknownLevel}
    (h : resolveLevel choice environment = .error fault) :
    logger.configure console choice environment = (logger, .fail fault) := by
  simp [configure, h]

end Logger

end QueryBindings.Log
