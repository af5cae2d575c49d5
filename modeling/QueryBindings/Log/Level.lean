import QueryBindings.Text.Blank
import QueryBindings.Text.Case

/-!
# Log levels

Levels are numbers, a few of which have names.  A level may be given by name, in
any letter case and with white space around it, or as a number.
-/

namespace QueryBindings.Log

/-- A severity; records of a greater level are more severe. -/
abbrev Level := Int

namespace Level

def debug : Level := 10
def info : Level := 20
def warning : Level := 30
def error : Level := 40

def names : List (String × Level) :=
  [("NOTSET", 0), ("DEBUG", 10), ("INFO", 20), ("WARN", 30), ("WARNING", 30), ("ERROR", 40),
    ("FATAL", 50), ("CRITICAL", 50)]

def ofName? (name : String) : Option Level :=
  names.lookup name

/-- The name shown for a level; levels without one show their number. -/
def name (level : Level) : String :=
  if level = 0 then "NOTSET"
  else if level = 10 then "DEBUG"
  else if level = 20 then "INFO"
  else if level = 30 then "WARNING"
  else if level = 40 then "ERROR"
  else if level = 50 then "CRITICAL"
  else "Level " ++ toString level

end Level

inductive LevelChoice where
  | named (name : String)
  | number (level : Level)
  deriving DecidableEq, Repr

/-- A name that no level has, without the white space around it. -/
structure UnknownLevel where
  name : String
  deriving DecidableEq, Repr

namespace UnknownLevel

def message (fault : UnknownLevel) : String :=
  "Invalid log level: " ++ fault.name

end UnknownLevel

def defaultLevelName : String := "WARNING"

/-- The level of a name in any letter case; a blank name means the default. -/
def namedLevel (name : String) : Except UnknownLevel Level :=
  let trimmed := Text.trim name
  let shown := if trimmed = "" then defaultLevelName else trimmed
  match Level.ofName? (Text.upper shown) with
  | some level => .ok level
  | none => .error ⟨shown⟩

/--
The level of a choice.  Without a choice the name comes from the environment,
and without that it is blank.
-/
def resolveLevel (choice : Option LevelChoice) (environment : Option String) :
    Except UnknownLevel Level :=
  match choice with
  | some (.number level) => .ok level
  | some (.named name) => namedLevel name
  | none => namedLevel (environment.getD "")

theorem resolveLevel_of_choice (choice : LevelChoice) (first second : Option String) :
    resolveLevel (some choice) first = resolveLevel (some choice) second := by
  cases choice <;> rfl

end QueryBindings.Log
