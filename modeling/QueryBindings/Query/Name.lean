import QueryBindings.Query.Fault
import QueryBindings.Text.Case

/-!
# Query names

A query name begins with an action word: a capital letter and the longest run of
small letters after it.  The word decides what kind of connection the query
needs, and the whole name gives the identifier of the generated binding.
-/

namespace QueryBindings

inductive ConnectionMode where
  | read
  | write
  deriving DecidableEq, Repr

namespace ConnectionMode

def code : ConnectionMode → String
  | read => "r"
  | write => "w"

end ConnectionMode

/-- What a query does, as the first word of its name says. -/
inductive Action where
  | get
  | insert
  | update
  | upsert
  | delete
  deriving DecidableEq, Repr

namespace Action

def all : List Action := [get, insert, update, upsert, delete]

def word : Action → String
  | get => "Get"
  | insert => "Insert"
  | update => "Update"
  | upsert => "Upsert"
  | delete => "Delete"

def ofWord? (word : String) : Option Action :=
  all.find? fun action => action.word == word

def connectionMode : Action → ConnectionMode
  | get => .read
  | insert | update | upsert | delete => .write

theorem map_word_all : all.map word = actionWords := rfl

theorem ofWord?_word (action : Action) : ofWord? action.word = some action := by
  cases action <;> decide

end Action

/-- A query name whose action is known. -/
structure QueryName where
  name : String
  /-- The identifier under which the query is exported. -/
  valueName : String
  action : Action
  deriving DecidableEq, Repr

namespace QueryName

def isCapital (c : Char) : Bool := 'A' ≤ c && c ≤ 'Z'

def isSmall (c : Char) : Bool := 'a' ≤ c && c ≤ 'z'

/-- The leading word of a name: a capital and the longest run of small letters after it. -/
def leadingWord? : List Char → Option (List Char)
  | [] => none
  | c :: rest =>
      if isCapital c && !(rest.takeWhile isSmall).isEmpty then
        some (c :: rest.takeWhile isSmall)
      else none

def parse (name : String) : Except QueryFault QueryName :=
  match leadingWord? name.toList with
  | none => .error (.malformedName name)
  | some word =>
      match Action.ofWord? (String.ofList word) with
      | none => .error (.unrecognizedAction name (String.ofList word))
      | some action => .ok ⟨name, Text.lowerFirst name, action⟩

def connectionMode (name : QueryName) : ConnectionMode :=
  name.action.connectionMode

theorem name_of_parse {name : String} {parsed : QueryName} (h : parse name = .ok parsed) :
    parsed.name = name := by
  unfold parse at h
  split at h
  · contradiction
  · split at h
    · contradiction
    · cases h
      rfl

end QueryName

end QueryBindings
