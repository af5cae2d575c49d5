import QueryBindings.Query.Fault

/-!
# Commands

The command tag of a query says how many rows it yields.
-/

namespace QueryBindings

/-- How many rows a query yields. -/
inductive Command where
  | one
  | many
  | exec
  deriving DecidableEq, Repr

namespace Command

def all : List Command := [one, many, exec]

def tag : Command → String
  | one => ":one"
  | many => ":many"
  | exec => ":exec"

def ofTag (tag : String) : Except QueryFault Command :=
  match all.find? fun command => command.tag == tag with
  | some command => .ok command
  | none => .error (.unrecognizedCommand tag)

/-- The name of the result's cardinality in generated code. -/
def resultMode : Command → String
  | one => "one"
  | many => "many"
  | exec => "none"

def returnsRows : Command → Bool
  | one | many => true
  | exec => false

theorem ofTag_tag (command : Command) : ofTag command.tag = .ok command := by
  cases command <;> rfl

theorem tag_of_ofTag {tag : String} {command : Command} (h : ofTag tag = .ok command) :
    command.tag = tag := by
  unfold ofTag at h
  split at h
  · rename_i found hfound
    cases h
    simpa using List.find?_some hfound
  · contradiction

end Command

end QueryBindings
