/-!
# Faults of queries

Why no code can be generated for a query.  A name may lack its action word or
start with one that is not supported, the command tag may be unknown, and a
parameter may be bound to no column.
-/

namespace QueryBindings

def actionWords : List String := ["Get", "Insert", "Update", "Upsert", "Delete"]

def commandTags : List String := [":one", ":many", ":exec"]

inductive QueryFault where
  | malformedName (name : String)
  | unrecognizedAction (name word : String)
  | unrecognizedCommand (tag : String)
  /-- The parameter of this number has no column to take a name from. -/
  | unresolvedParameter (query : String) (number : Int)
  deriving DecidableEq, Repr

namespace QueryFault

def listed (words : List String) : String :=
  ", ".intercalate (words.map fun word => "\"" ++ word ++ "\"")

def concernsName : QueryFault → Bool
  | malformedName _ | unrecognizedAction _ _ => true
  | unrecognizedCommand _ | unresolvedParameter _ _ => false

def message : QueryFault → String
  | malformedName name =>
      "unexpected name <" ++ name ++ "> (examples: \"GetFoo\", \"InsertBar\", " ++
        "\"UpdateBazWithQux\", \"DeleteFooWithBar\")"
  | unrecognizedAction name word =>
      "unexpected name prefix <" ++ word ++ "> in <" ++ name ++ "> (allowed: " ++
        listed actionWords ++ ")"
  | unrecognizedCommand tag =>
      "unexpected command <" ++ tag ++ "> (allowed: " ++ listed commandTags ++ ")"
  | unresolvedParameter query number =>
      "unknown parameter name at position " ++ toString number ++ " for query " ++ query

end QueryFault

end QueryBindings
