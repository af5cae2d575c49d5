import QueryBindings.Text.Blank

/-!
# Queries and batches

The queries that code is generated for, and their grouping by the source file
they come from.  Files stand in the order in which they first occur, and each
keeps the batch order of its queries.
-/

namespace QueryBindings

structure Column where
  name : String
  /-- The database type; a column may come without one. -/
  typeName : Option String := none
  notNull : Bool := false
  comment : String := ""
  deriving DecidableEq, Repr

namespace Column

def hasComment (column : Column) : Bool :=
  !Text.isAllBlank column.comment

def comment? (column : Column) : Option String :=
  if column.hasComment then some column.comment else none

end Column

structure Parameter where
  number : Int
  column : Option Column := none
  deriving DecidableEq, Repr

structure Query where
  name : String
  /-- The command tag as it was written. -/
  cmd : String
  text : String := ""
  params : List Parameter := []
  columns : List Column := []
  filename : String := ""
  deriving DecidableEq, Repr

structure OutputFile where
  name : String
  contents : String
  deriving DecidableEq, Repr

structure FileGroup where
  filename : String
  queries : List Query
  deriving DecidableEq, Repr

namespace FileGroup

/-- Append a query to the group of its file, which comes last if it is new. -/
def add (query : Query) : List FileGroup → List FileGroup
  | [] => [⟨query.filename, [query]⟩]
  | group :: rest =>
      if group.filename = query.filename then
        ⟨group.filename, group.queries ++ [query]⟩ :: rest
      else
        group :: add query rest

def ofBatch (queries : List Query) : List FileGroup :=
  queries.foldl (fun groups query => add query groups) []

end FileGroup

end QueryBindings
