/-!
# Paths

Paths as lists of names.  Repeated and trailing slashes and names that stand for
the place itself are dropped; a name that leads upwards is kept, because where it
leads depends on what is stored.
-/

namespace QueryBindings.Storage

structure Path where
  /-- How many slashes it starts with: none, one, or exactly two. -/
  slashes : Nat
  names : List String
  deriving DecidableEq, Repr

namespace Path

def here : String := "."

def above : String := ".."

/-- The parts of a text between slashes: the first part and the others. -/
def splitSlashes : List Char → List Char × List (List Char)
  | [] => ([], [])
  | c :: rest =>
      let (part, parts) := splitSlashes rest
      if c = '/' then ([], part :: parts) else (c :: part, parts)

def namesOf (text : List Char) : List String :=
  let (part, parts) := splitSlashes text
  ((part :: parts).map String.ofList).filter fun name => name != "" && name != here

/-- The path of a text.  Only exactly two slashes at the start differ from one. -/
def ofString (text : String) : Path :=
  let chars := text.toList
  let leading := (chars.takeWhile (· == '/')).length
  ⟨if leading ≤ 2 then leading else 1, namesOf chars⟩

def shown (path : Path) : String :=
  if path.slashes = 0 ∧ path.names = [] then here
  else String.ofList (List.replicate path.slashes '/') ++ "/".intercalate path.names

end Path

end QueryBindings.Storage
