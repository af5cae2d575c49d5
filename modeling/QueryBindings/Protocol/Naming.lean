import QueryBindings.Text.Case

/-!
# Member names

The name of a message field in the JSON mapping of proto3: its words, which
underscores separate, with a capital at the start of every word but the first.
-/

namespace QueryBindings.Protocol

/-- The parts of a name between underscores: the first part and the others. -/
def splitWords : List Char → List Char × List (List Char)
  | [] => ([], [])
  | c :: rest =>
      let (word, words) := splitWords rest
      if c = '_' then ([], word :: words) else (c :: word, words)

/-- The words of a name joined with inner capitals. -/
def jsonNameChars (name : List Char) : List Char :=
  let (first, others) := splitWords name
  first ++ others.flatMap Text.upperFirstChars

def jsonName (name : String) : String :=
  String.ofList (jsonNameChars name.toList)

theorem splitWords_of_not_mem {name : List Char} (h : '_' ∉ name) :
    splitWords name = (name, []) := by
  induction name with
  | nil => rfl
  | cons c rest ih =>
      have hc : c ≠ '_' := fun equal => h (by simp [equal])
      have hrest : '_' ∉ rest := fun inside => h (List.mem_cons_of_mem c inside)
      simp [splitWords, ih hrest, hc]

end QueryBindings.Protocol
