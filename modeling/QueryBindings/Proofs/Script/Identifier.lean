import Mathlib.Data.List.TakeWhile

/-!
# Identifiers in scripts

An identifier of ECMAScript begins with a letter, a dollar sign or an underscore, and
digits may stand after that.  Letters of other alphabets, which scripts also admit, are
left out here.  What a module binds is an identifier that is neither a reserved word nor
one of the two names that no strict code binds.
-/

namespace QueryBindings.Script.Identifier

def isStart (c : Char) : Bool := c.isAlpha || c == '$' || c == '_'

def isPart (c : Char) : Bool := isStart c || c.isDigit

/-- The reserved words of modules, those of strict code included. -/
def reservedWords : List String :=
  ["await", "break", "case", "catch", "class", "const", "continue", "debugger", "default",
    "delete", "do", "else", "enum", "export", "extends", "false", "finally", "for",
    "function", "if", "implements", "import", "in", "instanceof", "interface", "let", "new",
    "null", "package", "private", "protected", "public", "return", "static", "super",
    "switch", "this", "throw", "true", "try", "typeof", "var", "void", "while", "with",
    "yield"]

/-- The identifiers that strict code has but does not bind. -/
def unboundNames : List String := ["arguments", "eval"]

def IsWellFormed (name : String) : Prop :=
  ∃ first rest, name.toList = first :: rest ∧ isStart first = true ∧
    ∀ c ∈ rest, isPart c = true

/-- A name that a module can bind. -/
structure IsBinding (name : String) : Prop where
  isWellFormed : IsWellFormed name
  notReserved : name ∉ reservedWords
  notUnbound : name ∉ unboundNames

/-- The identifier that a text begins with, and what follows it. -/
def read (text : List Char) : List Char × List Char :=
  (text.takeWhile isPart, text.dropWhile isPart)

theorem read_append_cons {name : String} {c : Char} (h : IsWellFormed name)
    (hc : isPart c = false) (rest : List Char) :
    read (name.toList ++ c :: rest) = (name.toList, c :: rest) := by
  obtain ⟨first, others, hname, hfirst, hothers⟩ := h
  have hparts : ∀ part ∈ name.toList, isPart part = true := by
    rw [hname]
    exact List.forall_mem_cons.2 ⟨by simp [isPart, hfirst], hothers⟩
  have hstop : ¬ isPart c = true := by simp [hc]
  rw [read, List.takeWhile_append_of_pos hparts, List.dropWhile_append_of_pos hparts,
    List.takeWhile_cons_of_neg hstop, List.dropWhile_cons_of_neg hstop, List.append_nil]

end QueryBindings.Script.Identifier
