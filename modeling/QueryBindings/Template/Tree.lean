/-!
# Templates as trees

A template is a sequence of pieces: literal text, printed expressions, loops and
branches.  The sequence is part of the tree, each piece holding what follows it,
so that one recursion covers pieces and sequences alike.
-/

namespace QueryBindings

inductive Expr where
  | ref (name : String)
  | literal (text : String)
  | field (owner : Expr) (name : String)
  | filtered (argument : Expr) (filter : String)
  | negation (argument : Expr)
  | isNone (argument : Expr)
  | equals (left right : Expr)
  /-- The first alternative if the condition holds, otherwise the second. -/
  | choice (first condition second : Expr)
  deriving DecidableEq, Repr

/-- A template from some place to its end, or to the end of its block. -/
inductive Template where
  | done
  | text (text : String) (rest : Template)
  | output (value : Expr) (rest : Template)
  /-- The body once for each item, or the alternative if there is no item. -/
  | forEach (name : String) (items : Expr) (body ifEmpty rest : Template)
  | branch (condition : Expr) (yes no rest : Template)
  deriving DecidableEq, Repr

namespace Template

def append : Template → Template → Template
  | done, next => next
  | text s rest, next => text s (rest.append next)
  | output e rest, next => output e (rest.append next)
  | forEach name items body ifEmpty rest, next =>
      forEach name items body ifEmpty (rest.append next)
  | branch condition yes no rest, next => branch condition yes no (rest.append next)

@[simp] theorem append_done (template : Template) : template.append done = template := by
  induction template <;> simp_all [append]

end Template

end QueryBindings
