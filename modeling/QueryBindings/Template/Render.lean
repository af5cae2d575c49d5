import QueryBindings.Template.Tree
import QueryBindings.Template.Value

/-!
# Rendering

The text of a template in a scope, as Jinja2 renders it.  Expressions are evaluated
in the order of the text, so the fault reported is the first one met.
-/

namespace QueryBindings.Template

/-- The variables of a template; the first of equal names counts. -/
abbrev Scope := List (String × Value)

def commentFilter : String := "doc_comment"

def docComment (description : String) : String :=
  "/** " ++ description ++ " */"

def evaluate (scope : Scope) : Expr → Except EvalFault Value
  | .ref name => .ok ((scope.lookup name).getD (.missing (.name name)))
  | .literal s => .ok (.text s)
  | .field owner name => do (← evaluate scope owner).field name
  | .filtered argument filter => do
      let value ← evaluate scope argument
      if filter = commentFilter then
        .ok (.text (docComment (← value.print)))
      else .error (.unknownFilter filter)
  | .negation argument => do
      let value ← evaluate scope argument
      .ok (.bool (!(← value.isTrue)))
  | .isNone argument => do
      match ← evaluate scope argument with
      | .none => .ok (.bool true)
      | _ => .ok (.bool false)
  | .equals left right => do
      let first ← evaluate scope left
      let second ← evaluate scope right
      .ok (.bool (← first.isEqual second))
  | .choice first condition second => do
      let value ← evaluate scope condition
      if ← value.isTrue then evaluate scope first else evaluate scope second

def withLast {α : Type} : List α → List (α × Bool)
  | [] => []
  | [item] => [(item, true)]
  | item :: next :: rest => (item, false) :: withLast (next :: rest)

def Scope.forItem (scope : Scope) (name : String) (item : Value) (last : Bool) : Scope :=
  (name, item) :: ("loop", .record [("last", .bool last)]) :: scope

/-- Two texts one after the other; the second is not looked at if the first fails. -/
def joinTexts (first second : Except EvalFault String) : Except EvalFault String :=
  first.bind fun a => second.map fun b => a ++ b

theorem joinTexts_assoc (first second third : Except EvalFault String) :
    joinTexts (joinTexts first second) third = joinTexts first (joinTexts second third) := by
  cases first <;> cases second <;> cases third <;>
    simp [joinTexts, Except.bind, Except.map, String.append_assoc]

@[simp] theorem joinTexts_empty (text : Except EvalFault String) :
    joinTexts (.ok "") text = text := by
  cases text <;> simp [joinTexts, Except.bind, Except.map]

def concatItems {α : Type} (text : α → Except EvalFault String) :
    List α → Except EvalFault String
  | [] => .ok ""
  | item :: rest => joinTexts (text item) (concatItems text rest)

def render : Template → Scope → Except EvalFault String
  | .done, _ => .ok ""
  | .text s rest, scope => joinTexts (.ok s) (render rest scope)
  | .output e rest, scope =>
      joinTexts ((evaluate scope e).bind Value.print) (render rest scope)
  | .forEach name items body ifEmpty rest, scope =>
      joinTexts
        (((evaluate scope items).bind Value.items).bind fun values =>
          if values.isEmpty then render ifEmpty scope
          else
            concatItems (fun item => render body (scope.forItem name item.1 item.2))
              (withLast values))
        (render rest scope)
  | .branch condition yes no rest, scope =>
      joinTexts
        (((evaluate scope condition).bind Value.isTrue).bind fun holds =>
          if holds then render yes scope else render no scope)
        (render rest scope)

theorem render_append (first second : Template) (scope : Scope) :
    render (first.append second) scope =
      joinTexts (render first scope) (render second scope) := by
  induction first with
  | done => simp [append, render]
  | text s rest ih => simp only [append, render, ih, joinTexts_assoc]
  | output e rest ih => simp only [append, render, ih, joinTexts_assoc]
  | forEach name items body ifEmpty rest _ _ ih =>
      simp only [append, render, ih, joinTexts_assoc]
  | branch condition yes no rest _ _ ih =>
      simp only [append, render, ih, joinTexts_assoc]

/-- The first unknown filter of an expression, outside the parts that may go unused. -/
def Expr.unknownFilter? : Expr → Option String
  | .ref _ | .literal _ => none
  | .field owner _ => unknownFilter? owner
  | .filtered argument filter =>
      if filter = commentFilter then unknownFilter? argument else some filter
  | .negation argument | .isNone argument => unknownFilter? argument
  | .equals left right => (unknownFilter? left).or (unknownFilter? right)
  | .choice _ _ _ => none

/--
The first unknown filter that makes a template unusable as a whole.  Filters
inside a branch are looked at only when the branch is taken, except that a loop
inside the branch counts as a whole again.
-/
def unknownFilter? (inBranch : Bool) : Template → Option String
  | .done => none
  | .text _ rest => unknownFilter? inBranch rest
  | .output e rest =>
      (if inBranch then none else Expr.unknownFilter? e).or (unknownFilter? inBranch rest)
  | .forEach _ items body ifEmpty rest =>
      (if inBranch then none else Expr.unknownFilter? items).or
        ((unknownFilter? false body).or
          ((unknownFilter? false ifEmpty).or (unknownFilter? inBranch rest)))
  | .branch _ yes no rest =>
      (unknownFilter? true yes).or ((unknownFilter? true no).or (unknownFilter? inBranch rest))

end QueryBindings.Template
