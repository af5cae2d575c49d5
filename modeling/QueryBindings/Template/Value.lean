import QueryBindings.Text.Quoted

/-!
# Template values

What variables of a template stand for.  A value that is missing is no fault
until something is done with it, so it is a value too (`StrictUndefined` of Jinja2).

Equations are covered between values of one kind that have no parts; all others
are false.  The fields of a record are its keys and nothing else.
-/

namespace QueryBindings.Template

/-- Something that a template names and its context does not have. -/
inductive Missing where
  | name (name : String)
  | field (owner name : String)
  deriving DecidableEq, Repr

namespace Missing

def message : Missing → String
  | .name shown => Text.quoted shown ++ " is undefined"
  | .field owner shown => Text.quoted owner ++ " has no attribute " ++ Text.quoted shown

end Missing

inductive Value where
  | none
  | bool (b : Bool)
  | int (n : Int)
  /-- A number with a fraction, by its printed form. -/
  | real (shown : String)
  | text (s : String)
  | list (items : List Value)
  | record (fields : List (String × Value))
  | missing (what : Missing)
  deriving Repr

/-- What an expression cannot do with a value. -/
inductive EvalFault where
  | missing (what : Missing)
  | unknownFilter (name : String)
  | notIterable (kind : String)
  deriving DecidableEq, Repr

namespace EvalFault

def message : EvalFault → String
  | missing what => what.message
  | unknownFilter name => "No filter named " ++ Text.quoted name ++ " found."
  | notIterable kind => Text.quoted kind ++ " object is not iterable"

end EvalFault

namespace Value

def kind : Value → String
  | none => "NoneType"
  | bool _ => "bool"
  | int _ => "int"
  | real _ => "float"
  | text _ => "str"
  | list _ => "list"
  | record _ => "dict"
  | missing _ => "Undefined"

mutual

/-- A value inside a list or record: texts are quoted there. -/
def shown : Value → String
  | none => "None"
  | bool true => "True"
  | bool false => "False"
  | int n => toString n
  | real s => s
  | text s => Text.quoted s
  | list items => "[" ++ shownItems items ++ "]"
  | record fields => "\x7b" ++ shownFields fields ++ "\x7d"
  | missing _ => ""
termination_by structural value => value

def shownItems : List Value → String
  | [] => ""
  | value :: rest =>
      value.shown ++ (if rest.isEmpty then "" else ", ") ++ shownItems rest
termination_by structural items => items

def shownFields : List (String × Value) → String
  | [] => ""
  | field :: rest =>
      shownField field ++ (if rest.isEmpty then "" else ", ") ++ shownFields rest
termination_by structural fields => fields

def shownField : String × Value → String
  | (key, value) => Text.quoted key ++ ": " ++ value.shown
termination_by structural field => field

end

/-- The text that a printed value leaves in the output. -/
def print : Value → Except EvalFault String
  | missing what => .error (.missing what)
  | text s => .ok s
  | value => .ok value.shown

/-- Whether a value counts as true: nothing, zero and what is empty do not. -/
def isTrue : Value → Except EvalFault Bool
  | missing what => .error (.missing what)
  | none => .ok false
  | bool b => .ok b
  | int n => .ok (n != 0)
  | real s => .ok (s != "0.0" && s != "-0.0")
  | text s => .ok (s != "")
  | list items => .ok (!items.isEmpty)
  | record fields => .ok (!fields.isEmpty)

def items : Value → Except EvalFault (List Value)
  | missing what => .error (.missing what)
  | list values => .ok values
  | text s => .ok (s.toList.map fun c => text (String.singleton c))
  | record fields => .ok (fields.map fun field => text field.1)
  | value => .error (.notIterable value.kind)

def field (name : String) : Value → Except EvalFault Value
  | missing what => .error (.missing what)
  | record fields =>
      match fields.lookup name with
      | some value => .ok value
      | Option.none => .ok (missing (.field "dict object" name))
  | none => .ok (missing (.field "None" name))
  | value => .ok (missing (.field (value.kind ++ " object") name))

/-- Whether two values without parts are equal. -/
def isEqual : Value → Value → Except EvalFault Bool
  | missing what, _ | _, missing what => .error (.missing what)
  | none, none => .ok true
  | bool a, bool b => .ok (a == b)
  | int a, int b => .ok (a == b)
  | real a, real b => .ok (a == b)
  | text a, text b => .ok (a == b)
  | _, _ => .ok false

end Value

end QueryBindings.Template
