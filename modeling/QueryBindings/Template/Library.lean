import QueryBindings.Template.Reader
import QueryBindings.Template.Render

/-!
# Template libraries

Templates by name, as a loader of Jinja2 serves them.  A text is read when it is
used, so a text that is no template can be stored, and storing a text again replaces
the earlier one.
-/

namespace QueryBindings.Template

abbrev Library := List (String × String)

inductive LoadFault where
  | absent
  | unreadable (fault : ReadFault)
  | unknownFilter (filter : String)
  deriving DecidableEq, Repr

namespace LoadFault

def message (name : String) : LoadFault → String
  | absent => name
  | unreadable fault => fault.message
  | unknownFilter filter => "No filter named " ++ Text.quoted filter ++ "."

end LoadFault

inductive RenderFault where
  | load (fault : LoadFault)
  | evaluation (fault : EvalFault)
  deriving DecidableEq, Repr

namespace RenderFault

def message (name : String) (fault : RenderFault) : String :=
  "Failed to render template " ++ name ++ ": " ++
    match fault with
    | load fault => fault.message name
    | evaluation fault => fault.message

end RenderFault

namespace Library

/-- Store a text under a name, in place of the one stored before. -/
def insert (name text : String) : Library → Library
  | [] => [(name, text)]
  | entry :: rest =>
      if entry.1 = name then (name, text) :: rest else entry :: insert name text rest

def insertAll (entries : List (String × String)) (library : Library) : Library :=
  entries.foldl (fun library entry => library.insert entry.1 entry.2) library

def load (library : Library) (name : String) : Except LoadFault Template :=
  match library.lookup name with
  | none => .error .absent
  | some source =>
      match Template.read source with
      | .error fault => .error (.unreadable fault)
      | .ok template =>
          match template.unknownFilter? false with
          | some filter => .error (.unknownFilter filter)
          | none => .ok template

/-- Whether there is a template of a name; one that cannot be used is a fault. -/
def exists? (library : Library) (name : String) : Except LoadFault Bool :=
  match library.load name with
  | .ok _ => .ok true
  | .error .absent => .ok false
  | .error fault => .error fault

def render (library : Library) (name : String) (scope : Scope) :
    Except RenderFault String :=
  match library.load name with
  | .error fault => .error (.load fault)
  | .ok template => (Template.render template scope).mapError .evaluation

end Library

end QueryBindings.Template
