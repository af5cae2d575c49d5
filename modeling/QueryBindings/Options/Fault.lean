import QueryBindings.Json.Reader
import QueryBindings.Text.Quoted
import QueryBindings.Text.Utf8

/-!
# Faults of options

Why the options of a request configure nothing.
-/

namespace QueryBindings

namespace Json.JsonString

/-- A code point between quotes of the given kind; a surrogate is always escaped. -/
def quotedPoint (quote : Char) : CodePoint → List Char
  | .scalar c => Text.quotedChar quote c
  | .surrogate n => '\\' :: 'u' :: Text.hexDigits 4 n

def quoted (s : JsonString) : String :=
  let quote := Text.quoteFor (s.filterMap fun
    | .scalar c => some c
    | .surrogate _ => none)
  String.ofList (quote :: s.flatMap (quotedPoint quote) ++ [quote])

end Json.JsonString

inductive OptionsFault where
  | encoding (fault : Text.Utf8Fault)
  | missing
  | unreadable (text : List Char) (fault : Json.ReadFault)
  | notAnObject
  | noTypesPath
  | blankTypesPath
  /-- A path that an import line cannot hold. -/
  | invalidTypesPath (path : Json.JsonString)
  deriving DecidableEq, Repr

namespace OptionsFault

def message : OptionsFault → String
  | encoding fault => "faulty plugin settings encoding: " ++ fault.message
  | missing => "missing plugin settings (expected an options block)"
  | unreadable text fault =>
      if fault.kind.hasPlace then "malformed plugin settings: " ++ fault.message text
      else fault.message text
  | notAnObject => "malformed plugin settings: expected a JSON object"
  | noTypesPath => "malformed plugin settings: missing field `types_path`"
  | blankTypesPath =>
      "malformed plugin settings: `types_path` must be a non-empty string"
  | invalidTypesPath path =>
      "malformed plugin settings: invalid `types_path` " ++ path.quoted

def limit? : OptionsFault → Option Json.Limit
  | unreadable _ fault => fault.kind.limit?
  | _ => none

/-- Whether the options are at fault, and no limit of readers. -/
def concernsOptions (fault : OptionsFault) : Bool :=
  fault.limit?.isNone

end OptionsFault

end QueryBindings
