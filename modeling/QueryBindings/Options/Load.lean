import QueryBindings.Log.Traced
import QueryBindings.Options.Fault

/-!
# Loading options

Options come as bytes, as a text, or as a value that has been read already.  All
three end in an object that must name the module of the imported types; its
other members are kept and reported.
-/

namespace QueryBindings

inductive OptionsSource where
  | bytes (bytes : Text.Bytes)
  | text (text : List Char)
  | value (value : Json.Value)

structure Options where
  typesPath : Json.JsonString
  /-- The other members, in order. -/
  custom : Json.Members
  deriving Repr

namespace Options

open Log (Traced Level)

def typesPathKey : Json.JsonString := Json.JsonString.ofString "types_path"

def isBlankPoint : Json.CodePoint → Bool
  | .scalar c => Text.isBlank c
  | .surrogate _ => false

/-- The path, if it is a text that an import line can hold. -/
def checkTypesPath : Option Json.Value → Except OptionsFault Json.JsonString
  | none | some .null => .error .noTypesPath
  | some (.text path) =>
      if path.all isBlankPoint then .error .blankTypesPath
      else if path.contains (.scalar '"') || path.contains (.scalar '\n') then
        .error (.invalidTypesPath path)
      else .ok path
  | some _ => .error .blankTypesPath

def unknownSetting (member : Json.JsonString × Json.Value) : Log.Record :=
  ⟨Level.warning, "Ignoring unknown plugin setting: " ++ member.1.shown⟩

/-- The options of an object's members; warnings come only with success. -/
def ofMembers (members : Json.Members) : Traced OptionsFault Options :=
  match checkTypesPath (members.lookup typesPathKey) with
  | .error fault => .fail fault
  | .ok path =>
      let custom := members.erase typesPathKey
      ⟨custom.map unknownSetting, .ok ⟨path, custom⟩⟩

def ofValue : Json.Value → Traced OptionsFault Options
  | .null => .fail .missing
  | .object members => ofMembers members
  | _ => .fail .notAnObject

def ofText (text : List Char) (levels : Nat := Json.mostLevels) :
    Traced OptionsFault Options :=
  if text.all Text.isBlank then .fail .missing
  else
    match Json.readText .keepLast text levels with
    | .error fault => .fail (.unreadable text fault)
    | .ok value => ofValue value

def ofBytes (bytes : Text.Bytes) (levels : Nat := Json.mostLevels) :
    Traced OptionsFault Options :=
  match Text.decodeChars bytes with
  | .error fault => .fail (.encoding fault)
  | .ok text => ofText text levels

/-- Options from any source; a value that is a text is read as one. -/
def load (source : OptionsSource) (levels : Nat := Json.mostLevels) :
    Traced OptionsFault Options :=
  match source with
  | .bytes bytes => ofBytes bytes levels
  | .text text => ofText text levels
  | .value (.text s) =>
      match s.toChars? with
      | some text => ofText text levels
      | none => .fail .notAnObject
  | .value value => ofValue value

end Options

end QueryBindings
