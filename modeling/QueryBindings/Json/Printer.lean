import QueryBindings.Json.Value
import QueryBindings.Text.Digit

/-!
# Printing JSON

The layout of responses: two spaces of indentation for each level, one member or
item on a line, and only ASCII characters.
-/

namespace QueryBindings.Json

def unitEscape (n : Nat) : List Char :=
  '\\' :: 'u' :: Text.hexDigits 4 n

def printPoint : CodePoint → List Char
  | .surrogate n => unitEscape n
  | .scalar c =>
      if c == '"' || c == '\\' then ['\\', c]
      else if c == '\n' then ['\\', 'n']
      else if c == '\r' then ['\\', 'r']
      else if c == '\t' then ['\\', 't']
      else if c == '\x08' then ['\\', 'b']
      else if c == '\x0c' then ['\\', 'f']
      else if ' ' ≤ c && c ≤ '~' then [c]
      else if c.toNat < 0x10000 then unitEscape c.toNat
      else
        let n := c.toNat - 0x10000
        unitEscape (0xD800 + n / 0x400) ++ unitEscape (0xDC00 + n % 0x400)

def printString (s : JsonString) : List Char :=
  '"' :: s.flatMap printPoint ++ ['"']

def newLine (depth : Nat) : List Char :=
  '\n' :: List.replicate (2 * depth) ' '

mutual

def printValue (depth : Nat) : Value → List Char
  | .null => "null".toList
  | .bool true => "true".toList
  | .bool false => "false".toList
  | .int n => (toString n).toList
  | .real r => r.shown.toList
  | .text s => printString s
  | .array items =>
      if items.isEmpty then ['[', ']']
      else
        '[' :: newLine (depth + 1) ++ printItems (depth + 1) items ++ newLine depth ++ [']']
  | .object members =>
      if members.isEmpty then ['\x7b', '\x7d']
      else
        '\x7b' :: newLine (depth + 1) ++ printMembers (depth + 1) members ++
          newLine depth ++ ['\x7d']
termination_by structural value => value

def printItems (depth : Nat) : List Value → List Char
  | [] => []
  | item :: rest =>
      printValue depth item ++
        (if rest.isEmpty then [] else ',' :: newLine depth) ++ printItems depth rest
termination_by structural items => items

def printMembers (depth : Nat) : List (JsonString × Value) → List Char
  | [] => []
  | member :: rest =>
      printMember depth member ++
        (if rest.isEmpty then [] else ',' :: newLine depth) ++ printMembers depth rest
termination_by structural members => members

def printMember (depth : Nat) : JsonString × Value → List Char
  | (key, value) => printString key ++ ':' :: ' ' :: printValue depth value
termination_by structural member => member

end

def print (value : Value) : List Char :=
  printValue 0 value

end QueryBindings.Json
