import QueryBindings.Decimal.Shortest

/-!
# JSON values

Values as a JSON text means them.  Strings may hold surrogates that have no
partner, because escapes can write them; numbers are integers of any size or
keep the decimal that was written.
-/

namespace QueryBindings.Json

/-- A character, or a surrogate without a partner. -/
inductive CodePoint where
  | scalar (c : Char)
  | surrogate (n : Nat)
  deriving DecidableEq, Repr

abbrev JsonString := List CodePoint

namespace JsonString

def ofString (s : String) : JsonString :=
  s.toList.map .scalar

def toChars? : JsonString → Option (List Char)
  | [] => some []
  | .scalar c :: rest => (toChars? rest).map (c :: ·)
  | .surrogate _ :: _ => none

def toString? (s : JsonString) : Option String :=
  (toChars? s).map String.ofList

/-- The text for messages, with a replacement character for each surrogate. -/
def shown (s : JsonString) : String :=
  String.ofList (s.map fun
    | .scalar c => c
    | .surrogate _ => '\uFFFD')

theorem toChars?_map_scalar (cs : List Char) : toChars? (cs.map .scalar) = some cs := by
  induction cs with
  | nil => rfl
  | cons c cs ih => simp [toChars?, ih]

theorem eq_map_scalar_of_toChars? {s : JsonString} {cs : List Char} (h : s.toChars? = some cs) :
    s = cs.map .scalar := by
  induction s generalizing cs with
  | nil =>
      cases h
      rfl
  | cons point rest ih =>
      cases point with
      | surrogate n => contradiction
      | scalar c =>
          obtain ⟨others, hothers, rfl⟩ := Option.map_eq_some_iff.1 h
          rw [ih hothers, List.map_cons]

theorem toString?_ofString (s : String) : toString? (ofString s) = some s := by
  simp [toString?, ofString, toChars?_map_scalar]

end JsonString

/-- A number that is not written as an integer. -/
inductive Real where
  | notANumber
  | infinite (negative : Bool)
  | decimal (d : Decimal)
  deriving DecidableEq, Repr

namespace Real

/-- The shortest text of the nearest 64-bit number. -/
def shown : Real → String
  | notANumber => "nan"
  | infinite negative => if negative then "-inf" else "inf"
  | decimal d =>
      (if d.negative then "-" else "") ++
        match d.magnitude with
        | none => "inf"
        | some m => String.ofList m.print

/-- The nearest 64-bit number, if it is whole. -/
def toInt? : Real → Option Int
  | notANumber | infinite _ => none
  | decimal d =>
      match d.magnitude.bind Magnitude.toNat? with
      | none => none
      | some n => some (if d.negative then -(n : Int) else n)

end Real

/-- A JSON value; the members of an object are in the order of the text. -/
inductive Value where
  | null
  | bool (b : Bool)
  | int (n : Int)
  | real (r : Real)
  | text (s : JsonString)
  | array (items : List Value)
  | object (members : List (JsonString × Value))
  deriving Repr

abbrev Members := List (JsonString × Value)

namespace Members

/-- Give a key a value; a key that is there already keeps its place. -/
def insert (key : JsonString) (value : Value) : Members → Members
  | [] => [(key, value)]
  | member :: rest =>
      if member.1 = key then (key, value) :: rest else member :: insert key value rest

/-- Members in which repeated keys count once, with their first place and last value. -/
def keepLast (members : Members) : Members :=
  members.foldl (fun kept member => insert member.1 member.2 kept) []

/-- The first key that an earlier member has too. -/
def repeated? (seen : List JsonString) : Members → Option JsonString
  | [] => none
  | member :: rest =>
      if seen.contains member.1 then some member.1 else repeated? (member.1 :: seen) rest

def erase (key : JsonString) (members : Members) : Members :=
  members.filter fun member => member.1 != key

end Members

end QueryBindings.Json
