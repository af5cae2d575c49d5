import QueryBindings.Text.CaseTable

/-!
# Letter case

Lower and upper case of a text, character by character, after the tables.  One
character may become several, so the mappings yield lists.
-/

namespace QueryBindings

namespace Text

def CaseRun.covers (run : CaseRun) (n : Nat) : Bool :=
  run.first ≤ n && n ≤ run.last && (n - run.first) % run.stride == 0

/-- The image of a character under a case table; exceptions come before runs. -/
def mapCase (runs : List CaseRun) (exceptions : List (Nat × List Nat)) (c : Char) :
    List Char :=
  match exceptions.lookup c.toNat with
  | some image => image.map Char.ofNat
  | none =>
      match runs.find? (·.covers c.toNat) with
      | some run => [Char.ofNat (Int.toNat (c.toNat + run.shift))]
      | none => [c]

def lowerChar (c : Char) : List Char :=
  mapCase lowerRuns lowerExceptions c

def upperChar (c : Char) : List Char :=
  mapCase upperRuns upperExceptions c

def upper (s : String) : String :=
  String.ofList (s.toList.flatMap upperChar)

def lowerFirstChars : List Char → List Char
  | [] => []
  | c :: rest => lowerChar c ++ rest

def lowerFirst (s : String) : String :=
  String.ofList (lowerFirstChars s.toList)

def upperFirstChars : List Char → List Char
  | [] => []
  | c :: rest => upperChar c ++ rest

end Text

end QueryBindings
