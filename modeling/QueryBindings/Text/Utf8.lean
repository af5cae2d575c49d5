import QueryBindings.Text.Digit

/-!
# UTF-8

Texts as bytes and back.  Reading goes byte by byte through a state that says
how many continuation bytes are owed and in which range the next one must lie,
so a fault is found at the first byte that no valid text could have there.  The
fault carries the longest run of bytes that began a character.
-/

namespace QueryBindings

namespace Text

abbrev Bytes := List UInt8

def encodeChars (cs : List Char) : Bytes :=
  cs.flatMap String.utf8EncodeChar

def encode (s : String) : Bytes :=
  encodeChars s.toList

inductive Utf8Reason where
  | invalidStart
  | invalidContinuation
  | unexpectedEnd
  deriving DecidableEq, Repr

/-- A run of bytes that is no character, with the place of its first byte. -/
structure Utf8Fault where
  position : Nat
  length : Nat
  lead : UInt8
  reason : Utf8Reason
  deriving DecidableEq, Repr

namespace Utf8Reason

def message : Utf8Reason → String
  | invalidStart => "invalid start byte"
  | invalidContinuation => "invalid continuation byte"
  | unexpectedEnd => "unexpected end of data"

end Utf8Reason

namespace Utf8Fault

/-- A run of one byte is shown with the byte, a longer one with its two ends. -/
def message (fault : Utf8Fault) : String :=
  let place :=
    if fault.length ≤ 1 then
      "byte 0x" ++ String.ofList (hexDigits 2 fault.lead.toNat) ++ " in position " ++
        toString fault.position
    else
      "bytes in position " ++ toString fault.position ++ "-" ++
        toString (fault.position + fault.length - 1)
  "'utf-8' codec can't decode " ++ place ++ ": " ++ fault.reason.message

end Utf8Fault

/-- A character begun by a lead byte and not yet complete. -/
structure PartialChar where
  lead : UInt8
  count : Nat
  /-- Continuation bytes owed. -/
  owed : Nat
  /-- Least and greatest value of the next byte. -/
  low : Nat
  high : Nat
  value : Nat
  deriving DecidableEq, Repr

inductive LeadByte where
  | single (c : Char)
  | begins (state : PartialChar)
  | invalid
  deriving DecidableEq, Repr

def readLead (byte : UInt8) : LeadByte :=
  let n := byte.toNat
  if n < 0x80 then .single (Char.ofNat n)
  else if n < 0xC2 then .invalid
  else if n < 0xE0 then .begins ⟨byte, 1, 1, 0x80, 0xBF, n - 0xC0⟩
  else if n < 0xF0 then
    .begins ⟨byte, 1, 2, if n = 0xE0 then 0xA0 else 0x80, if n = 0xED then 0x9F else 0xBF,
      n - 0xE0⟩
  else if n < 0xF5 then
    .begins ⟨byte, 1, 3, if n = 0xF0 then 0x90 else 0x80, if n = 0xF4 then 0x8F else 0xBF,
      n - 0xF0⟩
  else .invalid

/--
Read bytes from a place in the input, inside the character `open?` if there is
one.
-/
def decodeFrom (position : Nat) : Option PartialChar → Bytes → Except Utf8Fault (List Char)
  | none, [] => .ok []
  | some state, [] =>
      .error ⟨position - state.count, state.count, state.lead, .unexpectedEnd⟩
  | none, byte :: rest =>
      match readLead byte with
      | .single c => (decodeFrom (position + 1) none rest).map (c :: ·)
      | .begins state => decodeFrom (position + 1) (some state) rest
      | .invalid => .error ⟨position, 1, byte, .invalidStart⟩
  | some state, byte :: rest =>
      let n := byte.toNat
      if state.low ≤ n ∧ n ≤ state.high then
        let value := 64 * state.value + (n - 0x80)
        match state.owed with
        | 0 | 1 => (decodeFrom (position + 1) none rest).map (Char.ofNat value :: ·)
        | owed + 2 =>
            decodeFrom (position + 1)
              (some ⟨state.lead, state.count + 1, owed + 1, 0x80, 0xBF, value⟩) rest
      else
        .error ⟨position - state.count, state.count, state.lead, .invalidContinuation⟩

def decodeChars (bytes : Bytes) : Except Utf8Fault (List Char) :=
  decodeFrom 0 none bytes

def decode (bytes : Bytes) : Except Utf8Fault String :=
  (decodeChars bytes).map String.ofList

theorem decodeFrom_ascii (position : Nat) (byte : UInt8) (rest : Bytes)
    (h : byte.toNat < 0x80) :
    decodeFrom position none (byte :: rest) =
      (decodeFrom (position + 1) none rest).map (Char.ofNat byte.toNat :: ·) := by
  simp [decodeFrom, readLead, h]

end Text

end QueryBindings
