import QueryBindings.Text.Utf8

/-!
# Numbers on the wire

The numbers of the wire format of protocol buffers: varints, seven bits to a byte and
the lowest bits first, and numbers of fixed width with the lowest byte first.  A reader
takes the bytes that are left and yields a number with the bytes after it.
-/

namespace QueryBindings.Wire

open Text (Bytes)

/-- Every byte below this one is the last of its number. -/
def continuation : Nat := 128

/--
Read a number of at most so many bytes.  Nothing is read if the bytes end inside
the number or the number is longer.
-/
def readVarint : Nat → Bytes → Option (Nat × Bytes)
  | 0, _ => none
  | _ + 1, [] => none
  | most + 1, byte :: rest =>
      if byte.toNat < continuation then some (byte.toNat, rest)
      else
        (readVarint most rest).map fun (n, rest) =>
          (byte.toNat - continuation + continuation * n, rest)

/-- The fewest bytes of a number that needs no more than so many. -/
def writeVarint : Nat → Nat → Bytes
  | 0, _ => []
  | most + 1, n =>
      if n < continuation then [UInt8.ofNat n]
      else
        UInt8.ofNat (n % continuation + continuation) :: writeVarint most (n / continuation)

/-- A number of 64 bits has at most ten bytes. -/
def widestVarint : Nat := 10

/-- The number whose lowest byte comes first. -/
def bytesToNat : Bytes → Nat
  | [] => 0
  | byte :: rest => byte.toNat + 256 * bytesToNat rest

def natToBytes : Nat → Nat → Bytes
  | 0, _ => []
  | width + 1, n => UInt8.ofNat (n % 256) :: natToBytes width (n / 256)

def takeBytes (size : Nat) (bytes : Bytes) : Option (Bytes × Bytes) :=
  if size ≤ bytes.length then some (bytes.take size, bytes.drop size) else none

theorem natToBytes_length (width n : Nat) : (natToBytes width n).length = width := by
  induction width generalizing n with
  | zero => rfl
  | succ width ih => simp [natToBytes, ih]

theorem takeBytes_append (content rest : Bytes) :
    takeBytes content.length (content ++ rest) = some (content, rest) := by
  simp [takeBytes]

theorem readVarint_shortens {most : Nat} {bytes rest : Bytes} {n : Nat}
    (h : readVarint most bytes = some (n, rest)) : rest.length < bytes.length := by
  induction most generalizing bytes n with
  | zero => simp [readVarint] at h
  | succ most ih =>
      cases bytes with
      | nil => simp [readVarint] at h
      | cons byte tail =>
          simp only [readVarint] at h
          split at h
          · cases h
            simp
          · obtain ⟨⟨m, left⟩, hread, heq⟩ := Option.map_eq_some_iff.1 h
            cases heq
            have := ih hread
            simp only [List.length_cons] at this ⊢
            omega

end QueryBindings.Wire
