import QueryBindings.Proofs.Json.Truncation
import QueryBindings.Proofs.Plugin.Handling
import QueryBindings.Proofs.Protocol.Insertion
import QueryBindings.Proofs.Text.Utf8
import QueryBindings.Proofs.Wire.Truncation

/-!
# Requests that are cut short

The beginning of a request is not taken for a smaller one.  A binary request is refused if it
is cut inside of a record, and a JSON object if its closing brace is missing.
-/

namespace QueryBindings.Plugin

open Text (Bytes)
open Json (JsonString Spaces)
open Wire (Divides IsBoundary IsRecord)

section Binary

variable {records : List Bytes} {request : Request}

theorem exists_absorbed {before : List Bytes} {rest : Bytes}
    (hrecords : ∀ record ∈ before, IsRecord record)
    (h : (Request.decode (before.flatten ++ rest) (.given .protobuf)).outcome = .ok request) :
    ∃ taken : Protocol.Request, ∀ left,
      Protocol.Binary.absorbBytes (default : Protocol.Request) (before.flatten ++ left) =
        Protocol.Binary.absorbBytes taken left := by
  obtain ⟨message, hmessage, rfl⟩ := Request.exists_message_of_decode h
  obtain ⟨fields, hfields⟩ := Wire.exists_fields hrecords
  have habsorb := Protocol.absorbBytes_append (default : Protocol.Request) hfields
  rw [habsorb] at hmessage
  cases htaken : Protocol.Binary.absorbAll (default : Protocol.Request) fields with
  | error fault =>
      rw [htaken] at hmessage
      contradiction
  | ok taken =>
      refine ⟨taken, fun left => ?_⟩
      rw [habsorb, htaken]
      rfl

theorem decode_of_boundary {place : Nat} (hrecords : ∀ record ∈ records, IsRecord record)
    (h : (Request.decode records.flatten (.given .protobuf)).outcome = .ok request)
    (hplace : IsBoundary records place) :
    ∃ smaller,
      (Request.decode (records.flatten.take place) (.given .protobuf)).outcome = .ok smaller := by
  obtain ⟨before, after, rfl, htake⟩ := Wire.take_of_isBoundary hplace
  rw [List.flatten_append] at h
  obtain ⟨taken, htaken⟩ :=
    exists_absorbed (fun record hrecord => hrecords record (List.mem_append_left _ hrecord)) h
  have hwhole := htaken []
  rw [List.append_nil] at hwhole
  rw [htake, Request.decode_binary_outcome, hwhole]
  exact ⟨_, rfl⟩

theorem decode_of_cut {place : Nat} (hrecords : ∀ record ∈ records, IsRecord record)
    (h : (Request.decode records.flatten (.given .protobuf)).outcome = .ok request)
    (hplace : place ≤ records.flatten.length) (hinside : ¬ IsBoundary records place) :
    (Request.decode (records.flatten.take place) (.given .protobuf)).outcome =
      .error (.binary .corrupt) := by
  obtain ⟨before, first, second, after, rfl, hfirst, hsecond, htake⟩ :=
    Wire.take_of_not_isBoundary hplace hinside
  obtain ⟨hbefore, hcut, _⟩ : (∀ record ∈ before, IsRecord record) ∧
      IsRecord (first ++ second) ∧ ∀ record ∈ after, IsRecord record := by
    simpa only [List.forall_mem_append, List.forall_mem_cons] using hrecords
  rw [List.flatten_append] at h
  obtain ⟨taken, htaken⟩ := exists_absorbed hbefore h
  rw [htake, Request.decode_binary_outcome, htaken, Protocol.Binary.absorbBytes,
    Wire.readFields_of_cut hcut hfirst hsecond]
  rfl

end Binary

section Json

variable {opening after : List Char} {members : Json.Members} {request : Request}

/-- The bytes of an object up to and with its closing brace. -/
def closedLength (opening : List Char) : Nat :=
  (Text.encodeChars (opening ++ ['\x7d'])).length

theorem decode_of_text {text other : List Char}
    (h : Json.readText .reject text = Json.readText .reject other)
    (hok : (Request.decode (Text.encodeChars other) (.given .json)).outcome = .ok request) :
    (Request.decode (Text.encodeChars text) (.given .json)).outcome = .ok request := by
  rw [Request.decode_given_outcome] at hok ⊢
  simp only [decodeMessage, Text.decodeChars_encodeChars, messageOfText] at hok ⊢
  cases hread : Json.readText .reject other with
  | error fault =>
      rw [hread] at hok
      contradiction
  | ok value =>
      rw [hread] at hok h
      rw [h]
      exact hok

theorem exists_fault_of_unread {text : List Char} {data : Bytes} {place : Nat}
    (hdata : data = Text.encodeChars text)
    (h : ∀ kept cut, text = kept ++ cut → Text.encodeChars kept = data.take place →
      ∀ value, Json.readText .reject kept ≠ .ok value) :
    ∃ fault, (Request.decode (data.take place) (.given .json)).outcome = .error fault := by
  rw [Request.decode_given_outcome]
  unfold decodeMessage
  cases hchars : Text.decodeChars (data.take place) with
  | error fault => exact ⟨_, rfl⟩
  | ok kept =>
      have hkept := Text.decodeChars_eq_ok_iff.1 hchars
      have hsplit : Text.encodeChars text = Text.encodeChars kept ++ data.drop place := by
        rw [← hkept, List.take_append_drop, hdata]
      obtain ⟨cut, htext, _⟩ := Text.exists_of_encodeChars_append hsplit
      simp only [messageOfText]
      cases hread : Json.readText .reject kept with
      | error fault => exact ⟨_, rfl⟩
      | ok value => exact absurd hread (h kept cut htext hkept.symm value)

theorem take_of_closed {place : Nat} (hafter : Spaces after)
    (hplace : closedLength opening ≤ place) :
    ∃ kept cut, opening ++ '\x7d' :: after = opening ++ ['\x7d'] ++ kept ++ cut ∧
      (Text.encodeChars (opening ++ '\x7d' :: after)).take place =
        Text.encodeChars (opening ++ ['\x7d'] ++ kept) := by
  have hascii : ∀ c ∈ after, c.toNat < 0x80 := by
    intro c hc
    have hspace := hafter c hc
    simp only [Json.isSpace, Bool.or_eq_true, beq_iff_eq] at hspace
    rcases hspace with ((rfl | rfl) | rfl) | rfl <;> decide
  obtain ⟨more, rfl⟩ := Nat.exists_eq_add_of_le hplace
  have hbytes (cs : List Char) : Text.encodeChars (opening ++ ['\x7d'] ++ cs) =
      Text.encodeChars (opening ++ ['\x7d']) ++ Text.encodeChars cs := List.flatMap_append
  have htext : opening ++ '\x7d' :: after = opening ++ ['\x7d'] ++ after := by simp
  refine ⟨after.take more, after.drop more, ?_, ?_⟩
  · rw [List.append_assoc, List.take_append_drop, htext]
  · rw [htext, hbytes, closedLength, List.take_length_add_append,
      Text.take_encodeChars_of_ascii hascii, hbytes]

theorem append_brace_of_getLast? {text : List Char} (hsplit : text = opening ++ '\x7d' :: after)
    (hafter : Spaces after) (hlast : text.getLast? = some '\x7d') :
    opening ++ ['\x7d'] = text := by
  rcases List.eq_nil_or_concat after with rfl | ⟨spaces, last, rfl⟩
  · exact hsplit.symm
  · rw [List.concat_eq_append, ← List.cons_append, ← List.append_assoc] at hsplit
    rw [hsplit, List.getLast?_concat] at hlast
    obtain rfl : last = '\x7d' := by simpa using hlast
    exact absurd (hafter '\x7d' (by simp)) (by decide)

theorem length_le_of_closed {kept : List Char} (h : (opening ++ ['\x7d']) <+: kept) :
    closedLength opening ≤ (Text.encodeChars kept).length := by
  obtain ⟨rest, rfl⟩ := h
  have hbytes : Text.encodeChars (opening ++ ['\x7d'] ++ rest) =
      Text.encodeChars (opening ++ ['\x7d']) ++ Text.encodeChars rest := List.flatMap_append
  rw [hbytes, List.length_append, closedLength]
  exact Nat.le_add_right _ _

end Json

/--
What is left of an accepted request that is cut short.  The bytes of a binary request are
records one after the other; cut at the end of one of them it is accepted, and cut anywhere
else it is corrupt.  A JSON object has a closing brace, with only white space after it; cut
behind the brace it is the same request, and cut anywhere else it is refused, be it in the
middle of a character, of a string or of an escape.
-/
theorem truncated_request_fails (data : Bytes) :
    (∀ request, (Request.decode data (.given .protobuf)).outcome = .ok request →
      (∃ records, Divides records data) ∧
      ∀ records, Divides records data → ∀ place ≤ data.length,
        (IsBoundary records place → ∃ smaller,
          (Request.decode (data.take place) (.given .protobuf)).outcome = .ok smaller) ∧
        (¬ IsBoundary records place →
          (Request.decode (data.take place) (.given .protobuf)).outcome =
            .error (.binary .corrupt))) ∧
    (∀ text members request, data = Text.encodeChars text →
      Json.readText .reject text = .ok (.object members) →
      (Request.decode data (.given .json)).outcome = .ok request →
      ∃ opening after, text = opening ++ '\x7d' :: after ∧ Spaces after ∧
        ∀ place,
          (closedLength opening ≤ place →
            (Request.decode (data.take place) (.given .json)).outcome = .ok request) ∧
          (place < closedLength opening →
            ∃ fault, (Request.decode (data.take place) (.given .json)).outcome =
              .error fault)) := by
  refine ⟨?binary, ?json⟩
  case binary =>
    intro request hrequest
    obtain ⟨message, hmessage, _⟩ := Request.exists_message_of_decode hrequest
    obtain ⟨fields, hfields, _⟩ := (Protocol.absorbBytes_eq_ok_iff _).1 hmessage
    refine ⟨Wire.exists_divides hfields, ?_⟩
    rintro records ⟨rfl, hrecords⟩ place hplace
    exact ⟨decode_of_boundary hrecords hrequest, decode_of_cut hrecords hrequest hplace⟩
  case json =>
    rintro text members request rfl hread hrequest
    obtain ⟨opening, after, rfl, hafter, hparts⟩ := Json.readText_take_of_object hread
    refine ⟨opening, after, rfl, hafter, fun place => ⟨fun hplace => ?_, fun hplace => ?_⟩⟩
    · obtain ⟨kept, cut, hsplit, htake⟩ := take_of_closed hafter hplace
      rw [htake]
      refine decode_of_text ?_ hrequest
      rw [hread, (hparts _ _ hsplit).1 (List.prefix_append _ _)]
    · refine exists_fault_of_unread rfl fun kept cut hsplit hkept => ?_
      refine (hparts kept cut hsplit).2 fun hclosed => ?_
      have hlength := length_le_of_closed hclosed
      rw [hkept, List.length_take] at hlength
      omega

def versionText : List Char := "\x7b\"sqlc_version\": \"é\"\x7d".toList

def versionEntry : Json.Entry :=
  ⟨[], JsonString.ofString "sqlc_version", "sqlc_version".toList, [],
    ⟨[' '], ['"', 'é', '"'], [], .text (JsonString.ofString "é")⟩⟩

theorem readText_versionText :
    Json.readText .reject versionText = .ok (.object [versionEntry.member]) := by
  have hpadded : versionEntry.IsPadded := ⟨by decide, by decide, by decide, by decide⟩
  have hname : Json.StringSpelling versionEntry.key versionEntry.name :=
    Json.stringSpelling_plain "sqlc_version".toList (by decide)
  have hvalue : Json.Spells versionEntry.slot.value versionEntry.slot.text :=
    .text (Json.stringSpelling_plain ['é'] (by decide))
  have hspells : Json.Spells (.object [versionEntry.member])
      ('\x7b' :: Json.separated '\x7d' [versionEntry.padded]) :=
    .object (List.cons_ne_nil versionEntry []) (by simpa using hpadded) (by simpa using hname)
      rfl (by simpa using hvalue)
  have hfits : Json.Fits Json.mostLevels (.object [versionEntry.member]) :=
    Json.fits_object.2 ⟨990, rfl, List.forall_mem_singleton.2 Json.fits_text⟩
  have htext : versionText =
      [] ++ '\x7b' :: Json.separated '\x7d' [versionEntry.padded] ++ [] := by
    decide
  rw [htext]
  exact Json.readText_of_spells .reject Json.spaces_nil hspells hfits Json.spaces_nil

theorem truncated_request_fails_in_group :
    let query := Wire.writeField (3, .bytes (Wire.writeField (2, .bytes (Text.encode "GetUser"))))
    let group : Bytes := [0x7B, 0x08, 0xAC, 0x02, 0x7C]
    let document := Text.encodeChars "\x7b\"sqlc_version\": \"é\"\x7d".toList
    (Request.decode (query ++ group) (.given .protobuf)).outcome =
        .ok ⟨[{ name := "GetUser", cmd := "" }], [], ""⟩ ∧
      (Request.decode ((query ++ group).take (query.length + 3)) (.given .protobuf)).outcome =
        .error (.binary .corrupt) ∧
      (Request.decode document (.given .json)).outcome = .ok ⟨[], [], "é"⟩ ∧
      ∃ fault, (Request.decode (document.take 19) (.given .json)).outcome = .error fault := by
  intro query group document
  have hbinary : (Request.decode (query ++ group) (.given .protobuf)).outcome =
      .ok ⟨[{ name := "GetUser", cmd := "" }], [], ""⟩ := by
    decide +kernel
  have hjson : (Request.decode document (.given .json)).outcome = .ok ⟨[], [], "é"⟩ := by
    decide +kernel
  refine ⟨hbinary, ?binary, hjson, ?json⟩
  case binary =>
    have hquery : IsRecord query :=
      ⟨_, (Wire.flatRecord_writeField (by decide) (by decide) (by decide +kernel)).records⟩
    have hstart : Wire.TagSpelling [0x7B] ⟨15, .groupStart⟩ := Wire.reads_tag.spells (by decide)
    have hstop : Wire.TagSpelling [0x7C] ⟨15, .groupEnd⟩ := Wire.reads_tag.spells (by decide)
    have hcontent : Wire.Records [0x08, 0xAC, 0x02] _ := Wire.records_of_readFields (by decide)
    have hgroup : IsRecord group := ⟨_, .group hstart hcontent hstop .nil⟩
    have hrecords : Divides [query, group] (query ++ group) :=
      ⟨by simp, by simpa using ⟨hquery, hgroup⟩⟩
    have hinside : ¬ IsBoundary [query, group] (query.length + 3) := by
      rintro ⟨count, hcount⟩
      match count with
      | 0 | 1 => simp at hcount
      | count + 2 => simp [group] at hcount
    obtain ⟨hcut, _⟩ := truncated_request_fails (query ++ group)
    exact ((hcut _ hbinary).2 _ hrecords _ (by simp [group])).2 hinside
  case json =>
    obtain ⟨_, hcut⟩ := truncated_request_fails document
    obtain ⟨opening, after, hsplit, hafter, hparts⟩ := hcut _ _ _ rfl readText_versionText hjson
    refine (hparts 19).2 ?_
    rw [closedLength, append_brace_of_getLast? hsplit hafter (by decide)]
    decide +kernel

end QueryBindings.Plugin
