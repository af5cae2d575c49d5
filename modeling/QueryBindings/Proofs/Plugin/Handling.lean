import QueryBindings.Plugin.Process
import QueryBindings.Proofs.Log.Outcome

/-!
# Handling a request step by step

The outcome of each step of handling a request in terms of the steps before it.
What is answered depends on the decoded request alone; the encoding only decides
how it was read and how the answer is written.
-/

namespace QueryBindings.Plugin

open Text (Bytes)
open Log (Traced)

/-- The encoding in which a request is read. -/
def EncodingChoice.encoding (data : Bytes) : EncodingChoice → Encoding
  | .auto => Encoding.detect data
  | .given encoding => encoding

theorem EncodingChoice.resolve_outcome {ε : Type} (data : Bytes) (choice : EncodingChoice) :
    (choice.resolve data : Traced ε Encoding).outcome = .ok (choice.encoding data) := by
  cases choice with
  | auto => rfl
  | given encoding => rfl

namespace Request

variable {levels : Nat}

theorem decodeAs_outcome (data : Bytes) (encoding : Encoding) :
    (decodeAs data encoding levels).outcome =
      (decodeMessage data encoding levels : Except RequestFault Protocol.Request).map
        ofMessage := by
  unfold decodeAs
  rw [Traced.bind_outcome, Traced.ofExcept_outcome]
  cases (decodeMessage data encoding levels : Except RequestFault Protocol.Request) <;> rfl

theorem decode_outcome (data : Bytes) (choice : EncodingChoice) :
    (decode data choice levels).outcome =
      (decodeAs data (choice.encoding data) levels).outcome := by
  unfold decode
  rw [Traced.bind_outcome, choice.resolve_outcome]
  rfl

theorem decode_given_outcome (data : Bytes) (encoding : Encoding) :
    (decode data (.given encoding) levels).outcome =
      (decodeMessage data encoding levels : Except RequestFault Protocol.Request).map
        ofMessage :=
  (decode_outcome data _).trans (decodeAs_outcome data encoding)

theorem decode_binary_outcome (data : Bytes) :
    (decode data (.given .protobuf)).outcome =
      ((Protocol.Binary.absorbBytes (default : Protocol.Request) data).mapError
        RequestFault.binary).map ofMessage :=
  decode_given_outcome data .protobuf

theorem exists_message_of_decode {data : Bytes} {request : Request}
    (h : (decode data (.given .protobuf)).outcome = .ok request) :
    ∃ message, Protocol.Binary.absorbBytes (default : Protocol.Request) data = .ok message ∧
      request = ofMessage message := by
  rw [decode_binary_outcome] at h
  cases hmessage : Protocol.Binary.absorbBytes (default : Protocol.Request) data with
  | error fault =>
      rw [hmessage] at h
      contradiction
  | ok message =>
      rw [hmessage] at h
      exact ⟨message, rfl, (Except.ok.inj h).symm⟩

end Request

/-- The files that a request is answered with, or why there are none. -/
def answer (request : Request) : Except ProcessFault (List OutputFile) :=
  match (Options.load (.bytes request.options)).outcome with
  | .error fault => .error (.handling (.generation (.options fault)))
  | .ok options =>
      match (generateWith options request.queries).outcome with
      | .error fault => .error (.handling (.generation fault))
      | .ok (.failure fault) => .error (.query fault)
      | .ok (.success files _ _) =>
          (encodable options.typesPath Layout.typesPathPosition files).mapError .surrogates

theorem process_outcome_of_ok {data : Bytes} {choice : EncodingChoice} {request : Request}
    (h : (Request.decode data choice).outcome = .ok request) :
    (process data choice).outcome =
      (answer request).map fun files => encodeAs files (choice.encoding data) := by
  rw [Request.decode_outcome] at h
  unfold process handle answer
  simp only [Traced.bind_outcome, Traced.mapError_outcome, choice.resolve_outcome, h,
    mapError_ok, Except.bind]
  cases (Options.load (.bytes request.options)).outcome with
  | error fault => rfl
  | ok options =>
      dsimp only [mapError_ok, Except.bind]
      cases (generateWith options request.queries).outcome with
      | error fault => rfl
      | ok report =>
          cases report with
          | failure fault => rfl
          | success files warnings queryCount =>
              cases hfiles : encodable options.typesPath Layout.typesPathPosition files <;>
                simp [Handled.respond, hfiles, Except.map]

end QueryBindings.Plugin
