import QueryBindings.Proofs.Binding.Report
import QueryBindings.Proofs.Options.Sources
import QueryBindings.Proofs.Plugin.Transparency

/-!
# Failures

Which failures leave a request without a response, and when.  Callers are told to expect
three kinds of them.  Others come from the texts of options, which may go beyond a limit of
readers, and whose path may hold surrogates.
-/

namespace QueryBindings.Plugin

open Text (Bytes)
open Log (Traced)

/-- Whether there is code for all queries of a request. -/
def Request.IsValid (request : Request) : Prop :=
  ∀ query ∈ request.queries, query.IsValid

theorem process_outcome_of_error {data : Bytes} {choice : EncodingChoice} {fault : RequestFault}
    (h : (Request.decode data choice).outcome = .error fault) :
    (process data choice).outcome = .error (.handling (.request fault)) := by
  rw [Request.decode_outcome] at h
  unfold process handle
  simp only [Traced.bind_outcome, Traced.mapError_outcome, choice.resolve_outcome, Except.bind,
    h]
  rfl

variable {request : Request} {options : Options}

theorem answer_of_options_fault {fault : OptionsFault}
    (h : (Options.load (.bytes request.options)).outcome = .error fault) :
    answer request = .error (.handling (.generation (.options fault))) := by
  unfold answer
  rw [h]

theorem answer_of_query_fault
    (hload : (Options.load (.bytes request.options)).outcome = .ok options)
    {fault : QueryFault}
    (hfault : (fileOrder request.queries).findSome? Query.fault? = some fault) :
    answer request = .error (.query fault) := by
  have hlibrary : (Generator.ofOptions options).library = Layout.library := rfl
  have hreport := Generator.report_of_fault hlibrary hfault
  simp [answer, hload, generateWith, hreport]

theorem answer_of_valid
    (hload : (Options.load (.bytes request.options)).outcome = .ok options)
    (hvalid : (fileOrder request.queries).findSome? Query.fault? = none) :
    answer request =
      (encodable options.typesPath Layout.typesPathPosition
        ((Generator.ofOptions options).modulesOf request.queries)).mapError .surrogates := by
  have hlibrary : (Generator.ofOptions options).library = Layout.library := rfl
  have hreport := Generator.report_of_valid hlibrary hvalid
  simp [answer, hload, generateWith, hreport]

theorem encodable_eq_error_iff {path : Json.JsonString} {position : Nat}
    {files : List OutputFile} :
    (∃ fault, encodable path position files = .error fault) ↔
      files ≠ [] ∧ Json.JsonString.toChars? path = none := by
  have hsurrogates : firstSurrogates? position path = none ↔ _ := firstSurrogates?_eq_none_iff
  unfold encodable
  cases files with
  | nil => simp
  | cons file rest =>
      cases hfirst : firstSurrogates? position path with
      | none =>
          have hchars := hsurrogates.1 hfirst
          simpa using Option.isSome_iff_ne_none.1 hchars
      | some fault =>
          have hchars : Json.JsonString.toChars? path = none := by
            rw [← Option.not_isSome_iff_eq_none, ← hsurrogates, hfirst]
            nofun
          simp [hchars]

theorem exists_response {data : Bytes} {choice : EncodingChoice}
    (hdecode : (Request.decode data choice).outcome = .ok request)
    (hload : (Options.load (.bytes request.options)).outcome = .ok options)
    (hvalid : request.IsValid)
    (hpath : (Json.JsonString.toChars? options.typesPath).isSome = true) :
    ∃ response, (process data choice).outcome = .ok response := by
  rw [process_outcome_of_ok hdecode,
    answer_of_valid hload (Generator.findSome?_fileOrder_eq_none_iff.2 hvalid)]
  cases hfiles : encodable options.typesPath Layout.typesPathPosition
      ((Generator.ofOptions options).modulesOf request.queries) with
  | ok files => exact ⟨_, rfl⟩
  | error fault =>
      obtain ⟨_, hnone⟩ := encodable_eq_error_iff.1 ⟨fault, hfiles⟩
      rw [hnone] at hpath
      contradiction

/-- Whether there is no response, for a failure of this kind. -/
def FailsWith (data : Bytes) (choice : EncodingChoice) (kind : FailureKind) : Prop :=
  ∃ fault, (process data choice).outcome = .error fault ∧ fault.kind = kind

theorem failsWith_iff_of_error {data : Bytes} {choice : EncodingChoice} {fault : ProcessFault}
    (h : (process data choice).outcome = .error fault) {kind : FailureKind} :
    FailsWith data choice kind ↔ fault.kind = kind := by
  simp [FailsWith, h]

theorem not_failsWith_of_ok {data response : Bytes} {choice : EncodingChoice}
    (h : (process data choice).outcome = .ok response) (kind : FailureKind) :
    ¬ FailsWith data choice kind := by
  simp [FailsWith, h]

/-- A request that is read together with its options. -/
@[mk_iff]
structure Loads (data : Bytes) (choice : EncodingChoice) (request : Request)
    (options : Options) : Prop where
  decode : (Request.decode data choice).outcome = .ok request
  load : (Options.load (.bytes request.options)).outcome = .ok options

/--
Every kind of failure has its own cause: the request is decoded before its options are
loaded, and these before the queries are looked at.
-/
theorem process_failures (data : Bytes) (choice : EncodingChoice) :
    (FailsWith data choice .request ↔
      ∃ fault, (Request.decode data choice).outcome = .error fault) ∧
    (FailsWith data choice .options ↔
      ∃ request fault, (Request.decode data choice).outcome = .ok request ∧
        (Options.load (.bytes request.options)).outcome = .error fault ∧
        ¬ ∃ limit, fault.Reports limit) ∧
    (FailsWith data choice .query ↔
      ∃ request options, Loads data choice request options ∧ ¬ request.IsValid) ∧
    ¬ FailsWith data choice .template ∧
    (∀ limit, FailsWith data choice (.limit limit) ↔
      ∃ request fault, (Request.decode data choice).outcome = .ok request ∧
        (Options.load (.bytes request.options)).outcome = .error fault ∧
        fault.Reports limit) ∧
    (FailsWith data choice .surrogates ↔
      ∃ request options, Loads data choice request options ∧ request.IsValid ∧
        request.queries ≠ [] ∧ Json.JsonString.toChars? options.typesPath = none) := by
  simp only [loads_iff]
  -- The cases are the stages in their order; the first that fails decides the kind.
  cases hdecode : (Request.decode data choice).outcome with
  | error fault =>
      have hprocess := process_outcome_of_error hdecode
      simp [failsWith_iff_of_error hprocess, ProcessFault.kind, HandlingFault.kind]
  | ok request =>
      have hprocess := process_outcome_of_ok hdecode
      cases hload : (Options.load (.bytes request.options)).outcome with
      | error fault =>
          rw [answer_of_options_fault hload] at hprocess
          have hreports := Options.limit?_eq_some_iff_of_load hload
          cases hlimit : fault.limit? <;>
            simp [failsWith_iff_of_error hprocess, ProcessFault.kind, HandlingFault.kind,
              GenerationFault.kind, hload, hlimit, ← hreports]
      | ok options =>
          have hvalid : _ ↔ request.IsValid := Generator.findSome?_fileOrder_eq_none_iff
          cases hfirst : (fileOrder request.queries).findSome? Query.fault? with
          | some fault =>
              rw [answer_of_query_fault hload hfirst] at hprocess
              have hinvalid : ¬ request.IsValid := by
                rw [← hvalid, hfirst]
                nofun
              simp [failsWith_iff_of_error hprocess, ProcessFault.kind, hload, hinvalid]
          | none =>
              rw [answer_of_valid hload hfirst] at hprocess
              have hall := hvalid.1 hfirst
              have hencodable :
                  (∃ fault, encodable options.typesPath Layout.typesPathPosition
                    ((Generator.ofOptions options).modulesOf request.queries) = .error fault) ↔
                    _ := encodable_eq_error_iff
              rw [ne_eq, Generator.modulesOf_eq_nil_iff] at hencodable
              cases hfiles : encodable options.typesPath Layout.typesPathPosition
                  ((Generator.ofOptions options).modulesOf request.queries) with
              | error fault =>
                  rw [hfiles] at hprocess
                  obtain ⟨hqueries, hpath⟩ := hencodable.1 ⟨fault, hfiles⟩
                  simp [failsWith_iff_of_error hprocess, ProcessFault.kind, hload, hall, hqueries,
                    hpath]
              | ok files =>
                  rw [hfiles] at hprocess
                  have hneither : ¬ (¬ request.queries = [] ∧
                      Json.JsonString.toChars? options.typesPath = none) := by
                    rw [← hencodable, hfiles]
                    nofun
                  simpa [not_failsWith_of_ok hprocess, hload, hall] using hneither

def requestWithInteger : Bytes :=
  Protocol.Binary.encode
    ({ pluginOptions := Text.encodeChars (Options.textWithInteger Json.longDigits) } : Protocol.Request)

theorem failsWith_digits :
    FailsWith requestWithInteger (.given .protobuf) (.limit .digits) := by
  obtain ⟨fault, hreports, hload⟩ := Options.load_textWithInteger Json.wholeDigits_longDigits
    Json.lt_length_longDigits
  have hsize : requestWithInteger.length < Protocol.sizeBound := by decide +kernel
  have hprocess : (process requestWithInteger (.given .protobuf)).outcome =
      .error (.handling (.generation (.options fault))) := by
    rw [requestWithInteger, process_outcome_of_ok (decode_encode hsize (.inr rfl)),
      answer_of_options_fault]
    · rfl
    · exact congrArg Traced.outcome hload
  refine ⟨_, hprocess, ?_⟩
  simp [ProcessFault.kind, HandlingFault.kind, GenerationFault.kind, hreports.limit?_eq]

theorem process_failures_of_long_integer :
    FailsWith requestWithInteger (.given .protobuf) (.limit .digits) ∧
      ∀ kind, FailsWith requestWithInteger (.given .protobuf) kind →
        kind.isDocumented = false := by
  refine ⟨failsWith_digits, ?_⟩
  intro kind hkind
  obtain ⟨fault, hprocess, hdigits⟩ := failsWith_digits
  rw [failsWith_iff_of_error hprocess, hdigits] at hkind
  cases hkind
  rfl

end QueryBindings.Plugin
