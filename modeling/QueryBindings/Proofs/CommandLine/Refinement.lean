import QueryBindings.CommandLine.Run
import QueryBindings.Proofs.Plugin.Failures
import QueryBindings.Proofs.Storage.Transfer

/-!
# The command and the plugin

A run of the command does what the plugin does with the same request, and hands on its
response as a whole or not at all.
-/

namespace QueryBindings.CommandLine

open Text (Bytes)
open Log (Traced)
open Storage (Host)

/-- How a run ends that has a response or a failure, and what it leaves behind. -/
def settle (host : Host) (output : Option String) :
    Except Plugin.ProcessFault Bytes → Ending × Host
  | .error fault => (if fault.kind.isDocumented then .exit 1 else .uncaught fault, host)
  | .ok response =>
      let (host, written) := host.write response output .standard
      (match written.outcome with
        | .error _ => .exit 1
        | .ok _ => .exit 0, host)

theorem settle_of_undocumented {host : Host} {output : Option String}
    {fault : Plugin.ProcessFault} (h : fault.kind.isDocumented = false) :
    settle host output (.error fault) = (.uncaught fault, host) := by
  simp [settle, h]

def levelOf (arguments : Arguments) (environment : Option String) :
    Except Log.UnknownLevel Log.Level :=
  Log.resolveLevel (arguments.logLevel.map .named) environment

def reader (host : Host) (arguments : Arguments) : Host :=
  (host.load arguments.input .standard).1

/-- How a run ends, and what it leaves behind, in terms of what the plugin does. -/
def settleRun (host : Host) (arguments : Arguments) (environment : Option String) :
    Ending × Host :=
  match levelOf arguments environment, (host.load arguments.input .standard).2.outcome with
  | .error _, _ => (.exit 2, host)
  | .ok _, .error _ => (.exit 1, reader host arguments)
  | .ok _, .ok data =>
      settle (reader host arguments) arguments.output
        (Plugin.process data arguments.format).outcome

theorem respond_settles (host : Host) (arguments : Arguments) (data : Bytes) :
    ((respond host arguments data).1, (respond host arguments data).2.1) =
      settle host arguments.output (Plugin.process data arguments.format).outcome := by
  unfold respond Plugin.process
  rw [Traced.bind_outcome, Traced.mapError_outcome]
  obtain ⟨records, outcome⟩ := Plugin.handle data arguments.format
  cases outcome with
  | error fault =>
      have hkind : (Plugin.ProcessFault.handling fault).kind = fault.kind := rfl
      dsimp only [mapError_error, Except.bind, settle]
      rw [hkind]
      cases fault.kind.isDocumented <;> rfl
  | ok handled =>
      dsimp only [mapError_ok, Except.bind]
      cases handled.report with
      | failure fault => rfl
      | success files warnings queryCount =>
          dsimp only [Traced.ofExcept_outcome]
          cases handled.respond files with
          | error fault => rfl
          | ok response =>
              dsimp only [mapError_ok, settle]
              obtain ⟨written, records, outcome⟩ := host.write response arguments.output .standard
              cases outcome <;> rfl

theorem generate_settles (host : Host) (arguments : Arguments) :
    ((generate host arguments).1, (generate host arguments).2.1) =
      match (host.load arguments.input .standard).2.outcome with
      | .error _ => (.exit 1, reader host arguments)
      | .ok data =>
          settle (reader host arguments) arguments.output
            (Plugin.process data arguments.format).outcome := by
  unfold generate reader
  obtain ⟨after, records, outcome⟩ := host.load arguments.input .standard
  cases outcome with
  | error fault => rfl
  | ok data => exact respond_settles after arguments data

theorem runWith_settles (host : Host) (arguments : Arguments) (environment : Option String) :
    ((runWith host arguments environment).ending,
        (runWith host arguments environment).host) =
      settleRun host arguments environment := by
  unfold runWith Log.Logger.configure settleRun levelOf
  dsimp only
  cases Log.resolveLevel (arguments.logLevel.map .named) environment with
  | error fault => rfl
  | ok level =>
      have hgenerate := generate_settles host arguments
      rcases hgenerated : generate host arguments with ⟨ending, after, notices, records⟩
      rw [hgenerated] at hgenerate
      dsimp only at hgenerate ⊢
      rw [hgenerate]
      cases (host.load arguments.input .standard).2.outcome <;> rfl

theorem run_settles (host : Host) (environment : Option String) {words : List String}
    {arguments : Arguments} (hparse : parseArguments words = .ok arguments) :
    ((run host words environment).ending, (run host words environment).host) =
      settleRun host arguments environment := by
  rw [← runWith_settles, run, hparse]

theorem settleRun_of_offers {host : Host} {arguments : Arguments} {environment : Option String}
    {level : Log.Level} {data : Bytes} (hlevel : levelOf arguments environment = .ok level)
    (hoffers : host.Offers arguments.input data) (hdata : data ≠ []) :
    settleRun host arguments environment =
      settle (reader host arguments) arguments.output
        (Plugin.process data arguments.format).outcome := by
  rw [settleRun, hlevel, Host.load_eq_ok_iff.2 ⟨hoffers, hdata⟩]

/--
A run refines the plugin.  A level that does not resolve ends it before anything is read.  A
request that cannot be read and a failure that callers are told to expect end it with one and
leave files and standard output as they were; other failures leave them too, but are not
caught.  A response that cannot be written ends it with one as well, and unless the system
refuses it late, nothing of it is left.  Otherwise the response is delivered as a whole.  The
method and the table of `--verbose` make no difference.
-/
theorem run_refines_process (host : Host) (environment : Option String) {words : List String}
    {arguments : Arguments} (hparse : parseArguments words = .ok arguments) :
    let result := run host words environment
    let before := reader host arguments
    (∃ input, before = { host with input := input }) ∧
    (∀ fault, levelOf arguments environment = .error fault →
      result.ending = .exit 2 ∧ result.host = host) ∧
    (∀ level, levelOf arguments environment = .ok level →
      ((¬ ∃ data, host.Offers arguments.input data ∧ data ≠ []) →
        result.ending = .exit 1 ∧ result.host = before) ∧
      ∀ data, host.Offers arguments.input data → data ≠ [] →
        (∀ fault, (Plugin.process data arguments.format).outcome = .error fault →
          result.host = before ∧
          result.ending = if fault.kind.isDocumented then .exit 1 else .uncaught fault) ∧
        ∀ response, (Plugin.process data arguments.format).outcome = .ok response →
          (∀ fault,
            (before.write response arguments.output .standard).2.outcome = .error fault →
            result.ending = .exit 1 ∧
              before.LeavesPart result.host response arguments.output ∧
              (before.outputFault = none → result.host = before)) ∧
          ∀ rest, (before.write response arguments.output .standard).2.outcome = .ok rest →
            result.ending = .exit 0 ∧
              before.Delivers result.host response arguments.output) ∧
    ∀ method verbose,
      let other := runWith host { arguments with method := method, verbose := verbose }
        environment
      other.ending = result.ending ∧ other.host = result.host := by
  intro result before
  have hsettle := run_settles host environment hparse
  have hending : result.ending = (settleRun host arguments environment).1 :=
    congrArg Prod.fst hsettle
  have hhost : result.host = (settleRun host arguments environment).2 :=
    congrArg Prod.snd hsettle
  refine ⟨host.load_leaves arguments.input .standard, ?level, ?run, ?other⟩
  case level =>
    intro fault hlevel
    rw [hending, hhost, settleRun, hlevel]
    exact ⟨rfl, rfl⟩
  case run =>
    intro level hlevel
    refine ⟨?unread, ?read⟩
    case unread =>
      intro hnone
      cases hload : (host.load arguments.input .standard).2.outcome with
      | ok data => exact absurd ⟨data, Host.load_eq_ok_iff.1 hload⟩ hnone
      | error fault =>
          rw [hending, hhost, settleRun, hlevel, hload]
          exact ⟨rfl, rfl⟩
    case read =>
      intro data hoffers hdata
      rw [settleRun_of_offers hlevel hoffers hdata] at hending hhost
      refine ⟨?failed, ?answered⟩
      case failed =>
        intro fault hfault
        rw [hfault] at hending hhost
        exact ⟨hhost, hending⟩
      case answered =>
        intro response hresponse
        rw [hresponse] at hending hhost
        dsimp only [settle] at hending hhost
        refine ⟨?unwritten, ?written⟩
        case unwritten =>
          intro fault hwrite
          rw [hwrite] at hending
          rw [hhost]
          have hpart := Host.write_of_error hwrite
          exact ⟨hending, hpart, hpart.eq⟩
        case written =>
          intro rest hwrite
          rw [hwrite] at hending
          rw [hhost]
          exact ⟨hending, Host.delivers_of_write hwrite⟩
  case other =>
    intro method verbose other
    have hother :=
      runWith_settles host { arguments with method := method, verbose := verbose } environment
    exact ⟨(congrArg Prod.fst hother).trans hending.symm,
      (congrArg Prod.snd hother).trans hhost.symm⟩

theorem run_refines_process_on_streams :
    let message : Protocol.Request :=
      { queries := [{ name := "GetUser", cmd := ":one", filename := "users.sql" }],
        pluginOptions := Text.encode "\x7b\"types_path\":\"./types\"\x7d" }
    let host : Host := { tree := [], input := Protocol.Binary.encode message, output := [] }
    ∃ response, (Plugin.process host.input (.given .protobuf)).outcome = .ok response ∧
      (run host ["--format", "protobuf"] none).ending = .exit 0 ∧
      (run host ["--format", "protobuf"] none).host.output = response := by
  intro message host
  have hsize : (Protocol.Binary.encode message).length < Protocol.sizeBound := by
    decide +kernel
  have hdecode := Plugin.decode_encode hsize (.inr rfl)
  obtain ⟨options, hload, hpath⟩ :=
    Options.exists_of_scalars message.pluginOptions (by decide +kernel)
  have hvalid : (Plugin.Request.ofMessage message).IsValid := by
    intro query hquery
    rw [List.mem_singleton.1 hquery]
    exact ⟨⟨_, QueryName.parse_of_leadingWord .get (by decide)⟩, ⟨_, Command.ofTag_tag .one⟩,
      List.forall_mem_nil _⟩
  obtain ⟨response, hprocess⟩ := Plugin.exists_response hdecode hload hvalid hpath
  have hparse : parseArguments ["--format", "protobuf"] =
      .ok { format := .given .protobuf } := rfl
  obtain ⟨⟨input, hreader⟩, _, hlevel, _⟩ := run_refines_process host none hparse
  obtain ⟨_, hread⟩ := hlevel Log.Level.warning rfl
  obtain ⟨_, hanswered⟩ := hread host.input ⟨rfl, rfl⟩ (by decide +kernel)
  obtain ⟨_, hwritten⟩ := hanswered response hprocess
  obtain ⟨hending, hdelivers⟩ := hwritten [] rfl
  refine ⟨response, hprocess, hending, ?_⟩
  rw [hdelivers, hreader]
  rfl

theorem run_refines_process_of_long_integer :
    let host : Host := { tree := [], input := Plugin.requestWithInteger, output := [] }
    (∃ fault, (run host ["--format", "protobuf"] none).ending = .uncaught fault) ∧
      ∃ input, (run host ["--format", "protobuf"] none).host = { host with input := input } := by
  intro host
  have hparse : parseArguments ["--format", "protobuf"] =
      .ok { format := .given .protobuf } := rfl
  have hsettle := run_settles host none hparse
  have hlevel : levelOf { format := .given .protobuf } none = .ok Log.Level.warning := rfl
  have hdata : Plugin.requestWithInteger ≠ [] := by decide +kernel
  have hoffers : host.Offers none Plugin.requestWithInteger := ⟨rfl, rfl⟩
  obtain ⟨fault, hprocess, hkind⟩ := Plugin.failsWith_digits
  have hdocumented : fault.kind.isDocumented = false := by
    rw [hkind]
    rfl
  rw [settleRun_of_offers hlevel hoffers hdata, hprocess, settle_of_undocumented hdocumented]
    at hsettle
  obtain ⟨hending, hhost⟩ := Prod.mk.inj hsettle
  obtain ⟨input, hreader⟩ := host.load_leaves none .standard
  exact ⟨⟨fault, hending⟩, input, hhost.trans hreader⟩

end QueryBindings.CommandLine
