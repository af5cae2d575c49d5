import QueryBindings.Binding.Generator
import QueryBindings.Options.Load
import QueryBindings.Plugin.Request
import QueryBindings.Plugin.Response

/-!
# Handling requests

From the bytes of a request to the bytes of its response: the request is decoded,
its options are loaded, code is generated, and the files are encoded in the
encoding of the request.
-/

namespace QueryBindings

def Generator.ofOptions (options : Options) : Generator :=
  { typesPath := options.typesPath.shown }

namespace Plugin

open Text (Bytes)
open Log (Traced Level)

inductive GenerationFault where
  | options (fault : OptionsFault)
  | template (name : String) (fault : Template.RenderFault)
  deriving DecidableEq, Repr

namespace GenerationFault

def message : GenerationFault → String
  | options fault => fault.message
  | template name fault => fault.message name

end GenerationFault

inductive HandlingFault where
  | request (fault : RequestFault)
  | generation (fault : GenerationFault)
  deriving DecidableEq, Repr

namespace HandlingFault

def message : HandlingFault → String
  | request fault => fault.message
  | generation fault => fault.message

end HandlingFault

inductive ProcessFault where
  | handling (fault : HandlingFault)
  | query (fault : QueryFault)
  | surrogates (fault : SurrogateFault)
  deriving DecidableEq, Repr

namespace ProcessFault

def message : ProcessFault → String
  | handling fault => fault.message
  | query fault => fault.message
  | surrogates fault => fault.message

end ProcessFault

/-- What callers can tell of a failure without its message. -/
inductive FailureKind where
  | request
  | options
  | query
  | template
  /-- Options that readers have too narrow a limit for. -/
  | limit (limit : Json.Limit)
  | surrogates
  deriving DecidableEq, Repr

namespace FailureKind

/-- Whether callers are told to expect failures of a kind. -/
def isDocumented : FailureKind → Bool
  | request | options | query => true
  | template | limit _ | surrogates => false

end FailureKind

namespace GenerationFault

def kind : GenerationFault → FailureKind
  | options fault => fault.limit?.elim .options .limit
  | template _ _ => .template

end GenerationFault

namespace HandlingFault

def kind : HandlingFault → FailureKind
  | request _ => .request
  | generation fault => fault.kind

end HandlingFault

namespace ProcessFault

def kind : ProcessFault → FailureKind
  | handling fault => fault.kind
  | query _ => .query
  | surrogates _ => .surrogates

end ProcessFault

def generateWith (options : Options) (queries : List Query) : Traced GenerationFault Report :=
  ((Generator.ofOptions options).report queries).mapError fun (name, fault) =>
    .template name fault

/-- Generate code for a batch as options say. -/
def generateFrom (queries : List Query) (source : OptionsSource) :
    Traced GenerationFault Report := do
  let options ← (Options.load source).mapError .options
  generateWith options queries

structure Handled where
  report : Report
  encoding : Encoding
  typesPath : Json.JsonString
  deriving DecidableEq, Repr

namespace Handled

def respond (handled : Handled) (files : List OutputFile) : Except SurrogateFault Bytes :=
  (encodable handled.typesPath Layout.typesPathPosition files).map fun files =>
    encodeAs files handled.encoding

end Handled

/-- Handle a request up to its response. -/
def handle (data : Bytes) (choice : EncodingChoice) : Traced HandlingFault Handled := do
  let encoding ← choice.resolve data
  let request ← (Request.decodeAs data encoding).mapError .request
  let options ← (Options.load (.bytes request.options)).mapError fun fault =>
    .generation (.options fault)
  let report ← (generateWith options request.queries).mapError .generation
  pure ⟨report, encoding, options.typesPath⟩

/-- The response to a request; a faulty query leaves none. -/
def process (data : Bytes) (choice : EncodingChoice) : Traced ProcessFault Bytes := do
  let handled ← (handle data choice).mapError .handling
  match handled.report with
  | .failure fault => .fail (.query fault)
  | .success files _ _ => .ofExcept ((handled.respond files).mapError .surrogates)

def generateMethod : String := "/plugin.CodegenService/Generate"

/-- Leave a warning about any other method; it makes no further difference. -/
def warnOfMethod {ε : Type} (method : Option String) : Traced ε Unit :=
  match method with
  | none => pure ()
  | some name =>
      if name = "" ∨ name = generateMethod then pure ()
      else
        Traced.log Level.warning
          ("Unexpected plugin method " ++ name ++ ", treating it as " ++ generateMethod)

end Plugin

end QueryBindings
