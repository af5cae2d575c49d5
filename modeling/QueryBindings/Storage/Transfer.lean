import QueryBindings.Log.Traced
import QueryBindings.Storage.Tree

/-!
# Reading requests and writing responses

A request is read from a file, or from a stream when no file is named; a response
is written likewise.  The system may refuse either.  A write that it refuses late leaves
the beginning of the response behind, in place of what was in the file.
-/

namespace QueryBindings.Storage

open Text (Bytes)
open Log (Traced Level)

structure WriteFault where
  reason : String
  /-- How many bytes are written first; without a number, not even the file is opened. -/
  written? : Option Nat
  deriving DecidableEq, Repr

/-- What a run can read from and write to. -/
structure Host where
  tree : Tree
  input : Bytes
  output : Bytes
  /-- Why a file or standard input that is there cannot be read, if it cannot. -/
  inputFault : Option String := none
  /-- Why neither a file nor standard output takes what is written, if it does not. -/
  outputFault : Option WriteFault := none
  deriving DecidableEq, Repr

inductive Stream where
  | standard
  /-- A stream of the caller's, with what can be read from it. -/
  | own (content : Bytes)
  /-- A stream on which nothing works, for some reason. -/
  | failing (reason : String)
  deriving DecidableEq, Repr

inductive TransferFault where
  | fileNotFound (path : Path)
  | unreadableFile (path : Path) (fault : FileFault)
  | unreadableStream (reason : String)
  | emptyRequest
  | unwritableFile (path : Path) (fault : FileFault)
  | unwritableStream (reason : String)
  deriving DecidableEq, Repr

namespace TransferFault

def message : TransferFault → String
  | fileNotFound path => "File not found: " ++ path.shown
  | unreadableFile path fault =>
      "Error reading file " ++ path.shown ++ ": " ++ fault.message path
  | unreadableStream reason => "Error reading request stream: " ++ reason
  | emptyRequest => "Empty request: nothing was sent on the input"
  | unwritableFile path fault => "Error writing response: " ++ fault.message path
  | unwritableStream reason => "Error writing response: " ++ reason

/-- The message that the log has, which is brief about an empty request. -/
def logMessage : TransferFault → String
  | emptyRequest => "Empty request"
  | fault => fault.message

def raise {α : Type} (fault : TransferFault) : Traced TransferFault α :=
  ⟨[⟨Level.error, fault.logMessage⟩], .error fault⟩

end TransferFault

def shownSize (data : Bytes) : String :=
  toString data.length ++ " bytes"

namespace Host

def readFile (host : Host) (path : Path) : Except FileFault Bytes :=
  match host.tree.read path, host.inputFault with
  | .error fault, _ => .error fault
  | .ok _, some reason => .error (.refused reason)
  | .ok data, none => .ok data

def loadFile (host : Host) (name : String) : Traced TransferFault Bytes := do
  let path := Path.ofString name
  Traced.log Level.debug ("Attempting to load request from file: " ++ path.shown)
  match host.tree.find path with
  | .error _ => (TransferFault.fileNotFound path).raise
  | .ok _ =>
      match host.readFile path with
      | .error fault => (TransferFault.unreadableFile path fault).raise
      | .ok data => do
          Traced.log Level.info ("Loaded " ++ shownSize data ++ " from " ++ path.shown)
          pure data

def contentOf (host : Host) : Stream → Except TransferFault Bytes
  | .standard =>
      match host.inputFault with
      | some reason => .error (.unreadableStream reason)
      | none => .ok host.input
  | .own content => .ok content
  | .failing reason => .error (.unreadableStream reason)

def afterReading (host : Host) : Stream → Host
  | .standard => { host with input := [] }
  | _ => host

def loadStream (host : Host) (stream : Stream) : Host × Traced TransferFault Bytes :=
  match host.contentOf stream with
  | .error fault => (host, fault.raise)
  | .ok data =>
      (host.afterReading stream, do
        Traced.log Level.info ("Loaded " ++ shownSize data ++ " from standard input")
        pure data)

def requireContent (data : Bytes) : Traced TransferFault Bytes :=
  if data = [] then TransferFault.emptyRequest.raise else pure data

/-- The name of a file, unless it is missing or empty. -/
def fileName? : Option String → Option String
  | some "" => none
  | name => name

/-- Read a request from a file, or from a stream when no file is named. -/
def load (host : Host) (name : Option String) (stream : Stream) :
    Host × Traced TransferFault Bytes :=
  match fileName? name with
  | some name => (host, host.loadFile name >>= requireContent)
  | none =>
      let (host, loaded) := host.loadStream stream
      (host, loaded >>= requireContent)

/-- Write to a file, as far as the system lets it. -/
def writeFile (host : Host) (path : Path) (data : Bytes) : Host × Except FileFault Unit :=
  let fault? := host.outputFault
  match host.tree.write path (fault?.elim data fun fault => data.take (fault.written?.getD 0)),
    fault? with
  | .error fault, _ => (host, .error fault)
  | .ok tree, none => ({ host with tree := tree }, .ok ())
  | .ok tree, some fault =>
      (if fault.written?.isSome then { host with tree := tree } else host,
        .error (.refused fault.reason))

def writeOutput (host : Host) (data : Bytes) : Host × Except String Unit :=
  match host.outputFault with
  | none => ({ host with output := host.output ++ data }, .ok ())
  | some fault =>
      ({ host with output := host.output ++ data.take (fault.written?.getD 0) },
        .error fault.reason)

/--
Write a response to a file, or to a stream when no file is named.  The outcome is
what a stream of the caller's receives.
-/
def write (host : Host) (data : Bytes) (name : Option String) (stream : Stream) :
    Host × Traced TransferFault Bytes :=
  match fileName? name with
  | some name =>
      let path := Path.ofString name
      match host.writeFile path data with
      | (after, .error fault) => (after, (TransferFault.unwritableFile path fault).raise)
      | (after, .ok ()) =>
          (after, do
            Traced.log Level.info ("Wrote " ++ shownSize data ++ " to " ++ name)
            pure [])
  | none =>
      match stream with
      | .standard =>
          match host.writeOutput data with
          | (after, .error reason) => (after, (TransferFault.unwritableStream reason).raise)
          | (after, .ok ()) => (after, pure [])
      | .own _ => (host, pure data)
      | .failing reason => (host, (TransferFault.unwritableStream reason).raise)

end Host

end QueryBindings.Storage
