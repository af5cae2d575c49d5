import QueryBindings.CommandLine.Usage
import QueryBindings.Plugin.Process
import QueryBindings.Storage.Transfer

/-!
# Running the command

One run reads a request, generates code and writes the response.  Everything that
can fail comes before the only step that changes a file or standard output, so a
run that fails before it leaves both as they were.
-/

namespace QueryBindings.CommandLine

open Log (Traced Level Record)
open Storage (Host)

inductive Ending where
  /-- Zero for success, one for failure, two for a fault of usage. -/
  | exit (code : Nat)
  /-- A failure that the command does not expect and leaves to its caller. -/
  | uncaught (fault : Plugin.ProcessFault)
  deriving DecidableEq, Repr

structure Outcome where
  ending : Ending
  host : Host
  notices : List String
  records : List Record
  deriving DecidableEq, Repr

/-- Whether the console passes over a character: bells and movements of the cursor. -/
def isConsoleControl (c : Char) : Bool :=
  c == '\x07' || c == '\x08' || c == '\x0b' || c == '\x0c' || c == '\r'

def notice (text : String) : String :=
  String.ofList (text.toList.filter (!isConsoleControl ·)) ++ "\n"

def errorNotice (message : String) : String :=
  notice ("✗ Error: " ++ message)

def failureNotice (message : String) : String :=
  notice ("✗ Code generation failed: " ++ message)

def metadataRows (files : List OutputFile) (queryCount : Nat) : List (String × String) :=
  [("Property", "Value"), ("Language", languageName),
    ("File Extension", fileExtension), ("Query Count", toString queryCount),
    ("File Count", toString files.length)] ++
    files.map fun file => ("Output", file.name)

def metadataNotices (files : List OutputFile) (queryCount : Nat) : List String :=
  notice "📊 Generation Metadata" ::
    (metadataRows files queryCount).map fun row => notice ("  " ++ row.1 ++ "  " ++ row.2)

def printOut (host : Host) (text : String) : Host :=
  { host with output := host.output ++ Text.encode text }

def respond (host : Host) (arguments : Arguments) (data : Text.Bytes) :
    Ending × Host × List String × List Record :=
  let run := Plugin.handle data arguments.format
  match run.outcome with
  | .error fault =>
      if fault.kind.isDocumented then
        (.exit 1, host, [errorNotice fault.message], run.records)
      else (.uncaught (.handling fault), host, [], run.records)
  | .ok handled =>
      match handled.report with
      | .failure fault =>
          (.exit 1, host, [failureNotice (Report.failureMessage fault)], run.records)
      | .success files _ queryCount =>
          let table := if arguments.verbose then metadataNotices files queryCount else []
          match handled.respond files with
          | .error fault => (.uncaught (.surrogates fault), host, table, run.records)
          | .ok response =>
              let (host, written) := host.write response arguments.output .standard
              match written.outcome with
              | .error fault =>
                  (.exit 1, host, table ++ [errorNotice fault.message],
                    run.records ++ written.records)
              | .ok _ =>
                  (.exit 0, host, table,
                    run.records ++ written.records ++
                      [⟨Level.info, "Generated " ++ toString files.length ++ " files"⟩])

def generate (host : Host) (arguments : Arguments) :
    Ending × Host × List String × List Record :=
  let (host, loaded) := host.load arguments.input .standard
  match loaded.outcome with
  | .error fault => (.exit 1, host, [errorNotice fault.message], loaded.records)
  | .ok data =>
      let (ending, host, notices, records) := respond host arguments data
      (ending, host, notices, loaded.records ++ records)

def runWith (host : Host) (arguments : Arguments) (environment : Option String) : Outcome :=
  let choice := arguments.logLevel.map Log.LevelChoice.named
  let (logger, configured) := (Log.Logger.initial : Log.Logger Unit).configure () choice environment
  match configured.outcome with
  | .error fault => ⟨.exit 2, host, [errorNotice fault.message], []⟩
  | .ok () =>
      let checked : Traced Empty Unit := Plugin.warnOfMethod arguments.method
      let (ending, host, notices, records) := generate host arguments
      let shown := (checked.records ++ records).flatMap (logger.send Log.packageName)
      ⟨ending, host, notices, configured.records ++ shown⟩

def run (host : Host) (arguments : List String) (environment : Option String) : Outcome :=
  match parseArguments arguments with
  | .ok arguments => runWith host arguments environment
  | .error .help => ⟨.exit 0, printOut host helpText, [], []⟩
  | .error .version => ⟨.exit 0, printOut host versionText, [], []⟩
  | .error (.usage fault) => ⟨.exit 2, host, [usageFaultText fault], []⟩

end QueryBindings.CommandLine
