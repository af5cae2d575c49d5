import QueryBindings.CommandLine.Run

/-!
# The command

Runs the command on the files and streams of the system.  What its paths lead to is looked
up first, and what it writes is delivered last.  If the system refuses that, the command ends
as it does on a host on which writing fails.
-/

namespace QueryBindings.CommandLine

open Storage (Entry Host Path Place Tree)

/-- The error code of the system for reading a directory as a file. -/
def directoryCode : UInt32 := 21

/-- What is at a path; a file that may not be read is one without content. -/
def lookUp (path : Path) : IO (Option Entry) := do
  match ← (IO.FS.readBinFile path.shown).toBaseIO with
  | .ok content => pure (some (.file content.toList))
  | .error (.noFileOrDirectory ..) => pure none
  | .error (.inappropriateType _ code _) =>
      pure (if code = directoryCode then some .directory else none)
  | .error _ => pure (some (.file []))

/-- Why the file at a path may not be read, if it is there. -/
def refusal? (path : Path) : IO (Option String) := do
  match ← (IO.FS.readBinFile path.shown).toBaseIO with
  | .ok _ | .error (.noFileOrDirectory ..) | .error (.inappropriateType ..) => pure none
  | .error fault => pure (some (toString fault))

/-- The tree with everything that following a path comes across. -/
def lookUpAlong (tree : Tree) (path : Path) : IO Tree :=
  (List.range (path.names.length + 1)).foldlM
    (fun tree count => do
      let part : Path := { path with names := path.names.take count }
      match ← lookUp part with
      | some entry => pure (tree.store (Place.ofPath part) entry)
      | none => pure tree)
    tree

def lookUpAll (arguments : Arguments) : IO Tree :=
  [arguments.input, arguments.output].foldlM
    (fun tree name =>
      match Storage.Host.fileName? name with
      | some name => lookUpAlong tree (Path.ofString name)
      | none => pure tree)
    []

/-- What is on standard input and why nothing can be read, if the request comes from there. -/
def readInput (arguments : Arguments) : IO (Text.Bytes × Option String) := do
  match Storage.Host.fileName? arguments.input with
  | some name => pure ([], ← refusal? (Path.ofString name))
  | none =>
      match ← ((← IO.getStdin).readBinToEnd).toBaseIO with
      | .ok content => pure (content.toList, none)
      | .error fault => pure ([], some (toString fault))

def hostOf (arguments : Arguments) : IO Host := do
  let tree ← lookUpAll arguments
  let (input, fault?) ← readInput arguments
  pure { tree := tree, input := input, output := [], inputFault := fault? }

def storeWritten (before after : Tree) (name : String) : IO Unit := do
  let path := Path.ofString name
  if before ≠ after then
    match after.read path with
    | .ok content => IO.FS.writeBinFile path.shown ⟨content.toArray⟩
    | .error _ => pure ()

/-- Write what a run leaves, to its file and to standard output. -/
def deliver (before after : Host) (arguments : Arguments) : IO Unit := do
  match Storage.Host.fileName? arguments.output with
  | some name => storeWritten before.tree after.tree name
  | none => pure ()
  let output ← IO.getStdout
  output.write ⟨after.output.toArray⟩
  output.flush

/-- The outcome of a run once it is known whether the system takes what it writes. -/
def runOn (host : Host) (arguments : Arguments) (run : Host → Outcome) : IO Outcome := do
  let outcome := run host
  match ← (deliver host outcome.host arguments).toBaseIO with
  | .ok () => pure outcome
  | .error fault =>
      pure (run { host with outputFault := some ⟨toString fault, none⟩ })

/-- The exit code of an ending; a failure that nothing catches is shown first. -/
def Ending.conclude : Ending → IO UInt32
  | .exit code => pure (UInt32.ofNat code)
  | .uncaught fault => do
      (← IO.getStderr).putStrLn fault.message
      pure 1

def Outcome.conclude (outcome : Outcome) : IO UInt32 := do
  let errors ← IO.getStderr
  for record in outcome.records do
    errors.putStrLn (record.level.name ++ " " ++ record.message)
  for notice in outcome.notices do
    errors.putStr notice
  outcome.ending.conclude

end QueryBindings.CommandLine

open QueryBindings in
def main (args : List String) : IO UInt32 := do
  let environment ← IO.getEnv Log.levelVariable
  let arguments := (CommandLine.parseArguments args).toOption.getD {}
  let host ←
    match CommandLine.parseArguments args with
    | .ok arguments => CommandLine.hostOf arguments
    | .error _ => pure { tree := [], input := [], output := [] }
  let outcome ← CommandLine.runOn host arguments fun host => CommandLine.run host args environment
  outcome.conclude
