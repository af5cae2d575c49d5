import QueryBindings.CommandLine.Flag

/-!
# Arguments of the command

The arguments are taken in one after another.  The first value that belongs to no
option names the method; options act when they are met, so a request for help
wins over everything after it.  Arguments that have no use are reported at the
end.
-/

namespace QueryBindings.CommandLine

open Plugin (EncodingChoice)

structure Arguments where
  method : Option String := none
  format : EncodingChoice := .auto
  input : Option String := none
  output : Option String := none
  logLevel : Option String := none
  verbose : Bool := false
  deriving DecidableEq, Repr

inductive Stop where
  | help
  | version
  | usage (fault : UsageFault)
  deriving DecidableEq, Repr

/-- How far arguments have been taken in. -/
structure Progress where
  arguments : Arguments := {}
  hasMethod : Bool := false
  /-- Whether the argument just before named it. -/
  justNamed : Bool := false
  /-- Arguments without a use, the last first. -/
  extras : List String := []
  deriving DecidableEq, Repr

namespace Progress

def addExtra (progress : Progress) (text : String) : Progress :=
  { progress with extras := text :: progress.extras, justNamed := false }

def addPlain (progress : Progress) (text : String) : Progress :=
  if progress.hasMethod then progress.addExtra text
  else
    { progress with
      arguments := { progress.arguments with method := some text }
      hasMethod := true
      justNamed := true }

/-- Take in the separator, which is of use only beside the method. -/
def addSeparator (progress : Progress) : Progress :=
  if progress.hasMethod && !progress.justNamed then progress.addExtra separatorText
  else { progress with justNamed := false }

def setValue (progress : Progress) (flag : Flag) (value : String) : Except Stop Progress :=
  let arguments := progress.arguments
  match flag with
  | .format =>
      match EncodingChoice.ofName value with
      | .ok choice =>
          .ok { progress with arguments := { arguments with format := choice }, justNamed := false }
      | .error _ => .error (.usage (.invalidFormat value))
  | .input =>
      .ok { progress with arguments := { arguments with input := some value }, justNamed := false }
  | .output =>
      .ok { progress with
        arguments := { arguments with output := some value }, justNamed := false }
  | .logLevel =>
      .ok { progress with
        arguments := { arguments with logLevel := some value }, justNamed := false }
  | .help | .verbose | .version => .error (.usage (.ignoredValue flag value))

def setFlag (progress : Progress) : Flag → Except Stop Progress
  | .help => .error .help
  | .version => .error .version
  | .verbose =>
      .ok { progress with
        arguments := { progress.arguments with verbose := true }, justNamed := false }
  | flag => .error (.usage (.missingValue flag))

end Progress

/-- What the options in an argument end with. -/
inductive Last where
  | flag (flag : Flag) (value : Option String)
  | stranger (text : String)
  deriving DecidableEq, Repr

/-- The options in one argument: those without a value, and the last of them. -/
structure Joined where
  before : List Flag
  last : Last
  deriving DecidableEq, Repr

/--
The options in the letters after a short option.  Options that need no value may
be followed by more of them, but neither by a dash nor by a value.
-/
def splitJoined (flag : Flag) : List Char → Except UsageFault Joined
  | [] => .ok ⟨[], .flag flag none⟩
  | c :: rest =>
      if flag.takesValue then
        .ok ⟨[], .flag flag (some (String.ofList (if c = '=' then rest else c :: rest)))⟩
      else if c = '=' then .error (.ignoredValue flag (String.ofList rest))
      else if c = '-' then .error (.ignoredValue flag (String.ofList (c :: rest)))
      else
        match Flag.ofSpelling? (String.ofList ['-', c]) with
        | none => .ok ⟨[flag], .stranger (String.ofList ('-' :: c :: rest))⟩
        | some next =>
            (splitJoined next rest).map fun joined =>
              { joined with before := flag :: joined.before }

def flagsOf (flag : Flag) : Attached → Except UsageFault Joined
  | .nothing => .ok ⟨[], .flag flag none⟩
  | .value text =>
      if flag.takesValue then .ok ⟨[], .flag flag (some text)⟩
      else .error (.ignoredValue flag text)
  | .letters chars => splitJoined flag chars

def Joined.waiting? (joined : Joined) : Option Flag :=
  match joined.last with
  | .flag flag none => if flag.takesValue then some flag else none
  | _ => none

def setFlags (progress : Progress) : List Flag → Except Stop Progress
  | [] => .ok progress
  | flag :: rest =>
      match progress.setFlag flag with
      | .error stop => .error stop
      | .ok progress => setFlags progress rest

/-- Take in the options of an argument, the last with the value that it waited for. -/
def setJoined (progress : Progress) (joined : Joined) (following : Option String) :
    Except Stop Progress :=
  match setFlags progress joined.before with
  | .error stop => .error stop
  | .ok progress =>
      match joined.last with
      | .stranger text => .ok (progress.addExtra text)
      | .flag flag attached =>
          match attached.or following with
          | some value => progress.setValue flag value
          | none => progress.setFlag flag

def consume (progress : Progress) : List Word → Except Stop Progress
  | [] => .ok progress
  | .plain text :: rest => consume (progress.addPlain text) rest
  | .separator :: rest => consume progress.addSeparator rest
  | .stranger text :: rest => consume (progress.addExtra text) rest
  | .flag flag attached :: rest =>
      match flagsOf flag attached with
      | .error fault => .error (.usage fault)
      | .ok joined =>
          match joined.waiting?, rest with
          | none, rest =>
              match setJoined progress joined none with
              | .error stop => .error stop
              | .ok progress => consume progress rest
          | some _, .plain text :: rest =>
              match setJoined progress joined (some text) with
              | .error stop => .error stop
              | .ok progress => consume progress rest
          | some flag, _ => .error (.usage (.missingValue flag))

/-- The run that arguments ask for. -/
def parseArguments (arguments : List String) : Except Stop Arguments :=
  match classifyAll arguments with
  | .error fault => .error (.usage fault)
  | .ok words =>
      match consume {} words with
      | .error stop => .error stop
      | .ok progress =>
          if progress.extras.isEmpty then .ok progress.arguments
          else .error (.usage (.unrecognized progress.extras.reverse))

end QueryBindings.CommandLine
