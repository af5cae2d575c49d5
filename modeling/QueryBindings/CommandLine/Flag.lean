import QueryBindings.Plugin.Encoding
import QueryBindings.Text.Digit

/-!
# Options of the command

The options that the command understands, with their spellings, and what one
argument looks like.  A long option may be shortened as long as it stays the only
one, and its value may follow an equals sign; the value of a short option may
follow it directly.
-/

namespace QueryBindings.CommandLine

inductive Flag where
  | help
  | format
  | input
  | output
  | logLevel
  | verbose
  | version
  deriving DecidableEq, Repr

namespace Flag

def all : List Flag := [help, format, input, output, logLevel, verbose, version]

/-- The spellings of an option, in the order in which messages list them. -/
def spellings : Flag → List String
  | help => ["-h", "--help"]
  | format => ["--format", "-f"]
  | input => ["--input", "-i"]
  | output => ["--output", "-o"]
  | logLevel => ["--log-level"]
  | verbose => ["--verbose"]
  | version => ["--version"]

def takesValue : Flag → Bool
  | format | input | output | logLevel => true
  | help | verbose | version => false

def shown (flag : Flag) : String :=
  "/".intercalate flag.spellings

def table : List (String × Flag) :=
  all.flatMap fun flag => flag.spellings.map fun spelling => (spelling, flag)

def ofSpelling? (spelling : String) : Option Flag :=
  table.lookup spelling

end Flag

inductive UsageFault where
  | ambiguous (argument : String) (candidates : List String)
  | ignoredValue (flag : Flag) (value : String)
  | missingValue (flag : Flag)
  | invalidFormat (value : String)
  | unrecognized (arguments : List String)
  deriving DecidableEq, Repr

namespace UsageFault

def aboutFlag (flag : Flag) (what : String) : String :=
  "argument " ++ flag.shown ++ ": " ++ what

def message : UsageFault → String
  | ambiguous argument candidates =>
      "ambiguous option: " ++ argument ++ " could match " ++ ", ".intercalate candidates
  | ignoredValue flag value => aboutFlag flag ("ignored explicit argument " ++ Text.quoted value)
  | missingValue flag => aboutFlag flag "expected one argument"
  | invalidFormat value =>
      aboutFlag .format ("invalid choice: " ++ Text.quoted value ++ " (choose from " ++
        ", ".intercalate (Plugin.EncodingChoice.all.map fun choice => Text.quoted choice.name) ++
        ")")
  | unrecognized arguments => "unrecognized arguments: " ++ " ".intercalate arguments

end UsageFault

/-- What follows an option in its own argument. -/
inductive Attached where
  | nothing
  | value (text : String)
  /-- Characters directly after a short option: its value, or more short options. -/
  | letters (chars : List Char)
  deriving DecidableEq, Repr

/-- What an argument is, by its looks alone. -/
inductive Word where
  /-- A value: of an option if one waits for it, otherwise of the command. -/
  | plain (text : String)
  | separator
  | flag (flag : Flag) (attached : Attached)
  | stranger (text : String)
  deriving DecidableEq, Repr

def separatorText : String := "--"

def splitEquals (chars : List Char) : Option (List Char × List Char) :=
  match chars.dropWhile (· != '=') with
  | [] => none
  | _ :: value => some (chars.takeWhile (· != '='), value)

def isNumeral (chars : List Char) : Bool :=
  !chars.isEmpty && chars.all fun c => (Text.digitValue? c).isSome

def withoutFinalBreak (chars : List Char) : List Char :=
  if chars.getLast? = some '\n' then chars.dropLast else chars

/-- Whether an argument is a negative number, which is no option. -/
def isNegativeNumber : List Char → Bool
  | '-' :: rest =>
      let number := withoutFinalBreak rest
      isNumeral number ||
        match number.dropWhile (· != '.') with
        | _ :: fraction =>
            let whole := number.takeWhile (· != '.')
            (whole.isEmpty || isNumeral whole) && isNumeral fraction
        | [] => false
  | _ => false

/-- The options that an argument may be short for, with what is attached to them. -/
def candidates (chars : List Char) : List (String × Flag × Attached) :=
  match chars with
  | '-' :: '-' :: _ =>
      let (name, attached) :=
        match splitEquals chars with
        | some (name, value) => (name, Attached.value (String.ofList value))
        | none => (chars, .nothing)
      (Flag.table.filter fun entry => name.isPrefixOf entry.1.toList).map fun entry =>
        (entry.1, entry.2, attached)
  | '-' :: c :: letters =>
      (Flag.table.filter fun entry => entry.1.toList == ['-', c]).map fun entry =>
        (entry.1, entry.2, .letters letters)
  | _ => []

def flagWithValue? (chars : List Char) : Option Word :=
  match splitEquals chars with
  | none => none
  | some (name, value) =>
      (Flag.ofSpelling? (String.ofList name)).map fun flag =>
        .flag flag (.value (String.ofList value))

/-- What an argument is that starts like an option but is not spelled like one. -/
def classifyAbbreviation (argument : String) (chars : List Char) : Except UsageFault Word :=
  match candidates chars with
  | [(_, flag, attached)] => .ok (.flag flag attached)
  | [] =>
      if isNegativeNumber chars || chars.contains ' ' then .ok (.plain argument)
      else .ok (.stranger argument)
  | several => .error (.ambiguous argument (several.map (·.1)))

def classify (argument : String) : Except UsageFault Word :=
  if argument = separatorText then .ok .separator
  else
    match argument.toList with
    | '-' :: c :: rest =>
        match Flag.ofSpelling? argument with
        | some flag => .ok (.flag flag .nothing)
        | none =>
            match flagWithValue? ('-' :: c :: rest) with
            | some word => .ok word
            | none => classifyAbbreviation argument ('-' :: c :: rest)
    | _ => .ok (.plain argument)

def classifyAll : List String → Except UsageFault (List Word)
  | [] => .ok []
  | argument :: rest =>
      match classify argument with
      | .error fault => .error fault
      | .ok .separator => .ok (.separator :: rest.map .plain)
      | .ok word => (classifyAll rest).map (word :: ·)

end QueryBindings.CommandLine
