import QueryBindings.CommandLine.Arguments
import QueryBindings.Log.Logger

/-!
# Texts about the command

What the command says about itself: its usage, its help and its version.
-/

namespace QueryBindings.CommandLine

def programName : String := "sqlc-gen-typescript"

def programVersion : String := "0.1.0"

def terminated (lines : List String) : String :=
  String.join (lines.map (· ++ "\n"))

def usageLines : List String :=
  [
    "usage: " ++ programName ++
      " [-h] [--format \x7bauto,protobuf,json\x7d] [--input FILE]",
    "                           [--output FILE] [--log-level LEVEL] [--verbose]",
    "                           [--version]",
    "                           [method]"
  ]

def helpLines : List String :=
  usageLines ++
  [
    "",
    "Generate TypeScript query modules from sqlc query descriptors",
    "",
    "positional arguments:",
    "  method                RPC method passed by sqlc (only Generate is supported)",
    "",
    "options:",
    "  -h, --help            show this help message and exit",
    "  --format \x7bauto,protobuf,json\x7d, -f \x7bauto,protobuf,json\x7d",
    "                        Request/response encoding (default: detect from the",
    "                        request)",
    "  --input FILE, -i FILE",
    "                        Read the request from FILE (default: stdin)",
    "  --output FILE, -o FILE",
    "                        Write the response to FILE (default: stdout)",
    "  --log-level LEVEL     Logging level: DEBUG, INFO, WARNING or ERROR (default:",
    "                        WARNING)",
    "  --verbose             Show generation result metadata on stderr",
    "  --version             show program's version number and exit",
    "",
    "Examples:",
    "  " ++ programName ++ " /plugin.CodegenService/Generate < request.bin > response.bin",
    "  " ++ programName ++ " --format json --input request.json --output response.json",
    "",
    "Log level can also be set with the " ++ Log.levelVariable ++ " environment variable."
  ]

def helpText : String := terminated helpLines

def versionText : String := terminated [programName ++ " " ++ programVersion]

def usageFaultText (fault : UsageFault) : String :=
  terminated (usageLines ++ [programName ++ ": error: " ++ fault.message])

end QueryBindings.CommandLine
