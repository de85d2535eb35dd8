import DartSurvey.Report.Render

/-! # Options of the command line

What an option asks for (`Choice`), the names an option goes by, and the texts that explain them.
-/

namespace DartSurvey.CommandLine

open Report (Format)

/-- What an option asks for. -/
inductive Choice where
  | help
  | filter (s : Switch)
  | format (f : Format)
  | config
  | verbose
  | logFile
deriving DecidableEq

namespace Choice

/-- The names of an option. -/
def names : Choice → List String
  | .help => ["-h", "--help"]
  | .filter s => [s.option]
  | .format f => ["--" ++ f.name]
  | .config => ["--config"]
  | .verbose => ["-v", "--verbose"]
  | .logFile => ["--log-file"]

/-- Whether an option has a value. -/
def takesValue : Choice → Bool
  | .config | .logFile => true
  | _ => false

/-- An option as it is called in messages. -/
def label (c : Choice) : String := String.intercalate "/" c.names

/-- All options in their order. -/
def all : List Choice :=
  [.help, .filter .privateOnly, .filter .noPrimitives, .filter .finalOnly, .filter .noFinal, .filter .noImports,
   .filter .noClasses, .format .markdown, .format (.plain "simple"), .format .json, .config, .verbose, .logFile]

/-- The names of all options, each with what it asks for. -/
def byName : List (String × Choice) := all.flatMap fun c => c.names.map fun n => (n, c)

/-- The option of a name. -/
def ofName? (name : String) : Option Choice := (byName.find? (·.1 == name)).map (·.2)

end Choice

/-- The name of the program. -/
def program : String := "dart-inspect"

/-- How the program is called. -/
def usage : String :=
  "usage: dart-inspect [-h] [--private-only] [--no-primitives] [--final-only]\n"
  ++ "                    [--no-final] [--no-imports] [--no-classes]\n"
  ++ "                    [--markdown | --simple | --json] [--config CONFIG] [-v]\n"
  ++ "                    [--log-file LOG_FILE]\n"
  ++ "                    [directory]\n"

/-- What the program does and what its options ask for. -/
def help : String :=
  usage
  ++ "\nReport the imports and instance fields of Dart source files.\n"
  ++ "\npositional arguments:\n"
  ++ "  directory            Directory to scan recursively for .dart files.\n"
  ++ "\noptions:\n"
  ++ "  -h, --help           show this help message and exit\n"
  ++ "  --private-only       Show only private fields.\n"
  ++ "  --no-primitives      Ignore fields of primitive types (String, int, bool,\n"
  ++ "                       ...).\n"
  ++ "  --final-only         Show only final fields.\n"
  ++ "  --no-final           Ignore final fields.\n"
  ++ "  --no-imports         Do not show file imports.\n"
  ++ "  --no-classes         Do not show class fields.\n"
  ++ "  --markdown           Markdown output.\n"
  ++ "  --simple             Simple text output (default).\n"
  ++ "  --json               One JSON object per record and line.\n"
  ++ "  --config CONFIG      Path to a .dart_inspect.yml file (defaults to one\n"
  ++ "                       inside the directory).\n"
  ++ "  -v, --verbose        Increase log verbosity for troubleshooting.\n"
  ++ "  --log-file LOG_FILE  Also write log records to this file.\n"

end DartSurvey.CommandLine
