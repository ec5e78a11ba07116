import SchemaDeref.Command.Arguments

/-!
# The program

A run of the program as a function of the files, the environment and the words of
the command line.
-/

namespace SchemaDeref

/-- What a run leads to. -/
structure Ending where
  status : Nat
  stdout : String
  /-- The entries of the log. -/
  log : List String
  /-- A file to be written. -/
  written : Option (String × String)
  /-- The files the run looked at. -/
  read : List String
deriving DecidableEq, Repr

namespace Program

def versionText : String := "schemaref 0.1.0\n"

def helpText : String :=
  "JSON Schema reference resolver\n\n" ++
  "Usage: schemaref [OPTIONS] <COMMAND>\n\n" ++
  "Commands:\n" ++
  "  resolve <SCHEMA>  Dereference a schema document and print the result\n" ++
  "  cycles <SCHEMA>   Report circular references without resolving\n\n" ++
  "Options:\n" ++
  "  -v, --verbose          Enable verbose output\n" ++
  "      --config <CONFIG>  Path to a resolver options file (YAML or JSON)\n" ++
  "  -h, --help             Print help\n" ++
  "  -V, --version          Print version\n\n" ++
  "Options of resolve:\n" ++
  "      --schema-dir <DIR>     Directory external references are loaded from\n" ++
  "      --max-depth <N>        Maximum reference hops along one path\n" ++
  "      --circular <POLICY>    What to do with circular references: error, ignore or lazy\n" ++
  "      --no-cache             Disable the per-call reference caches\n" ++
  "      --out <FILE>           Write the result here instead of stdout\n" ++
  "      --compact              Emit compact JSON instead of pretty-printed\n\n" ++
  "Options of cycles:\n" ++
  "      --json  Print the cycles as a JSON array of path arrays\n"

/-- The status of a run with a command line that cannot be read. -/
def usageStatus : Nat := 2

def failureStatus : Nat := 1

def errorLine (failure : Failure) : String :=
  "ERROR " ++ Text.harmless failure.message

/-- A run that ends with a failure, after some notices. -/
def failed (notices : List Notice) (failure : Failure)
    (read : List String) : Ending :=
  ⟨failureStatus, "", notices.map Notice.line ++ [errorLine failure], none, read⟩

/-- The command `resolve`. The settings come first. -/
def resolve (files : Files) (environment : Environment) (config : Option String)
    (request : ResolveRequest) : Ending :=
  match Settings.load files environment config with
  | .error failure => failed [] failure config.toList
  | .ok settings =>
    let resolved := request.run files settings
    let read := config.toList ++ request.schema :: resolved.sources
    match resolved.result with
    | .error failure => failed resolved.notices failure read
    | .ok (.print text) => ⟨0, text, resolved.notices.map Notice.line, none, read⟩
    | .ok (.file path text) =>
      ⟨0, "", resolved.notices.map Notice.line, some (path, text), read⟩

/-- The command `cycles`. It needs no settings. -/
def cycles (files : Files) (request : CyclesRequest) : Ending :=
  match request.run files with
  | .error failure => failed [] failure [request.schema]
  | .ok (status, text) => ⟨status, text, [], none, [request.schema]⟩

/-- A run of the program. -/
def run (files : Files) (environment : Environment) (words : List String) : Ending :=
  match CommandLine.read? words with
  | none => ⟨usageStatus, "", [], none, []⟩
  | some .version => ⟨0, versionText, [], none, []⟩
  | some .help => ⟨0, helpText, [], none, []⟩
  | some (.resolve config request) => resolve files environment config request
  | some (.cycles request) => cycles files request

end Program

end SchemaDeref
