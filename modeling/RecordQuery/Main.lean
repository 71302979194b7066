import RecordQuery.CommandLine

/-! The command: it gathers files and variables, runs the program on them and prints the outcome. -/
namespace RecordQuery

def usageText : String :=
  "Run filter, sort and page requests against JSON records\n\n" ++
  "Usage: [OPTIONS] [query | check]\n\n" ++
  "  -c, --config FILE    settings\n" ++
  "  -d, --data FILE      JSON array of records\n" ++
  "  -r, --request FILE   request: filter, sort and page\n" ++
  "      --index N        page index\n" ++
  "      --size N         page size\n" ++
  "      --origin N       index of the first page\n" ++
  "      --print-config   print the settings and exit\n" ++
  "  -v, --verbose        log more"

def versionText : String := "0.1.0"

def readFile? (path : String) : IO (Option String) := do
  try return some (← IO.FS.readFile path) catch _ => return none

/-- The files that the options name and the variables that set something. -/
def gather (o : Options) : IO Surroundings := do
  let paths := [o.config, o.data, o.request].filterMap id
  let files ← paths.filterMapM fun path => do
    return (← readFile? path).map fun text => (path, text)
  let environment ← Settings.variableNames.filterMapM fun name => do
    return (← IO.getEnv name).map fun value => (name, value)
  return ⟨fun path => (files.find? fun f => f.1 == path).map (·.2), environment⟩

/-- Runs the program and gives its exit code: 1 for an error of the run, 2 for wrong arguments, 101
for a run of which nothing comes. -/
def runCommand (args : List String) : IO UInt32 := do
  match Arguments.read args with
  | .error .wrong =>
    IO.eprintln usageText
    return 2
  | .error .help =>
    IO.println usageText
    return 0
  | .error .version =>
    IO.println versionText
    return 0
  | .ok args =>
    match CommandLine.run (← gather args.options) args with
    | some (.ok text) =>
      IO.println text
      return 0
    | some (.error e) =>
      IO.eprintln ("Error: " ++ e.message)
      return 1
    | none => return 101

end RecordQuery

def main (args : List String) : IO UInt32 := RecordQuery.runCommand args
