import RecordQuery.CommandLine.Arguments
import RecordQuery.CommandLine.RequestFile
import RecordQuery.Formula.Text
import RecordQuery.Json.Path
import RecordQuery.Json.Printer
import RecordQuery.Queryable
import RecordQuery.Setting.OfNode
import RecordQuery.Settings.Environment

/-! The program: it reads settings, a request and records from files and prints a page of the
records, or what the request comes to. -/
namespace RecordQuery

/-- Where the program runs: the texts of files and the variables, in order. -/
structure Surroundings where
  file? : String → Option String
  environment : List (String × String)

inductive RunError where
  | noSettingsFile (path : String)
  | badSettings
  | unreadableRequest (path : String)
  | malformedRequest (path : String)
  | dataRequired
  | unreadableData (path : String)
  | malformedData (path : String)
  | request (e : RequestError)
  | fetch (e : FetchError)
  deriving DecidableEq, Repr

def RunError.message : RunError → String
  | noSettingsFile path => "config file does not exist: " ++ path
  | badSettings => "invalid configuration"
  | unreadableRequest path => "failed to read request file " ++ path
  | malformedRequest path => "malformed request in " ++ path
  | dataRequired => "--data is required for the query command"
  | unreadableData path => "failed to read data file " ++ path
  | malformedData path => "data file " ++ path ++ " must hold a JSON array"
  | request e => e.message
  | fetch e => e.message

namespace CommandLine

def orThrow (e : RunError) : Option α → Except RunError α
  | some x => .ok x
  | none => .error e

def loadLayer (s : Surroundings) : Option String → Except RunError Setting
  | none => .ok (.group [])
  | some path => do
    let text ← orThrow (.noSettingsFile path) (s.file? path)
    orThrow .badSettings (Setting.ofDocument? text)

/-- Standard settings, then those of the file, of the variables and of the options. -/
def loadSettings (s : Surroundings) (o : Options) : Except RunError Settings := do
  let layer ← loadLayer s o.config
  let settings ← orThrow .badSettings
    (Settings.ofSetting? (layer.overlay (Settings.variableLayer s.environment)))
  let level := match o.verbosity with
    | 0 => settings.logging.level
    | 1 => "info"
    | 2 => "debug"
    | _ => "trace"
  return { settings with
    logging := { settings.logging with level := level }
    paging := ⟨o.size.getD settings.paging.size, o.origin.getD settings.paging.origin⟩ }

def loadRequest (s : Surroundings) : Option String → Except RunError RequestFile
  | none => .ok .empty
  | some path => do
    let text ← orThrow (.unreadableRequest path) (s.file? path)
    orThrow (.malformedRequest path) (RequestFile.ofText? text)

def loadRecords (s : Surroundings) : Option String → Except RunError (List Json)
  | none => .error .dataRequired
  | some path => do
    let text ← orThrow (.unreadableData path) (s.file? path)
    match Json.ofText? text (some Json.depthLimit) with
    | some (.array items) => return items.map Json.canonical
    | _ => throw (.malformedData path)

/-- The plan of a request, with the tiebreaker of the settings. -/
def planOf (settings : Settings) (request : Request) : Except RunError Plan :=
  match request.plan settings.limits default with
  | .error e => .error (.request e)
  | .ok plan =>
    match settings.tiebreaker with
    | some field => .ok { plan with order := SortKey.ensureTiebreaker field .ascending plan.order }
    | none => .ok plan

/-- Options go before the request file, which goes before the settings. -/
def pageOf (o : Options) (settings : Settings) (page : PageChoice) : PageRequest :=
  let origin := (o.origin <|> page.origin).getD settings.paging.origin
  { index := (o.index <|> page.index).getD origin
    size := (o.size <|> page.size).getD settings.paging.size
    origin := origin }

def fetchPage (records : List Json) (plan : Plan) (page : PageRequest) :
    ExceptT FetchError Option (Page Json) :=
  let source : Fragile Json := ⟨Store.select ⟨Json.schema, records⟩⟩
  let fetch : ExceptT FetchError (OptionT Id) (Page Json) := do
    let query ← fromSource (applyPlan source plan)
    paginate query page
  fetch.run.run

/-- Nothing comes of a query whose records cannot be sorted. -/
def runQuery (s : Surroundings) (o : Options) (settings : Settings) (file : RequestFile) :
    ExceptT RunError Option String := do
  let records ← loadRecords s o.data
  let plan ← planOf settings file.request
  let page ← (fetchPage records plan (pageOf o settings file.page)).adapt RunError.fetch
  return (page.toJson id).pretty

/-- The texts of filter and order and the values of the slots. -/
def report (plan : Plan) : Json :=
  .object
    [("filter", (plan.filter.map fun f => Json.string f.lambda.body.toText).getD .null),
      ("order", .string (SortKey.listText plan.order)),
      ("values", .array ((plan.filter.map fun f =>
        f.slots.map fun v => (v.map Value.toJson).getD .null).getD []))]

def runCheck (settings : Settings) (file : RequestFile) : Except RunError String := do
  let plan ← planOf settings file.request
  return (report plan).pretty

def run (s : Surroundings) (args : Arguments) : ExceptT RunError Option String := do
  let o := args.options
  let settings ← loadSettings s o
  if o.printConfig then return settings.toJson.pretty
  let file ← loadRequest s o.request
  match args.command.getD .query with
  | .query => runQuery s o settings file
  | .check => runCheck settings file

end CommandLine

end RecordQuery
