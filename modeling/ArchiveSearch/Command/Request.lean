import ArchiveSearch.Command.Failure
import ArchiveSearch.Files.Opening
import ArchiveSearch.Filter.Payload
import ArchiveSearch.Query.IndexAdvice
import ArchiveSearch.Search.Searcher
import ArchiveSearch.Settings
import ArchiveSearch.Suggest.Ranker

namespace ArchiveSearch

set_option autoImplicit false

inductive Request where
  | validate (filter : String)
  | compile (filter : String) (tree simplified : Bool)
  | explain (filter database : String) (tree : Bool)
  | search (filter database : String) (tree : Bool)
  | indexes (filter : String)
  | suggest (input : String) (history : Option String) (contentType : Option ContentType)
  | record (query : String) (results : Nat) (history : Option String)

structure Circumstances where
  now : Nat
  today : Date
  historyPath : String

def Issue.encode (i : Issue) : Json :=
  .object [("field", .string i.field), ("message", .string i.message)]

def Report.encode (r : Report) : Json :=
  .object [("isValid", .bool r.isValid), ("errors", Json.ofList Issue.encode r.errors),
    ("warnings", Json.ofList Issue.encode r.warnings), ("complexity", .ofBinary64 r.complexity)]

def Plan.encode (p : Plan) : Json :=
  .object
    [("estimatedRows", Json.ofOption (fun n : Nat => .integer n) p.estimatedRows),
      ("usesIndex", .bool p.usesIndex), ("scanType", .string p.scanType.name),
      ("cost", .ofBinary64 (Binary64.ofInt p.cost)),
      ("rawDetails", Json.ofList .string p.details)]

namespace Request

abbrev Attempt (α : Type) := Except Failure α

def attempt {α : Type} : Outcome α → Attempt α
  | .ok a => .ok a
  | .error e => .error (.ofError e)

def loadSettings (f : Files) : Option String → Attempt Settings
  | none => .ok {}
  | some path =>
      let message := "Failed to load config from " ++ path
      match f.readText path with
      | .error fault =>
          .error (.because message (.io (some path) fault.message [fault.message]))
      | .ok text =>
          match Settings.ofText text with
          | .ok s => .ok s
          | .error e => .error (.ofText message e)

def readJson (f : Files) (path : String) : Attempt Json :=
  match f.readText path with
  | .error fault => .error { message := "Failed to read " ++ path, causes := [fault.message] }
  | .ok text =>
      match Json.read? text with
      | some j => .ok j
      | none => .error { message := path ++ " is not valid JSON", background := .writing }

def loadFilter (f : Files) (path : String) : Attempt Filter := do
  let payload ← readJson f path
  let report := Payload.validate payload
  if report.isValid then attempt (liftDecoded (Filter.decode .inOpen payload))
  else
    let issues := report.errors.map fun i => i.field ++ ": " ++ i.message
    .error { message := "Invalid filter in " ++ path ++ ": " ++ "; ".intercalate issues }

def loadTree (f : Files) (path : String) : Attempt FilterTree := do
  match FilterTree.decode (← readJson f path) with
  | .ok t => return t
  | .error e => .error { message := path ++ " is not a filter tree", causes := [e.message] }

def loadQuery (f : Files) (today : Date) (path : String) (tree : Bool) : Attempt Query := do
  if tree then attempt ((← loadTree f path).compile today)
  else attempt ((← loadFilter f path).compile today)

def openDatabase (f : Files) (path : String) : Attempt Database × Files :=
  if (f.at? path).isSome then
    let (answer, f) := f.openForSearch path
    (attempt answer, f)
  else (.error { message := "Database not found: " ++ path }, f)

def asking (f : Files) (path : String) (ask : Files → Database → Attempt Json) :
    Attempt Json × Files :=
  let (answer, f) := openDatabase f path
  (answer.bind (ask f), f)

def explanation (settings : Settings) (now : Nat) (d : Database) (q : Query) : Json :=
  let (statement, _) := (Searcher.new settings).prepare now q
  let prepared : Query := { text := statement.text, params := statement.params }
  .object [("statementId", .string statement.id), ("query", prepared.encode),
    ("plan", (Searcher.plan Database.engine q d).encode)]

def searchFile (settings : Settings) (around : Circumstances) (path : String) (tree : Bool) (f : Files)
    (d : Database) : Attempt Json := do
  let searcher := Searcher.new settings
  let rows ←
    if tree then
      attempt
        (searcher.searchTree Database.engine around.now around.today (← loadTree f path) d).1
    else
      attempt
        (searcher.search Database.engine around.now around.today (← loadFilter f path) d).1
  return Json.ofList Row.encode rows

def remembered (settings : Settings) (d : Database) : Ranker :=
  ({ settings := settings.ranker } : Ranker).load d.store

def suggestFrom (settings : Settings) (f : Files) (path input : String)
    (contentType : Option ContentType) : Attempt Json × Files :=
  let (answer, f) := f.openForRecords path
  (attempt (answer.map fun d =>
    Json.ofList Suggestion.encode ((remembered settings d).suggest input contentType)), f)

def recordIn (settings : Settings) (now : Nat) (f : Files) (path query : String) (results : Nat) :
    Attempt Json × Files :=
  if Text.isAllBlank query then (.error { message := "Query must not be empty" }, f)
  else
    match f.openForRecords path with
    | (.error e, f) => (.error (.ofError e), f)
    | (.ok d, f) =>
        let ranker := (remembered settings d).record now query results none
        (.ok (Json.ofList PastSearch.encode ranker.history),
          f.keep path { d with store := ranker.persist d.store })

def run (settings : Settings) (around : Circumstances) (f : Files) : Request → Attempt Json × Files
  | .validate filter => ((readJson f filter).map fun j => (Payload.validate j).encode, f)
  | .compile filter tree simplified =>
      ((loadQuery f around.today filter tree).map fun q =>
        if simplified then ({ q with text := simplify q.text } : Query).encode else q.encode, f)
  | .explain filter database tree =>
      asking f database fun f d =>
        (loadQuery f around.today filter tree).map (explanation settings around.now d)
  | .search filter database tree =>
      asking f database (searchFile settings around filter tree)
  | .indexes filter =>
      ((loadFilter f filter).map fun x => Json.ofList .string x.suggestIndexes, f)
  | .suggest input history contentType =>
      suggestFrom settings f (history.getD around.historyPath) input contentType
  | .record query results history =>
      recordIn settings around.now f (history.getD around.historyPath) query results

def runWith (config : Option String) (around : Circumstances) (f : Files) (r : Request) :
    Attempt Json × Files :=
  match loadSettings f config with
  | .error failure => (.error failure, f)
  | .ok settings => r.run settings around f

end Request

end ArchiveSearch
