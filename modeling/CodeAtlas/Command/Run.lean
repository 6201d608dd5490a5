import CodeAtlas.Atlas.Build
import CodeAtlas.Atlas.Scan
import CodeAtlas.Bundles.Resolve
import CodeAtlas.Command.Request
import CodeAtlas.Index.Search
import CodeAtlas.Settings

set_option autoImplicit false

/-! Running a command line: what it prints and with which code it ends. -/

namespace CodeAtlas.Command

open CodeAtlas.Bundles CodeAtlas.Classify CodeAtlas.Embedding CodeAtlas.Files CodeAtlas.Index
open CodeAtlas.Rules CodeAtlas.Text

/-- What a command can see: files, variables and its input. -/
structure Surroundings where
  workspace : Workspace
  environment : Environment
  input : String
  cache : Cache

/-- The code a command ends with, the lines it prints, and the cache that it leaves. -/
structure Outcome where
  code : Nat
  lines : List String
  cache : Option Cache

def inputLines (input : String) : List String :=
  ((splitWhere (· == '\n') input.toList).map fun line => String.ofList (trim line)).filter
    (!·.isEmpty)

-- A dash stands for the lines of the input, which can be read once.
def fileList (input : String) : List String → List String
  | [] => []
  | path :: paths =>
    if path == "-" then inputLines input ++ fileList "" paths else path :: fileList input paths

def settingsFor (s : Surroundings) (rulesPath backend : String) (noCache : Bool) : Settings :=
  let settings := Settings.ofEnvironment s.environment
  { settings with
    rulesPath := if rulesPath.isEmpty then settings.rulesPath else rulesPath
    backend := if backend.isEmpty then settings.backend else backend
    cacheFolder := if noCache then "" else settings.cacheFolder }

-- An empty atlas for the settings, and the folder with that of the cache in it.
def openAtlas (s : Surroundings) (settings : Settings) : Except Fault (Atlas × Workspace) := do
  let backend ← Backend.named settings.backend settings.model settings.key
  let index := VectorIndex.empty backend settings.batchSize
  let book := RuleBook.ofPath settings.rulesPath
  if settings.cacheFolder.isEmpty then
    pure (.empty book index none settings.least, s.workspace)
  else
    let workspace ← s.workspace.makeFolder (.ofText settings.cacheFolder)
    pure (.empty book index (some s.cache) settings.least, workspace)

def scanned (s : Surroundings) (settings : Settings) (files : List String) :
    Except Fault (ScanStats × Atlas × Workspace) := do
  let (a, w) ← openAtlas s settings
  let (stats, a) := a.scan w (fileList s.input files)
  pure (← stats, a, w)

def printed (lines : List String) (a : Atlas) (code : Nat) : Outcome :=
  ⟨code, lines, a.cache⟩

def withoutCode : List (String × Document) → List (String × Document) :=
  Keyed.erase "code"

def scanDocument (code : Bool) (units : List ClassifiedUnit) : Document :=
  .list (units.map fun u =>
    .object (if code then u.record.toFields else withoutCode u.record.toFields))

def kindLines (counts : List (String × Nat)) : List String :=
  (counts.mergeSort fun a b => inOrder a.1 b.1).map fun (kind, count) => s!"   {kind}: {count}"

def unitLine (u : ClassifiedUnit) : String :=
  s!"  • {u.raw.name} ({u.raw.kind}) {u.raw.path}:{u.raw.startLine}  [{u.purpose}]"

def scanLines (stats : ScanStats) (units : List ClassifiedUnit) : List String :=
  [s!"📊 {stats.units} units from {stats.indexed}/{stats.scanned} files"] ++
  kindLines stats.byKind ++ [""] ++ units.map unitLine ++ stats.errors.map ("❌ " ++ ·)

-- A scan fails if nothing could be read.
def runScan (s : Surroundings) (rulesPath : String) (files : List String) (json code : Bool) :
    Except Fault Outcome := do
  let (stats, a, _) ← scanned s (settingsFor s rulesPath "" false) files
  let units := a.store.all
  if json then pure (printed [(scanDocument code units).renderIndented] a 0)
  else
    let failed := !stats.errors.isEmpty && stats.indexed == 0
    pure (printed (scanLines stats units) a (if failed then 1 else 0))

def hitDocument (hit : Hit) : Document :=
  let metadata := match hit.metadata with
    | .object fields => fields
    | _ => []
  .object ([("id", .text hit.id), ("similarity", .float (Number.roundTo 4 hit.similarity))] ++
    metadata)

def shownField (name : String) (metadata : Document) : String :=
  ((metadata.field? name).getD .null).toText

def padStart (width : Nat) (text : String) : String :=
  String.ofList (Number.padLeft width ' ' text.toList)

def padEnd (width : Nat) (text : String) : String :=
  String.ofList (text.toList ++ List.replicate (width - text.length) ' ')

def hitLine (rank : Nat) (hit : Hit) : String :=
  let number := padStart 2 s!"{rank}"
  let similarity := Number.fixed 3 hit.similarity
  let name := shownField "name" hit.metadata
  let path := shownField "filePath" hit.metadata
  let line := shownField "startLine" hit.metadata
  let purpose := shownField "purpose" hit.metadata
  s!"{number}. {similarity}  {name}  {path}:{line}  [{purpose}]"

def hitLines (json : Bool) (hits : List Hit) : List String :=
  if json then [(Document.list (hits.map hitDocument)).renderIndented]
  else if hits.isEmpty then ["🔍 No matches"]
  else hits.mapIdx fun i hit => hitLine (i + 1) hit

/-- What a search looks for among files. -/
structure Wish where
  query : String
  limit : Int
  type : String
  least : Float
  json : Bool

def runSearch (s : Surroundings) (settings : Settings) (files : List String) (wish : Wish) :
    Except Fault Outcome := do
  let (_, a, _) ← scanned s settings files
  match a.build with
  | (.error (.backend problem), a) =>
    pure (printed ["❌ Semantic search unavailable: " ++ problem.message] a 2)
  | (.error fault, _) => .error fault
  | (.ok _, a) =>
    let (hits, _) := a.index.search wish.query wish.limit wish.least wish.type
    pure (printed (hitLines wish.json (← hits)) a 0)

def bundleDocument (b : Bundle) : Document :=
  .object
    [("name", .text b.name), ("label", .text b.label), ("source", .text b.origin.label),
     ("file_count", .int b.fileCount), ("description", .text b.description)]

def bundleLine (b : Bundle) : String :=
  let name := padEnd 40 b.name
  let count := padStart 4 s!"{b.fileCount}"
  s!"📦 {name} {count} files  ({b.origin.label})"

def runBundles (s : Surroundings) (rulesPath : String) (files : List String) (label : String)
    (json : Bool) : Except Fault Outcome := do
  let (_, a, _) ← scanned s (settingsFor s rulesPath "" false) files
  let units := a.store.all.map labelledUnit
  let lines :=
    if !label.isEmpty then sortTexts (resolve label units)
    else if json then [(Document.list ((bundles units).map bundleDocument)).renderIndented]
    else (bundles units).map bundleLine
  pure (printed lines a 0)

def suggestLine (rules : RuleSet) (path : String) : String :=
  path ++ ": " ++ join ", " (suggestLabels rules path)

-- The rules are needed only if there is a path.
def runSuggest (s : Surroundings) (rulesPath : String) (paths : List String) :
    Except Fault Outcome := do
  let (a, w) ← openAtlas s (settingsFor s rulesPath "" false)
  match fileList s.input paths with
  | [] => pure (printed [] a 0)
  | paths =>
    let rules ← (a.book.rules w).1
    pure (printed (paths.map (suggestLine rules)) a 0)

def plain (lines : List String) (code : Nat) : Outcome :=
  ⟨code, lines, none⟩

def validLine (description : String) (rules : RuleSet) : String :=
  let purposes := rules.purposeRules.length
  let labels := rules.bundleRules.length
  s!"✅ {description}: {purposes} purpose rules, {labels} bundle rules, version {rules.version}"

def runValidate (s : Surroundings) (source : String) : Except Fault Outcome :=
  let checked := do
    let origin ← readText s.workspace source
    pure (origin.description, ← origin.build)
  match checked with
  | .ok (description, rules) => .ok (plain [validLine description rules] 0)
  | .error (.rules problem) =>
    .ok (plain ["❌ Invalid rule configuration: " ++ problem.message] 1)
  | .error fault => .error fault

def mappingDocument (rules : RuleSet) : Document :=
  .object ((rules.mapping.mergeSort fun a b => inOrder a.1 b.1).map fun (type, id) =>
    (type, .int id))

def runRules (s : Surroundings) (rulesPath : String) (mapping : Bool) : Except Fault Outcome := do
  let settings := settingsFor s rulesPath "" false
  let rules ← ((RuleBook.ofPath settings.rulesPath).rules s.workspace).1
  let shown := if mapping then mappingDocument rules else rules.document
  pure (plain [shown.renderIndented] 0)

def runRequest (s : Surroundings) (rulesPath : String) : Request → Except Fault Outcome
  | .scan files json code => runScan s rulesPath files json code
  | .search query files limit type least backend noCache json =>
    runSearch s (settingsFor s rulesPath backend noCache) files ⟨query, limit, type, least, json⟩
  | .bundles files label json => runBundles s rulesPath files label json
  | .suggest paths => runSuggest s rulesPath paths
  | .rules validate mapping =>
    if validate.isEmpty then runRules s rulesPath mapping else runValidate s validate

def run (s : Surroundings) (i : Invocation) : Except Fault Outcome :=
  match runRequest s i.rulesPath i.request with
  | .error (.rules problem) => .ok (plain ["❌ " ++ problem.message] 2)
  | .error (.backend problem) => .ok (plain ["❌ " ++ problem.message] 2)
  | result => result

-- The arguments of a request that are paths, or a dash for those on the input.
def Request.files : Request → List String
  | .scan files _ _ => files
  | .search _ files .. => files
  | .bundles files _ _ => files
  | .suggest paths => paths
  | .rules .. => []

def pathsRead (env : Environment) (input : String) (i : Invocation) : List String :=
  let settings := Settings.ofEnvironment env
  let rulesPath := if i.rulesPath.isEmpty then settings.rulesPath else i.rulesPath
  match i.request with
  | .rules validate _ => [rulesPath, validate]
  | request => rulesPath :: settings.cacheFolder :: fileList input request.files

def keysRead (s : Surroundings) (i : Invocation) : List String :=
  match i.request with
  | .search _ files _ _ _ backend noCache _ =>
    match scanned s (settingsFor s i.rulesPath backend noCache) files with
    | .ok (_, a, _) => a.store.all.map (unitKey a.index.backend.model)
    | .error _ => []
  | _ => []

def Outcome.text (o : Outcome) : String :=
  String.join (o.lines.map (· ++ "\n"))

end CodeAtlas.Command
