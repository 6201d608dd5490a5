import CodeAtlas.Command.Run
import CodeAtlas.Embedding.ArrayFile

set_option autoImplicit false

/-! The program: it gathers what a command can see, runs the command and prints what it says. -/

namespace CodeAtlas.Program

open CodeAtlas.Command CodeAtlas.Embedding CodeAtlas.Files

def variableNames : List String :=
  ["CODEINDEX_RULES_PATH", "CODEINDEX_EMBEDDING_BACKEND", "CODEINDEX_EMBEDDING_MODEL",
   "OPENAI_API_KEY", "CODEINDEX_CACHE_DIR", "CODEINDEX_BATCH_SIZE", "CODEINDEX_WORKERS",
   "CODEINDEX_MIN_BODY_SIZE", "CODEINDEX_CONFIG_POLL_SECONDS"]

def environment : IO Environment :=
  variableNames.filterMapM fun name => do
    return (← IO.getEnv name).map fun value => (name, value)

-- The bytes of a file, or nothing where there is none.
def bytesAt? (path : String) : IO (Option (List UInt8)) :=
  try return some (← IO.FS.readBinFile path).toList
  catch _ => return none

def addPath (w : Workspace) (path : String) : IO Workspace := do
  let location := Location.ofText path
  if !location.isNameable then return w
  try
    let bytes ← IO.FS.readBinFile location.text
    return (w.place location bytes.toList none).toOption.getD w
  catch
    | .inappropriateType .. => return (w.makeFolder location).toOption.getD w
    | _ => return w

def entryPath (folder key : String) : String :=
  folder ++ "/" ++ key ++ ".npy"

def readCache (folder : String) (keys : List String) : IO Cache :=
  keys.foldlM (fun cache key => do
    match ← bytesAt? (entryPath folder key) with
    | some bytes => return cache.put key (ArrayFile.read bytes)
    | none => return cache) .empty

def writeCache (folder : String) (before after : Cache) : IO Unit := do
  for (key, _) in before.entries do
    if (Keyed.lookup key after.entries).isNone then
      try IO.FS.removeFile (entryPath folder key) catch _ => pure ()
  for (key, kept) in after.entries do
    match Keyed.lookup key before.entries, kept with
    | some (.vector _), _ => pure ()
    | _, .vector vector =>
      try IO.FS.writeBinFile (entryPath folder key) ⟨(ArrayFile.write vector).toArray⟩
      catch _ => pure ()
    | _, .unreadable => pure ()

def faultText (fault : Fault) : String :=
  match fault with
  | .file problem path => problemAt problem path
  | fault => fault.message?.getD "The command has failed."

def inputFor (i : Invocation) : IO String := do
  if i.request.files.contains "-" then (← IO.getStdin).readToEnd else return ""

def perform (i : Invocation) : IO UInt32 := do
  let env ← environment
  let input ← inputFor i
  let workspace ← (pathsRead env input i).foldlM addPath Workspace.empty
  let bare : Surroundings := ⟨workspace, env, input, .empty⟩
  let folder := (Settings.ofEnvironment env).cacheFolder
  let before ← readCache folder (keysRead bare i)
  match run { bare with cache := before } i with
  | .ok outcome =>
    IO.print outcome.text
    if let some after := outcome.cache then
      IO.FS.createDirAll folder
      writeCache folder before after
    return UInt32.ofNat outcome.code
  | .error fault =>
    IO.eprintln (faultText fault)
    return 1

end CodeAtlas.Program

def main (args : List String) : IO UInt32 := do
  match CodeAtlas.Command.invocation args with
  | .ok invocation => CodeAtlas.Program.perform invocation
  | .error .helpWanted => return 0
  | .error .rejected =>
    IO.eprintln "The arguments cannot be understood."
    return 2
