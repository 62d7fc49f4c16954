import Std.Time.DateTime.Timestamp
import TagCatalog.CommandLine.Session
import TagCatalog.Instant

/-!
The program.

The part of the disk that a run can look at is read beforehand, and what the run
has changed is written afterwards.
-/

namespace TagCatalog.Main

def absolute (place : Disk.Place) : String :=
  "/" ++ String.intercalate "/" place

/-- What is at a place.  What cannot be read as a file counts as a directory. -/
def observe (place : Disk.Place) : IO (Option Disk.Node) := do
  try
    let content ← IO.FS.readBinFile (absolute place)
    return some (.file content)
  catch error =>
    match error with
    | .noFileOrDirectory .. => return none
    | _ => return some .directory

/-- The disk with what is found on the way from a place along components. -/
def observeAlong (disk : Disk) (place : Disk.Place) : List String → IO Disk
  | [] => pure disk
  | component :: rest => do
      let next := Disk.descend place component
      match ← observe next with
      | some node => observeAlong (if next.isEmpty then disk else disk.put next node) next rest
      | none => return disk

def observePath (disk : Disk) (path : String) : IO Disk :=
  observeAlong disk (disk.start path) (Path.components path)

def variableNames : List String :=
  ["HOME", "TAGGER_DB", "TAGGER_CONFIG_DIR", "TAGGER_LOG", "XDG_CONFIG_HOME",
    "XDG_DATA_HOME", "NO_COLOR", "CLICOLOR", "CLICOLOR_FORCE"]

def environment : IO CommandLine.Environment := do
  let assignments ← variableNames.filterMapM fun name => do
    return (← IO.getEnv name).map fun value => (name, value)
  let terminal ← (← IO.getStdout).isTty
  let time ← Std.Time.Timestamp.now
  let now := (Instant.ofNanoseconds? time.toNanosecondsSinceUnixEpoch.val.toNat).getD .epoch
  let bytes ← IO.getRandomBytes 16
  let bits := bytes.toList.foldl (fun bits byte => 256 * bits + byte.toNat) 0
  return ⟨assignments, terminal, now, Uuid.ofChance bits⟩

def observeFor (environment : CommandLine.Environment)
    (invocation : CommandLine.Invocation) (disk : Disk) : IO Disk := do
  match environment.settingsDirectory with
  | .error _ => return disk
  | .ok directory => do
      let disk ← observePath disk (Settings.path directory)
      match CommandLine.Context.find environment invocation disk with
      | .error _ => return disk
      | .ok context => do
          let disk ← observePath disk context.database
          observePath disk (OnDisk.draftPath context.database)

def store (place : Disk.Place) : Disk.Node → IO Unit
  | .directory => IO.FS.createDirAll (absolute place)
  | .file content => do
      let path := absolute place
      let beside := path ++ ".new"
      IO.FS.writeBinFile beside content
      IO.FS.rename beside path

def commit (before after : Disk) : IO Unit := do
  for (place, node) in after.nodes.entries do
    if before.nodes.get? place ≠ some node then
      store place node
  for (place, _) in before.nodes.entries do
    if !after.nodes.contains place then
      IO.FS.removeFile (absolute place)

def run (words : List String) : IO UInt32 := do
  let environment ← environment
  let working := (Path.components (← IO.currentDir).toString).filter fun name => name ≠ ""
  let disk ← observeAlong ⟨working, .empty⟩ [] working
  let disk ←
    match CommandLine.Invocation.ofWords words with
    | .ok invocation => observeFor environment invocation disk
    | .error _ => pure disk
  let (output, after) := CommandLine.run environment words disk
  commit disk after
  IO.print output.standard
  IO.eprint output.diagnostic
  return UInt32.ofNat output.code

end TagCatalog.Main

/-- Runs the program and reports what the system refuses. -/
def main (words : List String) : IO UInt32 := do
  try
    TagCatalog.Main.run words
  catch error =>
    IO.eprintln ("Error: IO error: " ++ toString error)
    return 1
