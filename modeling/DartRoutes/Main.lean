import DartRoutes.CommandLine.Run
import DartRoutes.Standard

/-!
# The program

Reads the part of the disk that a run may look at, runs, shows the log and writes the files that
have changed. The run itself is a function of what was read.
-/

namespace DartRoutes

namespace Program

/-- The environment variables that have a meaning. -/
def variableNames : List String :=
  ["ROUTEGEN_PROJECT_ROOT", "ROUTEGEN_PACKAGE_NAME", "ROUTEGEN_CONFIG_FILE", "ROUTEGEN_TABLE_NAME",
    "ROUTEGEN_NO_SCAFFOLD"]

/-- The values of the environment variables. -/
def readEnvironment : IO (List (Text × Text)) := do
  let found ← variableNames.filterMapM fun name => do
    return (← IO.getEnv name).map fun value => (name.toList, value.toList)
  return found

/-- The tree at a path, whose files are given without their content. -/
partial def readOutline (path : String) : IO FileTree := do
  let place ← IO.FS.realPath path
  if ← place.isDir then
    let entries ← place.readDir
    let trees ← entries.toList.mapM fun entry => do
      return (entry.fileName.toList, ← readOutline (path ++ "/" ++ entry.fileName))
    return .directory trees
  else return .file []

def readFile (path : String) : IO FileTree := do
  if ← (← IO.FS.realPath path).isDir then return .directory []
  else return .file (← IO.FS.readBinFile path).toList

/-- The tree with what is at a path, if there is anything; a directory that is known stays. -/
def addPath (read : String → IO FileTree) (path : Path) (tree : FileTree) : IO FileTree := do
  if (tree.at? path.parts).any FileTree.isDirectory then return tree
  else
    try
      let found ← read (String.ofList path.text)
      return tree.put path.parts found
    catch _ => return tree

/-- The part of the disk that matters to a run with the given settings. -/
def readDisk (settings : Settings) : IO Disk := do
  let directory := (Path.ofText (← IO.currentDir).toString.toList).parts
  let placeOf (path : Path) : Path :=
    match (Disk.mk .empty directory).resolve path with
    | .ok path => path
    | .error _ => path
  let root := placeOf settings.projectRoot
  let mut tree ← addPath readFile root .empty
  for path in [settings.libDir, settings.assetsDir] do
    tree ← addPath readOutline (placeOf path) tree
  for path in [settings.routeConfigPath, settings.builderConfigPath, settings.pubspecPath] do
    tree ← addPath readFile (placeOf path) tree
  return ⟨tree, directory⟩

/-- Writes the files whose content has changed. -/
def writeChanges (earlier later : FileTree) : IO Unit := do
  for (place, content) in later.files do
    unless earlier.contentAt? place = some content do
      let text (place : Place) : String := String.ofList (Path.mk .root place).text
      IO.FS.createDirAll (text place.dropLast)
      IO.FS.writeBinFile (text place) ⟨content.toArray⟩

def showEntry : LogEntry → IO Unit
  | .line text => IO.println (String.ofList text)
  | .rule title => IO.println ("──" ++ String.ofList title ++ "──")
  | .panel text => IO.println (String.ofList text)
  | .table title rows => do
      IO.println (String.ofList title)
      for (item, value) in rows do
        IO.println ("  " ++ String.ofList item ++ ": " ++ String.ofList value)

def usage : String :=
  "usage: routegen [-h] [--project-root DIR] [--package-name NAME] [--config FILE] "
    ++ "[--no-scaffold] [routes|assets|all]"

def readClock : IO Seconds := do
  return .binary (.ofQuotient false (← IO.monoNanosNow) 1000000000)

def run (arguments : List Text) : IO Nat := do
  let start ← readClock
  let environment ← readEnvironment
  let settings := match CommandLine.Request.ofTexts arguments with
    | .ok (some request) => ((CommandLine.settingsFor environment request).toOption).getD .default
    | _ => .default
  let disk ← readDisk settings
  let (exit?, workspace) :=
    match CommandLine.run environment arguments ⟨disk, [start, ← readClock], []⟩ with
    | .ok exit workspace => (Except.ok exit, workspace)
    | .error failure workspace => (Except.error failure, workspace)
  workspace.log.forM showEntry
  writeChanges disk.tree workspace.disk.tree
  match exit? with
  | .ok exit =>
      if exit = .help then IO.println usage
      if let some text := exit.usageText? then
        IO.eprintln usage
        IO.eprintln (String.ofList text)
      return exit.code
  | .error failure =>
      IO.eprintln (String.ofList failure.message)
      return 1

end Program

end DartRoutes

def main (arguments : List String) : IO UInt32 := do
  return (← DartRoutes.Program.run (arguments.map String.toList)).toUInt32
