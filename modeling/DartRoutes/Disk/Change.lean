import DartRoutes.Disk.Basic

/-!
# Changing a disk

Making directories, writing files and deleting. A change that fails half way leaves what it has
done so far.
-/

namespace DartRoutes

namespace Disk

/-- A change of a disk, which may fail and then leaves the disk as far as it came. -/
abbrev Change (α : Type) := EStateM FileFault Disk α

def ask {α : Type} (question : Disk → Except FileFault α) : Change α := do
  match question (← get) with
  | .ok answer => return answer
  | .error fault => throw fault

/-- The place at which a path makes something. -/
def targetOf (path : Path) : Change (Option Place) :=
  ask fun disk =>
    match disk.target path with
    | .ok place? => .ok place?
    | .error kind => .error ⟨kind, path⟩

def put (place : Place) (new : FileTree) : Change Unit :=
  modify fun disk => { disk with tree := disk.tree.put place new }

/-- Makes a directory, whose parent directory has to be there. -/
def makeDirectory (path : Path) : Change Unit := do
  match ← targetOf path with
  | none => throw ⟨.present, path⟩
  | some place =>
      if ((← get).tree.at? place).isSome then throw ⟨.present, path⟩
      else put place .empty

/-- A fault of making a directory counts only if there is no directory at the path. -/
def unlessDirectory (path : Path) (fault : FileFault) : Change Unit := do
  if fault.kind = .nullCharacter then throw fault
  else unless ← ask (·.isDirectory path) do throw fault

/-- Makes a directory unless it is there, and at most `depth` directories on the way to it. -/
def makeDirectoriesWithin : (depth : Nat) → Path → Change Unit
  | 0, path => tryCatch (makeDirectory path) (unlessDirectory path)
  | depth + 1, path =>
      tryCatch (makeDirectory path) fun fault =>
        if fault.kind = .missing then do
          makeDirectoriesWithin depth path.parent
          tryCatch (makeDirectory path) (unlessDirectory path)
        else unlessDirectory path fault

/-- Makes a directory unless it is there, and the directories on the way to it. -/
def makeDirectories (path : Path) : Change Unit :=
  makeDirectoriesWithin path.parts.length path

/-- Writes a file, whose directory has to be there. -/
def writeFile (path : Path) (content : Bytes) : Change Unit := do
  match ← targetOf path with
  | none => throw ⟨.isDirectory, path⟩
  | some place =>
      if ((← get).tree.at? place).any FileTree.isDirectory then throw ⟨.isDirectory, path⟩
      else put place (.file content)

/-- Writes a file, after the directories on the way to it are made. -/
def writeDeepFile (path : Path) (content : Bytes) : Change Unit := do
  makeDirectories path.parent
  writeFile path content

def delete (path : Path) : Change Unit := do
  match (← get).locate path with
  | .ok place => modify fun disk => { disk with tree := disk.tree.erase place }
  | .error kind => throw ⟨kind, path⟩

end Disk

end DartRoutes
