import DartRoutes.Disk.Tree
import DartRoutes.Path

/-!
# Disks

A disk is a file tree with a working directory, from which relative paths start. A path is followed
name by name, and every name before the last one has to be a directory. Looking something up never
changes the disk.
-/

namespace DartRoutes

/-- Why the disk refuses a path. -/
inductive FileFault.Kind where
  | missing
  | present
  | notDirectory
  | isDirectory
  | nameTooLong
  /-- The path holds a NUL character and never reaches the disk. -/
  | nullCharacter
  deriving DecidableEq, Repr

/-- A path that is refused, and why. -/
structure FileFault where
  kind : FileFault.Kind
  path : Path
  deriving DecidableEq, Repr

namespace FileFault

/-- The number and the wording of a kind of fault, if it comes from the disk. -/
def Kind.description? : Kind → Option (Nat × Text)
  | .missing => some (2, "No such file or directory")
  | .present => some (17, "File exists")
  | .notDirectory => some (20, "Not a directory")
  | .isDirectory => some (21, "Is a directory")
  | .nameTooLong => some (36, "File name too long")
  | .nullCharacter => none

/-- Does the fault come from the disk? -/
def isFromDisk (fault : FileFault) : Bool :=
  fault.kind.description?.isSome

def message (fault : FileFault) : Text :=
  match fault.kind.description? with
  | some (number, description) =>
      "[Errno " ++ Text.ofNat number ++ "] " ++ description ++ ": " ++ fault.path.text.quoted
  | none => "embedded null byte"

end FileFault

/-- A file tree with a working directory. -/
structure Disk where
  tree : FileTree
  directory : Place

namespace Disk

def parentName : Text := ".."

/-- Has the name more bytes than a directory can hold? -/
def isTooLong (name : Text) : Bool :=
  255 < (Utf8.encode name).length

/-- Refuses a path that is too long as a whole or that holds a NUL character. -/
def checkPath (path : Path) : Except FileFault.Kind Unit :=
  if path.text.contains '\x00' then .error .nullCharacter
  else if 4096 ≤ (Utf8.encode path.text).length then .error .nameTooLong
  else .ok ()

def start (disk : Disk) (path : Path) : Place :=
  match path.anchor with
  | .relative => disk.directory
  | _ => []

/-- The place of a name in the directory at a place, if the directory can hold the name; there is
none for the parent directory. -/
def slot (tree : FileTree) (place : Place) (name : Text) :
    Except FileFault.Kind (Option Place) :=
  match tree.at? place with
  | none => .error .missing
  | some (.file _) => .error .notDirectory
  | some (.directory _) =>
      if name = parentName then .ok none
      else if isTooLong name then .error .nameTooLong
      else .ok (some (place ++ [name]))

/-- One step from a place to something in it. -/
def step (tree : FileTree) (place : Place) (name : Text) : Except FileFault.Kind Place := do
  match ← slot tree place name with
  | none => return place.dropLast
  | some next => if (tree.at? next).isSome then return next else throw .missing

/-- The place to which a path leads. -/
def locate (disk : Disk) (path : Path) : Except FileFault.Kind Place := do
  checkPath path
  path.parts.foldlM (step disk.tree) (disk.start path)

/-- The place at which a path makes something, whether there is something or not; there is none if
the path ends at a directory that is there in any case. -/
def target (disk : Disk) (path : Path) : Except FileFault.Kind (Option Place) := do
  checkPath path
  match path.parts.getLast? with
  | none => return none
  | some name =>
      let place ← path.parts.dropLast.foldlM (step disk.tree) (disk.start path)
      slot disk.tree place name

def find (disk : Disk) (path : Path) : Except FileFault.Kind FileTree := do
  match disk.tree.at? (← disk.locate path) with
  | some tree => return tree
  | none => throw .missing

/-- What a path leads to, if it leads anywhere; a name that is too long is a fault. -/
def find? (disk : Disk) (path : Path) : Except FileFault (Option FileTree) :=
  match disk.find path with
  | .ok tree => .ok (some tree)
  | .error .nameTooLong => .error ⟨.nameTooLong, path⟩
  | .error _ => .ok none

def pathExists (disk : Disk) (path : Path) : Except FileFault Bool :=
  Option.isSome <$> disk.find? path

def isDirectory (disk : Disk) (path : Path) : Except FileFault Bool :=
  (fun tree? => tree?.any FileTree.isDirectory) <$> disk.find? path

def read (disk : Disk) (path : Path) : Except FileFault Bytes :=
  match disk.find path with
  | .ok (.file content) => .ok content
  | .ok (.directory _) => .error ⟨.isDirectory, path⟩
  | .error kind => .error ⟨kind, path⟩

/-- The paths of all files in the directory to which a path leads, seen from the directory around
it, in code point order. -/
def list (disk : Disk) (path : Path) : Except FileFault (List Text) :=
  (fun tree? =>
    match tree? with
    | some (.directory entries) =>
        Text.sort ((FileTree.entryFiles entries).map fun file =>
          Text.join "/" (path.parts.getLast?.toList ++ file.1))
    | _ => []) <$> disk.find? path

/-- The path without segments for parent directories, seen from the root. -/
def resolve (disk : Disk) (path : Path) : Except FileFault Path :=
  if path.text.contains '\x00' then .error ⟨.nullCharacter, path⟩
  else
    .ok ⟨.root, path.parts.foldl
      (fun place name => if name = parentName then place.dropLast else place ++ [name])
      (disk.start path)⟩

end Disk

end DartRoutes
