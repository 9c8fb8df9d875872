import DartRoutes.Disk.Change
import DartRoutes.Proofs.DiskPlace
import DartRoutes.Proofs.Effect

/-!
# Files that a change leaves alone

Making directories changes no file, also when it fails half way. Writing a file changes this file
only, and no file if it fails.
-/

namespace DartRoutes

open Effect

namespace FileTree

theorem contentAt?_append (start further : Place) (tree : FileTree) :
    tree.contentAt? (start ++ further) = (tree.at? start).bind (contentAt? further) := by
  rw [contentAt?, at?_append, Option.bind_assoc]
  rfl

theorem contentAt?_file_cons (content : Bytes) (name : Text) (place : Place) :
    (file content).contentAt? (name :: place) = none :=
  rfl

theorem contentAt?_put_of_prefix {front : Place} {name : Text} {tree : FileTree}
    {entries : List (Text × FileTree)} (new : FileTree) (rest : Place)
    (isDirectory : tree.at? front = some (directory entries)) :
    (tree.put (front ++ [name]) new).contentAt? (front ++ [name] ++ rest) =
      new.contentAt? rest := by
  rw [contentAt?_append, at?_put_of_directory new isDirectory, Option.bind_some]

end FileTree

namespace Disk

/-- The disks have the same files and the same working directory. -/
structure SameFiles (before after : Disk) : Prop where
  directory : after.directory = before.directory
  content : ∀ place, after.tree.contentAt? place = before.tree.contentAt? place

/-- The file at a place has got a content, and all other files are the same. -/
structure Rewritten (place : Place) (content : Bytes) (before after : Disk) : Prop where
  directory : after.directory = before.directory
  written : after.tree.contentAt? place = some content
  elsewhere : ∀ other, other ≠ place →
    after.tree.contentAt? other = before.tree.contentAt? other

instance : Std.Refl SameFiles where
  refl _ := ⟨rfl, fun _ => rfl⟩

instance : IsTrans Disk SameFiles where
  trans _ _ _ first second :=
    ⟨second.directory.trans first.directory,
      fun place => (second.content place).trans (first.content place)⟩

theorem SameFiles.rewritten {place : Place} {content : Bytes} {before middle after : Disk}
    (same : SameFiles before middle) (rewritten : Rewritten place content middle after) :
    Rewritten place content before after where
  directory := rewritten.directory.trans same.directory
  written := rewritten.written
  elsewhere other apart := (rewritten.elsewhere other apart).trans (same.content other)

theorem ask_keeps {α : Type} {relation : Disk → Disk → Prop} [Std.Refl relation]
    [IsTrans Disk relation] (question : Disk → Except FileFault α) :
    Keeps relation (ask question) := by
  refine Keeps.get.bind fun disk => ?_
  cases question disk with
  | ok answer => exact .pure answer
  | error fault => exact .throw fault

theorem makeDirectory_run (path : Path) (disk : Disk) :
    makeDirectory path disk =
      match disk.target path with
      | .error kind => .error ⟨kind, path⟩ disk
      | .ok none => .error ⟨.present, path⟩ disk
      | .ok (some place) =>
          if (disk.tree.at? place).isSome then .error ⟨.present, path⟩ disk
          else .ok () { disk with tree := disk.tree.put place .empty } := by
  cases targeted : disk.target path with
  | error kind => simp [makeDirectory, targetOf, ask, targeted]
  | ok place? =>
      cases place? with
      | none => simp [makeDirectory, targetOf, ask, targeted]
      | some place =>
          cases present : (disk.tree.at? place).isSome <;>
            simp [makeDirectory, targetOf, ask, targeted, present, put]

theorem writeFile_run (path : Path) (content : Bytes) (disk : Disk) :
    writeFile path content disk =
      match disk.target path with
      | .error kind => .error ⟨kind, path⟩ disk
      | .ok none => .error ⟨.isDirectory, path⟩ disk
      | .ok (some place) =>
          if (disk.tree.at? place).any FileTree.isDirectory then .error ⟨.isDirectory, path⟩ disk
          else .ok () { disk with tree := disk.tree.put place (.file content) } := by
  cases targeted : disk.target path with
  | error kind => simp [writeFile, targetOf, ask, targeted]
  | ok place? =>
      cases place? with
      | none => simp [writeFile, targetOf, ask, targeted]
      | some place =>
          cases blocked : (disk.tree.at? place).any FileTree.isDirectory <;>
            simp [writeFile, targetOf, ask, targeted, blocked, put]

theorem sameFiles_put_empty {disk : Disk} {front : Place} {name : Text}
    {entries : List (Text × FileTree)}
    (isDirectory : disk.tree.at? front = some (.directory entries))
    (isFree : disk.tree.at? (front ++ [name]) = none) :
    SameFiles disk { disk with tree := disk.tree.put (front ++ [name]) .empty } where
  directory := rfl
  content other := by
    by_cases below : front ++ [name] <+: other
    · obtain ⟨rest, rfl⟩ := below
      rw [FileTree.contentAt?_put_of_prefix _ _ isDirectory, FileTree.contentAt?_empty,
        FileTree.contentAt?_append, isFree, Option.bind_none]
    · exact FileTree.contentAt?_put_of_not_prefix _ _ below

theorem rewritten_put_file {disk : Disk} {front : Place} {name : Text}
    {entries : List (Text × FileTree)} (content : Bytes)
    (isDirectory : disk.tree.at? front = some (.directory entries))
    (isFree : (disk.tree.at? (front ++ [name])).any FileTree.isDirectory = false) :
    Rewritten (front ++ [name]) content disk
      { disk with tree := disk.tree.put (front ++ [name]) (.file content) } where
  directory := rfl
  written := by
    rw [FileTree.contentAt?, FileTree.at?_put_of_directory _ isDirectory]
    rfl
  elsewhere other apart := by
    by_cases below : front ++ [name] <+: other
    · obtain ⟨rest, rfl⟩ := below
      cases rest with
      | nil => exact absurd (List.append_nil _) apart
      | cons head rest =>
          rw [FileTree.contentAt?_put_of_prefix _ _ isDirectory, FileTree.contentAt?_file_cons,
            FileTree.contentAt?_append]
          cases found : disk.tree.at? (front ++ [name]) with
          | none => rfl
          | some tree =>
              cases tree with
              | file old => rfl
              | directory others => simp [found, FileTree.isDirectory] at isFree
    · exact FileTree.contentAt?_put_of_not_prefix _ _ below

theorem makeDirectory_keeps (path : Path) : Keeps SameFiles (makeDirectory path) := by
  intro disk
  rw [after, makeDirectory_run]
  cases targeted : disk.target path with
  | error kind => exact Std.Refl.refl disk
  | ok place? =>
      cases place? with
      | none => exact Std.Refl.refl disk
      | some place =>
          obtain ⟨_, _, front, name, entries, rfl, isDirectory⟩ := target_eq_some targeted
          cases found : disk.tree.at? (front ++ [name]) with
          | none => simpa [found] using sameFiles_put_empty isDirectory found
          | some tree => simpa [found] using Std.Refl.refl (r := SameFiles) disk

theorem unlessDirectory_keeps {relation : Disk → Disk → Prop} [Std.Refl relation]
    [IsTrans Disk relation] (path : Path) (fault : FileFault) :
    Keeps relation (unlessDirectory path fault) := by
  rw [unlessDirectory]
  split
  · exact .throw fault
  · refine (ask_keeps _).bind fun isDirectory => ?_
    cases isDirectory with
    | true => exact .pure ()
    | false => exact .throw fault

theorem makeDirectoriesWithin_keeps {relation : Disk → Disk → Prop} [Std.Refl relation]
    [IsTrans Disk relation] (made : ∀ path, Keeps relation (makeDirectory path)) (depth : Nat)
    (path : Path) : Keeps relation (makeDirectoriesWithin depth path) := by
  induction depth generalizing path with
  | zero => exact (made path).tryCatch (unlessDirectory_keeps path)
  | succ depth induction =>
      refine (made path).tryCatch fun fault => ?_
      split
      · refine (induction path.parent).bind fun _ => ?_
        exact (made path).tryCatch (unlessDirectory_keeps path)
      · exact unlessDirectory_keeps path fault

theorem makeDirectories_keeps {relation : Disk → Disk → Prop} [Std.Refl relation]
    [IsTrans Disk relation] (made : ∀ path, Keeps relation (makeDirectory path)) (path : Path) :
    Keeps relation (makeDirectories path) :=
  makeDirectoriesWithin_keeps made path.parts.length path

theorem writeFile_of_ok {path : Path} {content : Bytes} {before later : Disk}
    (written : writeFile path content before = .ok () later) :
    checkPath path = .ok () ∧ Rewritten (before.placeOf path) content before later := by
  rw [writeFile_run] at written
  split at written
  · cases written
  · cases written
  · rename_i place targeted
    obtain ⟨same, checked, front, name, entries, rfl, isDirectory⟩ := target_eq_some targeted
    split at written
    · cases written
    · rename_i isFree
      cases written
      rw [← same]
      exact ⟨checked, rewritten_put_file content isDirectory (Bool.eq_false_iff.mpr isFree)⟩

theorem writeFile_of_error {path : Path} {content : Bytes} {before later : Disk}
    {fault : FileFault} (failed : writeFile path content before = .error fault later) :
    later = before := by
  rw [writeFile_run] at failed
  split at failed
  · cases failed
    rfl
  · cases failed
    rfl
  · split at failed <;> cases failed
    rfl

/-- A file that is written with its directories is the only file that changes. -/
theorem writeDeepFile_of_ok {path : Path} {content : Bytes} {before later : Disk}
    (written : writeDeepFile path content before = .ok () later) :
    checkPath path = .ok () ∧ Rewritten (before.placeOf path) content before later := by
  obtain ⟨_, middle, made, writtenFile⟩ := bind_eq_ok_iff.mp written
  have same := makeDirectories_keeps makeDirectory_keeps path.parent before
  rw [after_of_ok made] at same
  obtain ⟨checked, rewritten⟩ := writeFile_of_ok writtenFile
  rw [placeOf_of_directory_eq same.directory] at rewritten
  exact ⟨checked, same.rewritten rewritten⟩

theorem writeDeepFile_of_error {path : Path} {content : Bytes} {before later : Disk}
    {fault : FileFault} (failed : writeDeepFile path content before = .error fault later) :
    SameFiles before later := by
  have same := makeDirectories_keeps makeDirectory_keeps path.parent before
  rcases bind_eq_error_iff.mp failed with unmade | ⟨_, middle, made, unwritten⟩
  · rw [after_of_error unmade] at same
    exact same
  · rw [after_of_ok made, ← writeFile_of_error unwritten] at same
    exact same

/-- No file is written where there is a directory with a file in it. -/
theorem writeFile_eq_error_of_below {path : Path} (content : Bytes) {disk : Disk} {name : Text}
    {rest : Place} (below : (disk.tree.contentAt? (disk.placeOf path ++ name :: rest)).isSome) :
    ∃ fault later, writeFile path content disk = .error fault later := by
  rw [writeFile_run]
  split
  · exact ⟨_, _, rfl⟩
  · exact ⟨_, _, rfl⟩
  · rename_i place targeted
    have isThere := FileTree.isSome_at?_of_isSome_contentAt? below
    obtain ⟨entries, isDirectory⟩ := FileTree.at?_eq_directory_of_isSome_append isThere
    rw [(target_eq_some targeted).1, isDirectory]
    exact ⟨_, _, rfl⟩

theorem writeDeepFile_eq_error_of_below {path : Path} (content : Bytes) {disk : Disk} {name : Text}
    {rest : Place} (below : (disk.tree.contentAt? (disk.placeOf path ++ name :: rest)).isSome) :
    ∃ fault later, writeDeepFile path content disk = .error fault later := by
  have same := makeDirectories_keeps makeDirectory_keeps path.parent disk
  cases made : makeDirectories path.parent disk with
  | error fault later => exact ⟨fault, later, bind_of_error made⟩
  | ok _ middle =>
      rw [after_of_ok made] at same
      rw [← same.content, ← placeOf_of_directory_eq same.directory] at below
      obtain ⟨fault, later, failed⟩ := writeFile_eq_error_of_below content below
      exact ⟨fault, later, bind_eq_error_iff.mpr (.inr ⟨_, middle, made, failed⟩)⟩

/-- Is there a directory for a file at the path, and no directory in its place? -/
def isOpen (disk : Disk) (path : Path) : Bool :=
  match disk.target path with
  | .ok (some place) => !(disk.tree.at? place).any FileTree.isDirectory
  | _ => false

/-- A file can be written with every content if its directories can be made and its place is open
then. -/
theorem writeDeepFile_of_isOpen {path : Path} (content : Bytes) {disk middle : Disk}
    (made : makeDirectories path.parent disk = .ok () middle) (opened : middle.isOpen path = true) :
    ∃ later, writeDeepFile path content disk = .ok () later := by
  rw [isOpen] at opened
  split at opened
  · rename_i place targeted
    have isFree : (middle.tree.at? place).any FileTree.isDirectory = false := by
      simpa using opened
    have written : writeFile path content middle =
        .ok () { middle with tree := middle.tree.put place (.file content) } := by
      rw [writeFile_run, targeted]
      simp only [isFree, Bool.false_eq_true, if_false]
    exact ⟨_, (bind_of_ok made).trans written⟩
  · cases opened

end Disk

end DartRoutes
