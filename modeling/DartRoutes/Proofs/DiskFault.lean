import DartRoutes.Proofs.DiskFrame

/-!
# Faults of a disk

A disk that is asked for a path of reasonable names never fails to answer whether there is anything
at the path, and what goes wrong when a file is written there is a fault of the disk.
-/

namespace DartRoutes

open Effect

namespace Disk

/-- A path of names that a directory can hold, of a length that the disk can follow. -/
structure Admits (path : Path) : Prop where
  clean : ∀ name ∈ path.parts, '\x00' ∉ name
  short : ∀ name ∈ path.parts, isTooLong name = false
  bounded : (Utf8.encode path.text).length < 4096

instance (path : Path) : Decidable (Admits path) :=
  decidable_of_iff ((∀ name ∈ path.parts, '\x00' ∉ name) ∧
    (∀ name ∈ path.parts, isTooLong name = false) ∧ (Utf8.encode path.text).length < 4096)
    ⟨fun ⟨clean, short, bounded⟩ => ⟨clean, short, bounded⟩,
      fun admits => ⟨admits.clean, admits.short, admits.bounded⟩⟩

theorem not_mem_join {character : Char} {separator : Text} {names : List Text}
    (apart : character ∉ separator) (clean : ∀ name ∈ names, character ∉ name) :
    character ∉ Text.join separator names := by
  rw [Text.join]
  induction names with
  | nil => simp
  | cons name names induction =>
      have first := clean name List.mem_cons_self
      have others := induction fun other member => clean other (List.mem_cons_of_mem name member)
      cases names with
      | nil => simpa using first
      | cons next names =>
          rw [List.intercalate_cons_cons, List.mem_append, List.mem_append]
          rintro ((member | member) | member)
          · exact first member
          · exact apart member
          · exact others member

theorem not_mem_text {path : Path} (clean : ∀ name ∈ path.parts, '\x00' ∉ name) :
    '\x00' ∉ path.text := by
  obtain ⟨anchor, parts⟩ := path
  have rooted : '\x00' ∉ anchor.text := by cases anchor <;> decide
  rw [Path.text]
  split
  · decide
  · rw [List.mem_append, not_or]
    exact ⟨rooted, not_mem_join (by decide) clean⟩

theorem checkPath_ne_nullCharacter {path : Path} (clean : ∀ name ∈ path.parts, '\x00' ∉ name) :
    checkPath path ≠ .error .nullCharacter := by
  have absent : path.text.contains '\x00' = false := by
    simpa using not_mem_text clean
  rw [checkPath, absent]
  simp only [Bool.false_eq_true, if_false]
  split <;> simp

theorem Admits.checkPath {path : Path} (admits : Admits path) : checkPath path = .ok () := by
  have absent : path.text.contains '\x00' = false := by
    simpa using not_mem_text admits.clean
  have bounded : ¬ 4096 ≤ (Utf8.encode path.text).length := Nat.not_le.mpr admits.bounded
  rw [Disk.checkPath, absent, if_neg bounded]
  rfl

theorem slot_eq_error {tree : FileTree} {place : Place} {name : Text} {kind : FileFault.Kind}
    (refused : slot tree place name = .error kind) :
    kind = .missing ∨ kind = .notDirectory ∨ kind = .nameTooLong ∧ isTooLong name = true := by
  rw [slot] at refused
  split at refused
  · cases refused
    exact .inl rfl
  · cases refused
    exact .inr (.inl rfl)
  · split at refused
    · cases refused
    · split at refused
      · cases refused
        exact .inr (.inr ⟨rfl, ‹_›⟩)
      · cases refused

/-- A path is refused on the way only if a name is missing, is no directory, or is too long. -/
theorem foldlM_step_eq_error {tree : FileTree} {place : Place} {names : List Text}
    {kind : FileFault.Kind} (refused : names.foldlM (step tree) place = .error kind) :
    kind = .missing ∨ kind = .notDirectory ∨
      kind = .nameTooLong ∧ ∃ name ∈ names, isTooLong name = true := by
  induction names generalizing place with
  | nil => cases refused
  | cons name names induction =>
      rw [List.foldlM_cons] at refused
      cases stepped : step tree place name with
      | ok next =>
          simp only [stepped, bind, Except.bind] at refused
          rcases induction refused with missing | noDirectory | ⟨same, other, member, long⟩
          · exact .inl missing
          · exact .inr (.inl noDirectory)
          · exact .inr (.inr ⟨same, other, List.mem_cons_of_mem name member, long⟩)
      | error other =>
          simp only [stepped, bind, Except.bind, Except.error.injEq] at refused
          subst refused
          rw [step] at stepped
          cases found : slot tree place name with
          | error kind =>
              simp only [found, bind, Except.bind, Except.error.injEq] at stepped
              subst stepped
              rcases slot_eq_error found with missing | noDirectory | ⟨same, long⟩
              · exact .inl missing
              · exact .inr (.inl noDirectory)
              · exact .inr (.inr ⟨same, name, List.mem_cons_self, long⟩)
          | ok next? =>
              cases next? with
              | none => simp [found, bind, Except.bind, pure, Except.pure] at stepped
              | some next =>
                  simp only [found, bind, Except.bind] at stepped
                  split at stepped
                  · cases stepped
                  · cases stepped
                    exact .inl rfl

theorem foldlM_step_ne_nullCharacter {tree : FileTree} {place : Place} {names : List Text} :
    names.foldlM (step tree) place ≠ .error .nullCharacter := by
  intro refused
  rcases foldlM_step_eq_error refused with missing | noDirectory | ⟨long, _⟩
  · cases missing
  · cases noDirectory
  · cases long

theorem target_ne_nullCharacter {disk : Disk} {path : Path}
    (clean : ∀ name ∈ path.parts, '\x00' ∉ name) :
    disk.target path ≠ .error .nullCharacter := by
  intro refused
  rw [target] at refused
  cases checked : Disk.checkPath path with
  | error kind =>
      simp only [checked, bind, Except.bind, Except.error.injEq] at refused
      exact checkPath_ne_nullCharacter clean (refused ▸ checked)
  | ok _ =>
      simp only [checked, bind, Except.bind] at refused
      split at refused
      · cases refused
      · split at refused
        · rename_i kind followed
          cases refused
          exact foldlM_step_ne_nullCharacter followed
        · rcases slot_eq_error refused with missing | noDirectory | ⟨long, _⟩
          · cases missing
          · cases noDirectory
          · cases long

theorem find?_eq_error {disk : Disk} {path : Path} {fault : FileFault}
    (refused : disk.find? path = .error fault) : fault = ⟨.nameTooLong, path⟩ := by
  rw [find?] at refused
  split at refused
  · cases refused
  · cases refused
    rfl
  · cases refused

theorem Admits.find?_eq_ok {path : Path} (admits : Admits path) (disk : Disk) :
    ∃ tree?, disk.find? path = .ok tree? := by
  have notLong : disk.find path ≠ .error .nameTooLong := by
    intro refused
    simp only [find, locate, admits.checkPath, bind, Except.bind] at refused
    split at refused
    · rename_i kind followed
      cases refused
      rcases foldlM_step_eq_error followed with missing | noDirectory | ⟨_, name, member, long⟩
      · cases missing
      · cases noDirectory
      · rw [admits.short name member] at long
        cases long
    · split at refused <;> cases refused
  rw [find?]
  split
  · exact ⟨_, rfl⟩
  · rename_i refused
    exact absurd refused notLong
  · exact ⟨_, rfl⟩

theorem Admits.pathExists_eq_ok {path : Path} (admits : Admits path) (disk : Disk) :
    ∃ isThere, disk.pathExists path = .ok isThere := by
  obtain ⟨tree?, found⟩ := admits.find?_eq_ok disk
  exact ⟨tree?.isSome, by rw [pathExists, found]; rfl⟩

/-- The fault is one of the disk and not of the path. -/
def IsOfDisk (fault : FileFault) : Prop :=
  fault.kind ≠ .nullCharacter

theorem IsOfDisk.isFromDisk {fault : FileFault} (ofDisk : IsOfDisk fault) :
    fault.isFromDisk = true := by
  obtain ⟨kind, path⟩ := fault
  cases kind with
  | nullCharacter => exact absurd rfl ofDisk
  | _ => rfl

theorem ask_confined {α : Type} {question : Disk → Except FileFault α}
    {allowed : FileFault → Prop}
    (faults : ∀ disk fault, question disk = .error fault → allowed fault) :
    Confined allowed (ask question) := by
  refine Confined.get.bind fun disk => ?_
  cases asked : question disk with
  | ok answer => exact .pure answer
  | error fault => exact .throw (faults disk fault asked)

theorem targetOf_confined {path : Path} (clean : ∀ name ∈ path.parts, '\x00' ∉ name) :
    Confined IsOfDisk (targetOf path) := by
  refine ask_confined fun disk fault refused => ?_
  split at refused
  · cases refused
  · rename_i kind targeted
    cases refused
    rintro rfl
    exact target_ne_nullCharacter clean targeted

theorem makeDirectory_confined {path : Path} (clean : ∀ name ∈ path.parts, '\x00' ∉ name) :
    Confined IsOfDisk (makeDirectory path) := by
  refine (targetOf_confined clean).bind fun place? => ?_
  cases place? with
  | none => exact .throw nofun
  | some place =>
      refine Confined.get.bind fun disk => ?_
      split
      · exact .throw nofun
      · exact .modify _

theorem writeFile_confined {path : Path} (content : Bytes)
    (clean : ∀ name ∈ path.parts, '\x00' ∉ name) :
    Confined IsOfDisk (writeFile path content) := by
  refine (targetOf_confined clean).bind fun place? => ?_
  cases place? with
  | none => exact .throw nofun
  | some place =>
      refine Confined.get.bind fun disk => ?_
      split
      · exact .throw nofun
      · exact .modify _

theorem isDirectory_confined (path : Path) : Confined IsOfDisk (ask (·.isDirectory path)) := by
  refine ask_confined fun disk fault refused => ?_
  cases found : disk.find? path with
  | ok tree? => simp [isDirectory, found, Functor.map, Except.map] at refused
  | error other =>
      simp only [isDirectory, found, Functor.map, Except.map, Except.error.injEq] at refused
      rw [← refused, find?_eq_error found]
      exact nofun

theorem unlessDirectory_confined (path : Path) {fault : FileFault} (ofDisk : IsOfDisk fault) :
    Confined IsOfDisk (unlessDirectory path fault) := by
  rw [unlessDirectory, if_neg ofDisk]
  refine (isDirectory_confined path).bind fun isDirectory => ?_
  cases isDirectory with
  | true => exact .pure ()
  | false => exact .throw ofDisk

theorem makeDirectoriesWithin_confined (depth : Nat) {path : Path}
    (clean : ∀ name ∈ path.parts, '\x00' ∉ name) :
    Confined IsOfDisk (makeDirectoriesWithin depth path) := by
  induction depth generalizing path with
  | zero =>
      refine (makeDirectory_confined clean).tryCatch fun fault ofDisk => ?_
      exact unlessDirectory_confined path ofDisk
  | succ depth induction =>
      refine (makeDirectory_confined clean).tryCatch fun fault ofDisk => ?_
      split
      · have cleanParent : ∀ name ∈ path.parent.parts, '\x00' ∉ name := fun name member =>
          clean name (List.dropLast_subset path.parts member)
        refine (induction cleanParent).bind fun _ => ?_
        refine (makeDirectory_confined clean).tryCatch fun fault ofDisk => ?_
        exact unlessDirectory_confined path ofDisk
      · exact unlessDirectory_confined path ofDisk

/-- What goes wrong when a file is written at a path without NUL characters is a fault of the
disk. -/
theorem writeDeepFile_confined {path : Path} (content : Bytes)
    (clean : ∀ name ∈ path.parts, '\x00' ∉ name) :
    Confined IsOfDisk (writeDeepFile path content) := by
  have cleanParent : ∀ name ∈ path.parent.parts, '\x00' ∉ name := fun name member =>
    clean name (List.dropLast_subset path.parts member)
  refine (makeDirectoriesWithin_confined _ cleanParent).bind fun _ => ?_
  exact writeFile_confined content clean

end Disk

end DartRoutes
