import DartRoutes.Proofs.DiskFrame
import Mathlib.Data.List.Nodup
import Mathlib.Data.List.Pairwise

/-!
# Files of a tree

A tree lists all files that are found in it. If its directories give every name to one entry, it
lists each of them once and no others. So all that the order of the entries can change is the order
of the list.
-/

namespace DartRoutes.FileTree

/-- Every directory of the tree gives a name to one entry only, and all names have a property. -/
inductive Named (property : Text → Prop) : FileTree → Prop where
  | file (content : Bytes) : Named property (.file content)
  | directory {entries : List (Text × FileTree)} :
      (entries.map Prod.fst).Nodup →
      (∀ entry ∈ entries, property entry.1) →
      (∀ entry ∈ entries, Named property entry.2) →
      Named property (.directory entries)

theorem entryFiles_eq_flatMap (entries : List (Text × FileTree)) :
    entryFiles entries =
      entries.flatMap fun entry => (files entry.2).map fun file => (entry.1 :: file.1, file.2) := by
  induction entries with
  | nil => rw [entryFiles, List.flatMap_nil]
  | cons entry entries induction =>
      obtain ⟨name, tree⟩ := entry
      rw [entryFiles, List.flatMap_cons, induction]

theorem mem_entryFiles_iff {entries : List (Text × FileTree)} {place : Place} {content : Bytes} :
    (place, content) ∈ entryFiles entries ↔
      ∃ entry ∈ entries, ∃ below, (below, content) ∈ files entry.2 ∧ place = entry.1 :: below := by
  rw [entryFiles_eq_flatMap, List.mem_flatMap]
  refine exists_congr fun entry => and_congr_right fun _ => ?_
  rw [List.mem_map]
  constructor
  · rintro ⟨⟨below, other⟩, member, same⟩
    cases same
    exact ⟨below, member, rfl⟩
  · rintro ⟨below, member, rfl⟩
    exact ⟨(below, content), member, rfl⟩

theorem mem_of_lookup {name : Text} {below : FileTree} {entries : List (Text × FileTree)}
    (found : entries.lookup name = some below) : (name, below) ∈ entries := by
  obtain ⟨front, rest, split, _⟩ := List.lookup_eq_some_iff.mp found
  rw [split]
  exact List.mem_append_right _ List.mem_cons_self

/-- With distinct names, an entry is the one that is found under its name. -/
theorem mem_iff_lookup {entries : List (Text × FileTree)}
    (distinct : (entries.map Prod.fst).Nodup) {name : Text} {tree : FileTree} :
    (name, tree) ∈ entries ↔ entries.lookup name = some tree := by
  induction entries with
  | nil => simp
  | cons entry entries induction =>
      obtain ⟨key, below⟩ := entry
      rw [List.map_cons, List.nodup_cons] at distinct
      rw [List.mem_cons, List.lookup_cons, induction distinct.2, Prod.mk.injEq]
      by_cases same : name = key
      · subst same
        have absent : entries.lookup name ≠ some tree := by
          intro found
          have member := (induction distinct.2).mpr found
          exact distinct.1 (List.mem_map.mpr ⟨(name, tree), member, rfl⟩)
        simp [absent, eq_comm]
      · simp [same, beq_false_of_ne same]

/-- Every file that is found in a tree is among the files of the tree. -/
theorem mem_files_of_isSome {place : Place} {tree : FileTree}
    (isFile : (tree.contentAt? place).isSome) : place ∈ tree.files.map Prod.fst := by
  induction place generalizing tree with
  | nil =>
      cases tree with
      | file content => exact List.mem_singleton.mpr rfl
      | directory entries => cases isFile
  | cons name place induction =>
      cases tree with
      | file content => cases isFile
      | directory entries =>
          rw [contentAt?_cons] at isFile
          cases found : entries.lookup name with
          | none =>
              rw [found] at isFile
              cases isFile
          | some below =>
              rw [found, Option.bind_some] at isFile
              obtain ⟨⟨other, content⟩, member, rfl⟩ := List.mem_map.mp (induction isFile)
              have inside := mem_entryFiles_iff.mpr ⟨_, mem_of_lookup found, other, member, rfl⟩
              exact List.mem_map.mpr ⟨(name :: other, content), inside, rfl⟩

section Named

variable {property : Text → Prop} {tree : FileTree}

theorem Named.imp {other : Text → Prop} (implies : ∀ name, property name → other name)
    (named : Named property tree) : Named other tree := by
  induction named with
  | file content => exact .file content
  | directory distinct names _ induction =>
      exact .directory distinct (fun entry member => implies _ (names entry member)) induction

/-- The files that a tree lists are those that are found in it. -/
theorem Named.mem_files_iff (named : Named property tree) {place : Place} {content : Bytes} :
    (place, content) ∈ files tree ↔ tree.contentAt? place = some content := by
  induction named generalizing place with
  | file other =>
      rw [files, List.mem_singleton, Prod.mk.injEq]
      cases place with
      | nil => simp [contentAt?, at?, content?, eq_comm]
      | cons name place => simp [contentAt?_file_cons]
  | @directory entries distinct _ _ induction =>
      rw [files, mem_entryFiles_iff]
      constructor
      · rintro ⟨⟨name, below⟩, member, rest, inside, rfl⟩
        rw [contentAt?_cons, (mem_iff_lookup distinct).mp member]
        exact (induction _ member).mp inside
      · intro found
        cases place with
        | nil => cases found
        | cons name place =>
            rw [contentAt?_cons, Option.bind_eq_some_iff] at found
            obtain ⟨below, looked, found⟩ := found
            have member := (mem_iff_lookup distinct).mpr looked
            exact ⟨(name, below), member, place, (induction _ member).mpr found, rfl⟩

theorem Named.files_nodup (named : Named property tree) :
    ((files tree).map Prod.fst).Nodup := by
  induction named with
  | file content => exact List.nodup_singleton _
  | @directory entries distinct _ _ induction =>
      rw [files, entryFiles_eq_flatMap, List.map_flatMap, List.nodup_flatMap]
      constructor
      · intro entry member
        have places := (induction entry member).map (List.cons_injective (a := entry.1))
        rwa [List.map_map] at places ⊢
      · -- Places of different entries start with different names.
        rw [List.nodup_iff_pairwise_ne, List.pairwise_map] at distinct
        refine distinct.imp fun {left right} different => ?_
        intro place inLeft inRight
        obtain ⟨file, fileMember, rfl⟩ := List.mem_map.mp inLeft
        obtain ⟨_, _, rfl⟩ := List.mem_map.mp fileMember
        obtain ⟨other, otherMember, same⟩ := List.mem_map.mp inRight
        obtain ⟨_, _, rfl⟩ := List.mem_map.mp otherMember
        exact different (List.cons.inj same).1.symm

/-- All names on the way to a file have the property of the tree. -/
theorem Named.forall_mem_place (named : Named property tree) {place : Place}
    (isFile : (tree.contentAt? place).isSome) : ∀ name ∈ place, property name := by
  induction named generalizing place with
  | file content =>
      cases place with
      | nil => exact List.forall_mem_nil _
      | cons name place => cases isFile
  | @directory entries distinct names _ induction =>
      cases place with
      | nil => cases isFile
      | cons name place =>
          rw [contentAt?_cons] at isFile
          cases looked : entries.lookup name with
          | none =>
              rw [looked] at isFile
              cases isFile
          | some below =>
              rw [looked] at isFile
              have member := (mem_iff_lookup distinct).mpr looked
              exact List.forall_mem_cons.mpr ⟨names _ member, induction _ member isFile⟩

end Named

/-- In another order of its entries a directory has the same files. -/
theorem contentAt?_of_perm {entries others : List (Text × FileTree)} (perm : entries.Perm others)
    (distinct : (entries.map Prod.fst).Nodup) (place : Place) :
    (directory others).contentAt? place = (directory entries).contentAt? place := by
  have distinctOthers := (perm.map Prod.fst).nodup_iff.mp distinct
  cases place with
  | nil => rfl
  | cons name place =>
      have sameLookup : others.lookup name = entries.lookup name := by
        apply Option.ext
        intro tree
        rw [← mem_iff_lookup distinct, ← mem_iff_lookup distinctOthers]
        exact perm.mem_iff.symm
      rw [contentAt?_cons, contentAt?_cons, sameLookup]

end DartRoutes.FileTree
