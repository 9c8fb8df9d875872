import DartRoutes.Proofs.DiskFault
import DartRoutes.Proofs.DiskParent

/-!
# Disks that grow

A disk grows if what is there stays there, a directory as a directory and a file as a file. All
changes but deleting let a disk grow. On a larger disk a path leads to the same place, and what has
been in its way still is; only what was missing can have come.
-/

namespace DartRoutes

open Effect

namespace FileTree

/-- Is there a directory at a place, or a file, or nothing? -/
def kindAt? (place : Place) (tree : FileTree) : Option Bool :=
  (tree.at? place).map isDirectory

theorem isSome_kindAt? (place : Place) (tree : FileTree) :
    (tree.kindAt? place).isSome = (tree.at? place).isSome :=
  Option.isSome_map

theorem kindAt?_eq_true_iff {place : Place} {tree : FileTree} :
    tree.kindAt? place = some true ↔ ∃ entries, tree.at? place = some (.directory entries) := by
  rw [kindAt?, Option.map_eq_some_iff]
  constructor
  · rintro ⟨below, found, isDirectory⟩
    cases below with
    | file content => cases isDirectory
    | directory entries => exact ⟨entries, found⟩
  · rintro ⟨entries, found⟩
    exact ⟨_, found, rfl⟩

theorem kindAt?_eq_false_iff {place : Place} {tree : FileTree} :
    tree.kindAt? place = some false ↔ ∃ content, tree.at? place = some (.file content) := by
  rw [kindAt?, Option.map_eq_some_iff]
  constructor
  · rintro ⟨below, found, isFile⟩
    cases below with
    | file content => exact ⟨content, found⟩
    | directory entries => cases isFile
  · rintro ⟨content, found⟩
    exact ⟨_, found, rfl⟩

theorem contentAt?_eq_some_iff {place : Place} {tree : FileTree} {content : Bytes} :
    tree.contentAt? place = some content ↔ tree.at? place = some (.file content) := by
  rw [contentAt?, Option.bind_eq_some_iff]
  constructor
  · rintro ⟨below, found, isFile⟩
    cases below with
    | file other =>
        cases isFile
        exact found
    | directory entries => cases isFile
  · intro found
    exact ⟨_, found, rfl⟩

theorem kindAt?_cons (name : Text) (place : Place) (entries : List (Text × FileTree)) :
    (directory entries).kindAt? (name :: place) =
      (entries.lookup name).bind (kindAt? place) := by
  cases found : entries.lookup name with
  | none => simp [kindAt?, at?, entry?, found]
  | some below => simp [kindAt?, at?, entry?, found]

/-- The place above a directory is a directory, and the root is the place above itself. -/
theorem kindAt?_dropLast {place : Place} {tree : FileTree}
    (found : tree.kindAt? place = some true) : tree.kindAt? place.dropLast = some true := by
  rcases List.eq_nil_or_concat place with rfl | ⟨front, name, rfl⟩
  · exact found
  · rw [List.concat_eq_append] at found ⊢
    rw [List.dropLast_concat, kindAt?_eq_true_iff]
    have isThere : (tree.at? (front ++ name :: [])).isSome := by
      rw [← isSome_kindAt?, found]
      rfl
    exact at?_eq_directory_of_isSome_append isThere

/-- What is put where nothing was, or a file where a file was, leaves everything of its kind. -/
theorem kindAt?_put {place other : Place} {tree new : FileTree} {kind : Bool}
    (same : ∀ old, tree.kindAt? place = some old → old = false ∧ new.isDirectory = false)
    (found : tree.kindAt? other = some kind) :
    (tree.put place new).kindAt? other = some kind := by
  induction place generalizing tree other with
  | nil =>
      obtain ⟨isFile, isNewFile⟩ := same tree.isDirectory rfl
      cases tree with
      | directory entries => cases isFile
      | file content =>
          cases other with
          | nil =>
              cases found
              exact congrArg some isNewFile
          | cons name rest => cases found
  | cons name place induction =>
      cases tree with
      | file content => exact found
      | directory entries =>
          cases other with
          | nil => exact found
          | cons head rest =>
              rw [put, kindAt?_cons, lookup_setEntry]
              rw [kindAt?_cons] at found
              by_cases here : head = name
              · subst here
                rw [if_pos rfl, Option.bind_some]
                cases below : entries.lookup head with
                | none => simp [below] at found
                | some tree =>
                    rw [below, Option.bind_some] at found
                    refine induction (fun old wasThere => same old ?_) found
                    rw [kindAt?_cons, below, Option.bind_some]
                    exact wasThere
              · rw [if_neg here]
                exact found

/-- Putting a tree at a place changes nothing at a place that is neither above nor below it. -/
theorem at?_put_of_apart {place other : Place} (new tree : FileTree) (above : ¬ place <+: other)
    (below : ¬ other <+: place) : (tree.put place new).at? other = tree.at? other := by
  induction place generalizing tree other with
  | nil => exact absurd List.nil_prefix above
  | cons name place induction =>
      cases tree with
      | file content => rfl
      | directory entries =>
          cases other with
          | nil => exact absurd List.nil_prefix below
          | cons head rest =>
              rw [put, at?, at?, entry?, entry?, lookup_setEntry]
              by_cases same : head = name
              · subst same
                rw [if_pos rfl, Option.bind_some]
                rw [List.cons_prefix_cons, not_and] at above below
                rw [induction _ (above rfl) (below rfl)]
                cases entries.lookup head with
                | some tree => rfl
                | none =>
                    cases rest with
                    | nil => exact absurd List.nil_prefix (below rfl)
                    | cons next rest => rfl
              · rw [if_neg same]

theorem put_eq_self {place : Place} {tree new : FileTree} (found : tree.at? place = some new) :
    tree.put place new = tree := by
  induction place generalizing tree with
  | nil =>
      cases found
      rfl
  | cons name place induction =>
      cases tree with
      | file content => rfl
      | directory entries =>
          rw [at?, entry?, Option.bind_eq_some_iff] at found
          obtain ⟨below, looked, found⟩ := found
          rw [put, looked, Option.getD_some, induction found]
          congr 1
          clear found induction
          induction entries with
          | nil => cases looked
          | cons entry entries induction =>
              obtain ⟨key, tree⟩ := entry
              rw [setEntry]
              by_cases here : key = name
              · subst here
                rw [List.lookup_cons_self] at looked
                cases looked
                rw [if_pos rfl]
              · rw [if_neg here]
                rw [List.lookup_cons, beq_false_of_ne (Ne.symm here)] at looked
                rw [induction looked]

end FileTree

namespace Disk

/-- What is on the first disk is on the second one, too, and of the same kind. -/
structure Grows (before after : Disk) : Prop where
  directory : after.directory = before.directory
  kept : ∀ place kind, before.tree.kindAt? place = some kind →
    after.tree.kindAt? place = some kind

instance : Std.Refl Grows where
  refl _ := ⟨rfl, fun _ _ => id⟩

instance : IsTrans Disk Grows where
  trans _ _ _ first second :=
    ⟨second.directory.trans first.directory, fun place kind found =>
      second.kept place kind (first.kept place kind found)⟩

theorem Grows.start_eq {before after : Disk} (grows : Grows before after) (path : Path) :
    after.start path = before.start path := by
  rw [start, start, grows.directory]

theorem makeDirectory_grows (path : Path) : Keeps Grows (makeDirectory path) := by
  intro disk
  rw [after, makeDirectory_run]
  cases targeted : disk.target path with
  | error kind => exact Std.Refl.refl disk
  | ok place? =>
      cases place? with
      | none => exact Std.Refl.refl disk
      | some place =>
          cases found : disk.tree.at? place with
          | some tree => simpa [found] using Std.Refl.refl (r := Grows) disk
          | none =>
              simp only [found, Option.isSome_none, Bool.false_eq_true, if_false]
              refine ⟨rfl, fun other kind => FileTree.kindAt?_put fun old wasThere => ?_⟩
              rw [FileTree.kindAt?, found] at wasThere
              cases wasThere

theorem writeFile_grows (path : Path) (content : Bytes) : Keeps Grows (writeFile path content) := by
  intro disk
  rw [after, writeFile_run]
  cases targeted : disk.target path with
  | error kind => exact Std.Refl.refl disk
  | ok place? =>
      cases place? with
      | none => exact Std.Refl.refl disk
      | some place =>
          cases blocked : (disk.tree.at? place).any FileTree.isDirectory with
          | true => simpa [blocked] using Std.Refl.refl (r := Grows) disk
          | false =>
              simp only [blocked, Bool.false_eq_true, if_false]
              refine ⟨rfl, fun other kind => FileTree.kindAt?_put fun old wasThere => ⟨?_, rfl⟩⟩
              rw [FileTree.kindAt?, Option.map_eq_some_iff] at wasThere
              obtain ⟨tree, found, rfl⟩ := wasThere
              rw [found, Option.any_some] at blocked
              exact blocked

theorem writeDeepFile_grows (path : Path) (content : Bytes) :
    Keeps Grows (writeDeepFile path content) :=
  (makeDirectories_keeps makeDirectory_grows path.parent).bind fun _ => writeFile_grows path content

theorem slot_eq (tree : FileTree) (place : Place) (name : Text) :
    slot tree place name =
      match tree.kindAt? place with
      | none => .error .missing
      | some false => .error .notDirectory
      | some true =>
          if name = parentName then .ok none
          else if isTooLong name then .error .nameTooLong
          else .ok (some (place ++ [name])) := by
  rw [slot, FileTree.kindAt?]
  cases tree.at? place with
  | none => rfl
  | some tree => cases tree <;> rfl

section Larger

variable {before after : FileTree}
  (larger : ∀ place kind, before.kindAt? place = some kind → after.kindAt? place = some kind)

include larger

theorem slot_of_larger {place : Place} {name : Text}
    (settled : slot before place name ≠ .error .missing) :
    slot after place name = slot before place name := by
  rw [slot_eq] at settled
  rw [slot_eq, slot_eq]
  cases found : before.kindAt? place with
  | none => rw [found] at settled; exact absurd rfl settled
  | some kind => rw [larger place kind found]

theorem step_of_larger {place : Place} {name : Text}
    (settled : step before place name ≠ .error .missing) :
    step after place name = step before place name := by
  have sameSlot : slot after place name = slot before place name := by
    refine slot_of_larger larger fun missing => settled ?_
    rw [step, missing]
    rfl
  rw [step, step, sameSlot]
  rw [step] at settled
  cases found : slot before place name with
  | error kind => rfl
  | ok next? =>
      cases next? with
      | none => rfl
      | some next =>
          rw [found] at settled
          simp only [bind, Except.bind] at settled ⊢
          cases isThere : (before.at? next).isSome with
          | false => rw [isThere] at settled; exact absurd rfl settled
          | true =>
              rw [← FileTree.isSome_kindAt?, Option.isSome_iff_exists] at isThere
              obtain ⟨kind, found⟩ := isThere
              rw [← FileTree.isSome_kindAt?, larger next kind found]
              rfl

/-- Names lead through a larger tree as through the smaller one, unless something was missing. -/
theorem foldlM_step_of_larger {place : Place} {names : List Text}
    (settled : names.foldlM (step before) place ≠ .error .missing) :
    names.foldlM (step after) place = names.foldlM (step before) place := by
  induction names generalizing place with
  | nil => rfl
  | cons name names induction =>
      rw [List.foldlM_cons] at settled
      rw [List.foldlM_cons, List.foldlM_cons]
      have sameStep : step after place name = step before place name := by
        refine step_of_larger larger fun missing => settled ?_
        rw [missing]
        rfl
      rw [sameStep]
      cases stepped : step before place name with
      | error kind => rfl
      | ok next =>
          rw [stepped] at settled
          exact induction settled

end Larger

theorem Grows.locate_eq {before after : Disk} (grows : Grows before after) {path : Path}
    (settled : before.locate path ≠ .error .missing) :
    after.locate path = before.locate path := by
  rw [locate] at settled
  rw [locate, locate, grows.start_eq]
  cases checked : checkPath path with
  | error kind => rfl
  | ok _ =>
      rw [checked] at settled
      exact foldlM_step_of_larger grows.kept settled

theorem Grows.target_eq {before after : Disk} (grows : Grows before after) {path : Path}
    (settled : before.target path ≠ .error .missing) :
    after.target path = before.target path := by
  cases checked : checkPath path with
  | error kind => rw [target_of_refused checked, target_of_refused checked]
  | ok _ =>
      rcases path.parts_eq_nil_or_child with empty | ⟨name, isChild⟩
      · rw [target_of_parts_eq_nil checked empty, target_of_parts_eq_nil checked empty]
      · generalize path.parent = parent at isChild
        subst isChild
        rw [target_child checked] at settled
        have sameParent : after.locate parent = before.locate parent := by
          refine grows.locate_eq fun missing => settled ?_
          rw [missing]
          rfl
        rw [target_child checked, target_child checked, sameParent]
        cases located : before.locate parent with
        | error kind => rfl
        | ok place =>
            rw [located] at settled
            exact slot_of_larger grows.kept settled

theorem find_eq_ok_iff {disk : Disk} {path : Path} {tree : FileTree} :
    disk.find path = .ok tree ↔
      ∃ place, disk.locate path = .ok place ∧ disk.tree.at? place = some tree := by
  rw [find]
  cases located : disk.locate path with
  | error kind => simp [bind, Except.bind]
  | ok place =>
      simp only [bind, Except.bind]
      cases found : disk.tree.at? place with
      | none => simp [throw, throwThe, MonadExceptOf.throw, found]
      | some other => simp [pure, Except.pure, found]

theorem isDirectory_eq_true_iff {disk : Disk} {path : Path} :
    disk.isDirectory path = .ok true ↔
      ∃ place, disk.locate path = .ok place ∧ disk.tree.kindAt? place = some true := by
  have answers : disk.isDirectory path = .ok true ↔
      ∃ tree, disk.find path = .ok tree ∧ tree.isDirectory = true := by
    rw [isDirectory, find?]
    split <;> simp_all [Functor.map, Except.map]
  simp only [answers, find_eq_ok_iff, FileTree.kindAt?, Option.map_eq_some_iff]
  constructor
  · rintro ⟨tree, ⟨place, located, found⟩, isDirectory⟩
    exact ⟨place, located, tree, found, isDirectory⟩
  · rintro ⟨place, located, tree, found, isDirectory⟩
    exact ⟨tree, ⟨place, located, found⟩, isDirectory⟩

theorem pathExists_eq_true_iff {disk : Disk} {path : Path} :
    disk.pathExists path = .ok true ↔
      ∃ place kind, disk.locate path = .ok place ∧ disk.tree.kindAt? place = some kind := by
  have answers : disk.pathExists path = .ok true ↔ ∃ tree, disk.find path = .ok tree := by
    rw [pathExists, find?]
    split <;> simp_all [Functor.map, Except.map]
  simp only [answers, find_eq_ok_iff, FileTree.kindAt?, Option.map_eq_some_iff]
  constructor
  · rintro ⟨tree, place, located, found⟩
    exact ⟨place, _, located, tree, found, rfl⟩
  · rintro ⟨place, _, located, tree, found, -⟩
    exact ⟨tree, place, located, found⟩

theorem read_eq_ok_iff {disk : Disk} {path : Path} {content : Bytes} :
    disk.read path = .ok content ↔
      ∃ place, disk.locate path = .ok place ∧ disk.tree.contentAt? place = some content := by
  have answers : disk.read path = .ok content ↔ disk.find path = .ok (.file content) := by
    rw [read]
    split <;> simp_all
  simp only [answers, find_eq_ok_iff, FileTree.contentAt?_eq_some_iff]

/-- A name that can be that of something in a directory. -/
def IsPlain (name : Text) : Prop :=
  name ≠ parentName ∧ isTooLong name = false

theorem find_child {disk : Disk} {parent : Path} {place : Place} {name : Text}
    (located : disk.locate parent = .ok place) (isDirectory : disk.tree.kindAt? place = some true)
    (plain : IsPlain name) (checked : checkPath (parent.child name) = .ok ()) :
    disk.find (parent.child name) =
      match disk.tree.at? (place ++ [name]) with
      | some tree => .ok tree
      | none => .error .missing := by
  rw [find, locate_child checked, located]
  simp only [bind, Except.bind, step, slot_eq, isDirectory, if_neg plain.1, plain.2,
    Bool.false_eq_true, if_false]
  cases found : disk.tree.at? (place ++ [name]) with
  | none => rfl
  | some tree => simp [found, pure, Except.pure]

theorem locate_parent_of_locate_child {disk : Disk} {parent : Path} {place : Place} {name : Text}
    (located : disk.locate (parent.child name) = .ok place) (plain : name ≠ parentName) :
    ∃ front, disk.locate parent = .ok front ∧ disk.tree.kindAt? front = some true ∧
      place = front ++ [name] := by
  have checked : checkPath (parent.child name) = .ok () := by
    cases checked : checkPath (parent.child name) with
    | ok _ => rfl
    | error kind =>
        rw [locate_of_refused checked] at located
        cases located
  rw [locate_child checked] at located
  cases found : disk.locate parent with
  | error kind =>
      rw [found] at located
      cases located
  | ok front =>
      rw [found] at located
      have stepped : step disk.tree front name = .ok place := located
      refine ⟨front, rfl, ?_, ?_⟩
      · rw [step] at stepped
        rw [slot_eq] at stepped
        cases kind : disk.tree.kindAt? front with
        | none => 
            rw [kind] at stepped
            cases stepped
        | some isDirectory =>
            cases isDirectory with
            | true => rfl
            | false =>
                rw [kind] at stepped
                cases stepped
      · have entered := step_eq_enter stepped
        rw [entered, enter, if_neg plain]

theorem Grows.locate_of_ok {before after : Disk} (grows : Grows before after) {path : Path}
    {place : Place} (located : before.locate path = .ok place) : after.locate path = .ok place := by
  rw [grows.locate_eq (by rw [located]; nofun), located]

theorem Grows.target_of_ok {before after : Disk} (grows : Grows before after) {path : Path}
    {place? : Option Place} (targeted : before.target path = .ok place?) :
    after.target path = .ok place? := by
  rw [grows.target_eq (by rw [targeted]; nofun), targeted]

theorem Grows.isDirectory {before after : Disk} (grows : Grows before after) {path : Path}
    (isThere : before.isDirectory path = .ok true) : after.isDirectory path = .ok true := by
  obtain ⟨place, located, found⟩ := isDirectory_eq_true_iff.mp isThere
  exact isDirectory_eq_true_iff.mpr ⟨place, grows.locate_of_ok located, grows.kept _ _ found⟩

theorem Grows.pathExists {before after : Disk} (grows : Grows before after) {path : Path}
    (isThere : before.pathExists path = .ok true) : after.pathExists path = .ok true := by
  obtain ⟨place, kind, located, found⟩ := pathExists_eq_true_iff.mp isThere
  exact pathExists_eq_true_iff.mpr
    ⟨place, kind, grows.locate_of_ok located, grows.kept _ _ found⟩

end Disk

end DartRoutes
