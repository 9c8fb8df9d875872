import DartRoutes.Disk.Basic

/-!
# Places of paths

A path stands for a place whether there is something at the place or not. Following a path through
a tree ends at this place or is refused on the way. A disk can refuse a path although there is a
file at its place: every name on the way has to be there, also those that a parent segment drops.
-/

namespace DartRoutes

namespace FileTree

theorem isSome_at?_of_isSome_contentAt? {place : Place} {tree : FileTree}
    (isFile : (tree.contentAt? place).isSome) : (tree.at? place).isSome := by
  cases found : tree.at? place with
  | none => simp [contentAt?, found] at isFile
  | some below => rfl

theorem at?_eq_directory_of_isSome_append {front : Place} {name : Text} {rest : Place}
    {tree : FileTree} (isThere : (tree.at? (front ++ name :: rest)).isSome) :
    ∃ entries, tree.at? front = some (.directory entries) := by
  rw [at?_append] at isThere
  cases found : tree.at? front with
  | none => simp [found] at isThere
  | some below =>
      cases below with
      | file content => simp [found, at?, entry?] at isThere
      | directory entries => exact ⟨entries, rfl⟩

end FileTree

namespace Disk

/-- The place to which a name leads from a place. -/
def enter (place : Place) (name : Text) : Place :=
  if name = parentName then place.dropLast else place ++ [name]

/-- The place for which a path stands, whether there is something or not. -/
def placeOf (disk : Disk) (path : Path) : Place :=
  path.parts.foldl enter (disk.start path)

/-- The disk denies a path although there is a file at its place. -/
def Misleads (disk : Disk) (path : Path) : Prop :=
  disk.pathExists path = .ok false ∧ (disk.tree.contentAt? (disk.placeOf path)).isSome

theorem placeOf_of_directory_eq {before after : Disk} (same : after.directory = before.directory)
    (path : Path) : after.placeOf path = before.placeOf path := by
  simp [placeOf, start, same]

theorem slot_eq_some {tree : FileTree} {place next : Place} {name : Text}
    (found : slot tree place name = .ok (some next)) :
    next = place ++ [name] ∧ name ≠ parentName ∧
      ∃ entries, tree.at? place = some (.directory entries) := by
  rw [slot] at found
  split at found
  · cases found
  · cases found
  · rename_i entries isDirectory
    split at found
    · cases found
    · rename_i isName
      split at found
      · cases found
      · cases found
        exact ⟨rfl, isName, entries, isDirectory⟩

theorem slot_eq_none {tree : FileTree} {place : Place} {name : Text}
    (found : slot tree place name = .ok none) : name = parentName := by
  rw [slot] at found
  split at found
  · cases found
  · cases found
  · split at found
    · assumption
    · split at found <;> cases found

theorem step_eq_enter {tree : FileTree} {place next : Place} {name : Text}
    (stepped : step tree place name = .ok next) : next = enter place name := by
  rw [step] at stepped
  cases found : slot tree place name with
  | error kind => simp [found, bind, Except.bind] at stepped
  | ok next? =>
      cases next? with
      | none =>
          have isParent := slot_eq_none found
          simp only [found, bind, Except.bind, pure, Except.pure, Except.ok.injEq] at stepped
          rw [enter, if_pos isParent, stepped]
      | some other =>
          obtain ⟨rfl, isName, _⟩ := slot_eq_some found
          simp only [found, bind, Except.bind] at stepped
          split at stepped
          · cases stepped
            rw [enter, if_neg isName]
          · cases stepped

theorem foldlM_step_eq_foldl_enter {tree : FileTree} {place last : Place} {names : List Text}
    (followed : names.foldlM (step tree) place = .ok last) : last = names.foldl enter place := by
  induction names generalizing place with
  | nil =>
      cases followed
      rfl
  | cons name names induction =>
      rw [List.foldlM_cons] at followed
      cases stepped : step tree place name with
      | error kind => simp [stepped, bind, Except.bind] at followed
      | ok next =>
          simp only [stepped, bind, Except.bind] at followed
          rw [List.foldl_cons, ← step_eq_enter stepped]
          exact induction followed

theorem locate_eq_placeOf {disk : Disk} {path : Path} {place : Place}
    (located : disk.locate path = .ok place) : place = disk.placeOf path := by
  rw [locate] at located
  cases checked : checkPath path with
  | error kind => simp [checked, bind, Except.bind] at located
  | ok _ =>
      simp only [checked, bind, Except.bind] at located
      exact foldlM_step_eq_foldl_enter located

/-- What is made at a path is made at its place, in a directory that is there. -/
theorem target_eq_some {disk : Disk} {path : Path} {place : Place}
    (targeted : disk.target path = .ok (some place)) :
    place = disk.placeOf path ∧ checkPath path = .ok () ∧
      ∃ front name entries, place = front ++ [name] ∧
        disk.tree.at? front = some (.directory entries) := by
  rw [target] at targeted
  cases checked : checkPath path with
  | error kind => simp [checked, bind, Except.bind] at targeted
  | ok _ =>
      simp only [checked, bind, Except.bind] at targeted
      cases ending : path.parts.getLast? with
      | none => simp [ending, pure, Except.pure] at targeted
      | some name =>
          simp only [ending] at targeted
          cases followed : path.parts.dropLast.foldlM (step disk.tree) (disk.start path) with
          | error kind => simp [followed] at targeted
          | ok front =>
              simp only [followed] at targeted
              obtain ⟨rfl, isName, entries, isDirectory⟩ := slot_eq_some targeted
              refine ⟨?_, rfl, front, name, entries, rfl, isDirectory⟩
              obtain ⟨names, parts⟩ := List.getLast?_eq_some_iff.mp ending
              rw [parts, List.dropLast_concat] at followed
              rw [placeOf, parts, List.foldl_append, ← foldlM_step_eq_foldl_enter followed,
                List.foldl_cons, List.foldl_nil, enter, if_neg isName]

/-- A way without parent segments to something that is there is followed to its end, unless a name
on it is too long. -/
theorem foldlM_step_of_isSome {tree : FileTree} {place : Place} {names : List Text}
    (descends : parentName ∉ names) (isThere : (tree.at? (place ++ names)).isSome) :
    names.foldlM (step tree) place = .ok (place ++ names) ∨
      names.foldlM (step tree) place = .error .nameTooLong := by
  induction names generalizing place with
  | nil =>
      left
      rw [List.append_nil]
      rfl
  | cons name names induction =>
      obtain ⟨entries, isDirectory⟩ := FileTree.at?_eq_directory_of_isSome_append isThere
      have isName : name ≠ parentName := fun same => descends (same ▸ List.mem_cons_self)
      have below : parentName ∉ names := fun member => descends (List.mem_cons_of_mem name member)
      rw [List.append_cons] at isThere
      rw [List.foldlM_cons, List.append_cons]
      cases long : isTooLong name with
      | true =>
          right
          simp [step, slot, isDirectory, isName, long, bind, Except.bind]
      | false =>
          have nextIsThere : (tree.at? (place ++ [name])).isSome := by
            rw [FileTree.at?_append] at isThere
            exact Option.isSome_of_isSome_bind isThere
          have stepped : step tree place name = .ok (place ++ [name]) := by
            simp [step, slot, isDirectory, isName, long, nextIsThere, bind, Except.bind, pure,
              Except.pure]
          rw [stepped]
          exact induction below isThere

theorem foldl_enter_of_not_mem {place : Place} {names : List Text}
    (descends : parentName ∉ names) : names.foldl enter place = place ++ names := by
  induction names generalizing place with
  | nil => simp
  | cons name names induction =>
      have isName : name ≠ parentName := fun same => descends (same ▸ List.mem_cons_self)
      have below : parentName ∉ names := fun member => descends (List.mem_cons_of_mem name member)
      rw [List.foldl_cons, enter, if_neg isName, induction below, List.append_assoc]
      rfl

/-- Without parent segments a disk never denies a path to a file that is there. -/
theorem not_misleads_of_not_mem {disk : Disk} {path : Path} (descends : parentName ∉ path.parts)
    (checked : checkPath path = .ok ()) : ¬ disk.Misleads path := by
  rintro ⟨denied, isFile⟩
  have isThere := FileTree.isSome_at?_of_isSome_contentAt? isFile
  have place : disk.placeOf path = disk.start path ++ path.parts :=
    foldl_enter_of_not_mem descends
  rw [place] at isThere
  obtain ⟨tree, found⟩ := Option.isSome_iff_exists.mp isThere
  rcases foldlM_step_of_isSome descends isThere with followed | refused
  · simp [pathExists, find?, find, locate, checked, followed, found, bind, Except.bind, pure,
      Except.pure, Functor.map, Except.map] at denied
  · simp [pathExists, find?, find, locate, checked, refused, bind, Except.bind, Functor.map,
      Except.map] at denied

end Disk

end DartRoutes
