import DartRoutes.Proofs.DiskRefusal

/-!
# Files in the way

A path of reasonable names at which no file can be written has a directory in its place, or it
leads to a file where it needs a directory. A file in the way can be deleted, and what is left is
the tree without this file. Writing a file makes no directories but those that its path leads over.
-/

namespace DartRoutes

open Effect

namespace FileTree

theorem kindAt?_of_prefix {place other : Place} {tree : FileTree} {kind : Bool}
    (found : tree.kindAt? place = some kind) (above : other <+: place) (apart : other ≠ place) :
    tree.kindAt? other = some true := by
  obtain ⟨rest, rfl⟩ := above
  cases rest with
  | nil => exact absurd (List.append_nil other).symm apart
  | cons name rest =>
      have isThere : (tree.at? (other ++ name :: rest)).isSome := by
        rw [← isSome_kindAt?, found]
        rfl
      exact kindAt?_eq_true_iff.mpr (at?_eq_directory_of_isSome_append isThere)

theorem lookup_filter_ne (name other : Text) (entries : List (Text × FileTree)) :
    (entries.filter (·.1 != name)).lookup other =
      if other = name then none else entries.lookup other := by
  induction entries with
  | nil => simp
  | cons entry entries induction =>
      obtain ⟨key, tree⟩ := entry
      by_cases removed : key = name <;> by_cases same : other = key <;> grind

/-- Nothing is left where a tree is erased, and everything else stays of its kind. -/
theorem kindAt?_erase {place : Place} (named : place ≠ []) (tree : FileTree) (other : Place) :
    (tree.erase place).kindAt? other = if place <+: other then none else tree.kindAt? other := by
  induction place generalizing tree other with
  | nil => exact absurd rfl named
  | cons name place induction =>
      cases other with
      | nil =>
          have isApart : ¬ name :: place <+: [] := by simp
          rw [if_neg isApart]
          cases tree with
          | file content => rfl
          | directory entries =>
              cases place with
              | nil => rfl
              | cons next place =>
                  rw [erase]
                  split <;> rfl
      | cons head rest =>
          cases tree with
          | file content => exact (ite_self none).symm
          | directory entries =>
              cases place with
              | nil =>
                  rw [erase, kindAt?_cons, kindAt?_cons, lookup_filter_ne]
                  by_cases same : head = name
                  · subst same
                    rw [if_pos rfl, if_pos (List.cons_prefix_cons.mpr ⟨rfl, List.nil_prefix⟩)]
                    rfl
                  · have isApart : ¬ [name] <+: head :: rest :=
                      fun above => same (List.cons_prefix_cons.mp above).1.symm
                    rw [if_neg same, if_neg isApart]
              | cons next place =>
                  have erased := induction (List.cons_ne_nil next place)
                  rw [erase, kindAt?_cons]
                  by_cases same : head = name
                  · subst same
                    simp only [List.cons_prefix_cons (a := head), true_and]
                    cases found : entries.lookup head with
                    | none =>
                        rw [kindAt?_cons, found]
                        exact (ite_self none).symm
                    | some below =>
                        simp only [kindAt?_cons, lookup_setEntry, if_true, Option.bind_some, erased]
                  · rw [if_neg fun above => same (List.cons_prefix_cons.mp above).1.symm]
                    cases entries.lookup name with
                    | none => rw [kindAt?_cons]
                    | some below => rw [kindAt?_cons, lookup_setEntry, if_neg same]

theorem isSome_contentAt?_iff {place : Place} {tree : FileTree} :
    (tree.contentAt? place).isSome ↔ tree.kindAt? place = some false := by
  rw [kindAt?_eq_false_iff, Option.isSome_iff_exists]
  exact exists_congr fun content => contentAt?_eq_some_iff

end FileTree

/-- The path ends with a name and not with a segment for a parent directory. -/
def Path.IsNamed (path : Path) : Prop :=
  ∃ (parent : Path) (name : Text), path = parent.child name ∧ name ≠ Disk.parentName

/-- The path leads on from the place of another one without going up. -/
structure Path.IsBelow (lower upper : Path) : Prop where
  sameAnchor : lower.anchor = upper.anchor
  above : upper.parts <+: lower.parent.parts
  descends : Disk.parentName ∉ lower.parts

namespace Disk

/-- The working directory is a directory. -/
def HasDirectory (disk : Disk) : Prop :=
  disk.tree.kindAt? disk.directory = some true

theorem HasDirectory.kindAt?_start {disk : Disk} (has : disk.HasDirectory) (path : Path) :
    disk.tree.kindAt? (disk.start path) = some true := by
  rw [start]
  split
  · exact has
  · by_cases same : disk.directory = []
    · rw [HasDirectory, same] at has
      exact has
    · exact FileTree.kindAt?_of_prefix has List.nil_prefix (Ne.symm same)

theorem HasDirectory.isGrounded {disk : Disk} (has : disk.HasDirectory) (path : Path) :
    disk.IsGrounded path :=
  ⟨true, has.kindAt?_start path⟩

theorem HasDirectory.grow {before after : Disk} (has : before.HasDirectory)
    (grows : Grows before after) : after.HasDirectory := by
  rw [HasDirectory, grows.directory]
  exact grows.kept _ _ has

/-- The path leads over a place, whether there is something or not. -/
def Crosses (disk : Disk) (path : Path) (place : Place) : Prop :=
  ∃ names, names <+: path.parts ∧ names.foldl enter (disk.start path) = place

theorem crosses_of_directory_eq {before after : Disk} (same : after.directory = before.directory)
    {path : Path} {place : Place} : after.Crosses path place ↔ before.Crosses path place := by
  rw [Crosses, Crosses, start, start, same]

theorem Crosses.ofParent {disk : Disk} {path : Path} {place : Place}
    (crosses : disk.Crosses path.parent place) : disk.Crosses path place := by
  obtain ⟨names, short, leads⟩ := crosses
  exact ⟨names, short.trans (List.dropLast_prefix _), leads⟩

/-- A path that never goes up leads over the places on the way from its start to its own place. -/
theorem crosses_iff_of_not_mem {disk : Disk} {path : Path} (descends : parentName ∉ path.parts)
    {place : Place} :
    disk.Crosses path place ↔ ∃ names, names <+: path.parts ∧ disk.start path ++ names = place := by
  refine exists_congr fun names => and_congr_right fun short => ?_
  rw [foldl_enter_of_not_mem fun member => descends (short.subset member)]

/-- The directory of a path that never goes up is reached without the path's own place. -/
theorem not_crosses_parent {disk : Disk} {path : Path} (descends : parentName ∉ path.parts)
    (isNamed : path.IsNamed) : ¬ disk.Crosses path.parent (disk.placeOf path) := by
  obtain ⟨parent, name, rfl, _⟩ := isNamed
  rw [Path.parent_child]
  intro crosses
  have below : parentName ∉ parent.parts :=
    fun member => descends (List.mem_append_left _ member)
  obtain ⟨names, short, leads⟩ := (crosses_iff_of_not_mem below).mp crosses
  rw [placeOf, foldl_enter_of_not_mem descends] at leads
  have same : names = parent.parts ++ [name] := List.append_cancel_left leads
  have long := short.length_le
  rw [same, List.length_append, List.length_singleton] at long
  omega

/-- A file is in the way of a path: the path gets to it although there are more names behind. -/
structure Obstructs (disk : Disk) (place : Place) (path : Path) : Prop where
  isFile : disk.tree.kindAt? place = some false
  reached : ∃ names, names <+: path.parent.parts ∧
    names.foldlM (step disk.tree) (disk.start path) = .ok place

theorem Obstructs.crosses {disk : Disk} {place : Place} {path : Path}
    (obstructs : disk.Obstructs place path) : disk.Crosses path.parent place := by
  obtain ⟨names, short, reached⟩ := obstructs.reached
  exact ⟨names, short, (foldlM_step_eq_foldl_enter reached).symm⟩

/-- There is a file at the path or in its way. -/
def Stops (disk : Disk) (path : Path) : Prop :=
  ∃ place names, names <+: path.parts ∧
    names.foldlM (step disk.tree) (disk.start path) = .ok place ∧
      disk.tree.kindAt? place = some false

theorem Stops.grow {before after : Disk} {path : Path} (stops : before.Stops path)
    (grows : Grows before after) : after.Stops path := by
  obtain ⟨place, names, short, reached, isFile⟩ := stops
  refine ⟨place, names, short, ?_, grows.kept _ _ isFile⟩
  rw [grows.start_eq, foldlM_step_of_larger grows.kept (by rw [reached]; nofun), reached]

theorem Obstructs.stops {disk : Disk} {place : Place} {path : Path}
    (obstructs : disk.Obstructs place path) : disk.Stops path := by
  obtain ⟨names, short, reached⟩ := obstructs.reached
  exact ⟨place, names, short.trans (List.dropLast_prefix _), reached, obstructs.isFile⟩

theorem Stops.obstructs {disk : Disk} {lower upper : Path} (stops : disk.Stops upper)
    (below : lower.IsBelow upper) : ∃ place, disk.Obstructs place lower := by
  obtain ⟨place, names, short, reached, isFile⟩ := stops
  refine ⟨place, isFile, names, short.trans below.above, ?_⟩
  rw [start, below.sameAnchor]
  exact reached

theorem Stops.not_isDirectory {disk : Disk} {path : Path} (stops : disk.Stops path)
    (descends : parentName ∉ path.parts) :
    disk.tree.kindAt? (disk.placeOf path) ≠ some true := by
  obtain ⟨place, names, short, reached, isFile⟩ := stops
  intro isDirectory
  have above : place <+: disk.placeOf path := by
    rw [foldlM_step_eq_foldl_enter reached, placeOf, foldl_enter_of_not_mem descends,
      foldl_enter_of_not_mem fun member => descends (short.subset member)]
    exact (List.prefix_append_right_inj _).mpr short
  by_cases same : place = disk.placeOf path
  · rw [same, isDirectory] at isFile
    cases isFile
  · rw [FileTree.kindAt?_of_prefix isDirectory above same] at isFile
    cases isFile

theorem step_eq_notDirectory {tree : FileTree} {place : Place} {name : Text}
    (refused : step tree place name = .error .notDirectory) : tree.kindAt? place = some false := by
  rw [step, slot_eq] at refused
  cases found : tree.kindAt? place with
  | none =>
      rw [found] at refused
      cases refused
  | some kind =>
      cases kind with
      | false => rfl
      | true =>
          rw [found] at refused
          simp only [bind, Except.bind] at refused
          split at refused
          · rename_i slotted
            split at slotted
            · cases slotted
            · split at slotted <;> cases slotted
              cases refused
          · split at refused
            · cases refused
            · split at refused <;> cases refused

theorem exists_file_of_notDirectory {tree : FileTree} {place : Place} {names : List Text}
    (refused : names.foldlM (step tree) place = .error .notDirectory) :
    ∃ front file, front <+: names ∧ front.foldlM (step tree) place = .ok file ∧
      tree.kindAt? file = some false := by
  induction names generalizing place with
  | nil => cases refused
  | cons name names induction =>
      rw [List.foldlM_cons] at refused
      cases stepped : step tree place name with
      | error kind =>
          rw [stepped] at refused
          cases refused
          exact ⟨[], place, List.nil_prefix, rfl, step_eq_notDirectory stepped⟩
      | ok next =>
          rw [stepped] at refused
          obtain ⟨front, file, short, reached, isFile⟩ := induction refused
          refine ⟨name :: front, file, List.cons_prefix_cons.mpr ⟨rfl, short⟩, ?_, isFile⟩
          rw [List.foldlM_cons, stepped]
          exact reached

theorem locate_of_checkPath {path : Path} (checked : checkPath path = .ok ()) (disk : Disk) :
    disk.locate path = path.parts.foldlM (step disk.tree) (disk.start path) := by
  rw [locate, checked]
  rfl

theorem checkPath_of_append {anchor : Path.Anchor} {names more : List Text}
    (checked : checkPath ⟨anchor, names ++ more⟩ = .ok ()) :
    checkPath ⟨anchor, names⟩ = .ok () := by
  induction more generalizing names with
  | nil =>
      rw [List.append_nil] at checked
      exact checked
  | cons name more induction =>
      rw [List.append_cons] at checked
      exact checkPath_of_child (induction checked)

section Named

variable {disk : Disk} {parent : Path} {name : Text} (admits : Admits (parent.child name))

include admits

/-- A directory that can never be made has a file in its way. -/
theorem Blocked.exists_obstructs (blocked : Blocked disk parent) :
    ∃ place, disk.Obstructs place (parent.child name) := by
  have checked := checkPath_of_child admits.checkPath
  cases blocked with
  | @refused kind located settled clean =>
      rw [locate_of_checkPath checked] at located
      rcases foldlM_step_eq_error located with missing | noDirectory | ⟨_, long, member, isLong⟩
      · exact absurd missing settled
      · rw [noDirectory] at located
        obtain ⟨front, file, short, reached, isFile⟩ := exists_file_of_notDirectory located
        rw [← Path.parent_child parent name] at short
        exact ⟨file, isFile, front, short, reached⟩
      · have isShort := admits.short long (List.mem_append_left _ member)
        rw [isLong] at isShort
        cases isShort
  | @file place located isFile =>
      rw [locate_of_checkPath checked] at located
      have same : (parent.child name).parent = parent := Path.parent_child parent name
      exact ⟨place, isFile, parent.parts, same.symm ▸ List.prefix_rfl, located⟩

variable (named : name ≠ parentName)

include named

theorem target_of_isDirectory (inside : disk.isDirectory parent = .ok true) :
    ∃ place, disk.target (parent.child name) = .ok (some place) := by
  obtain ⟨place, located, isDirectory⟩ := isDirectory_eq_true_iff.mp inside
  have short := admits.short name (List.mem_append_right _ List.mem_cons_self)
  refine ⟨place ++ [name], ?_⟩
  rw [target_child admits.checkPath, located]
  simp only [bind, Except.bind, slot_eq, isDirectory, if_neg named, short, Bool.false_eq_true,
    if_false]

theorem Barred.exists_or_obstructs (barred : Barred disk (parent.child name)) :
    disk.pathExists (parent.child name) = .ok true ∨
      ∃ place, disk.Obstructs place (parent.child name) := by
  have targeted : disk.isDirectory (parent.child name).parent = .ok true →
      ∃ place, disk.target (parent.child name) = .ok (some place) := by
    rw [Path.parent_child]
    exact target_of_isDirectory admits named
  cases barred with
  | outside blocked =>
      rw [Path.parent_child] at blocked
      exact .inr (blocked.exists_obstructs admits)
  | refused inside refused _ =>
      obtain ⟨place, targeted⟩ := targeted inside
      rw [targeted] at refused
      cases refused
  | noName inside unnamed =>
      obtain ⟨place, targeted⟩ := targeted inside
      rw [targeted] at unnamed
      cases unnamed
  | occupied targeted isDirectory =>
      exact .inl (pathExists_eq_true_iff.mpr
        ⟨_, true, locate_of_target targeted isDirectory, isDirectory⟩)

end Named

/-- At a settled path of reasonable names there is something, or a file is in its way. -/
theorem Settled.exists_or_obstructs {disk : Disk} {path : Path} (settled : disk.Settled path)
    (admits : Admits path) (isNamed : path.IsNamed) :
    disk.pathExists path = .ok true ∨ ∃ place, disk.Obstructs place path := by
  obtain ⟨parent, name, rfl, named⟩ := isNamed
  exact settled.elim .inl fun barred => barred.exists_or_obstructs admits named

theorem delete_eq_ok_iff {path : Path} {disk repaired : Disk} :
    delete path disk = .ok () repaired ↔
      ∃ place, disk.locate path = .ok place ∧
        repaired = { disk with tree := disk.tree.erase place } := by
  rw [delete, bind_run, get_run]
  dsimp only
  cases disk.locate path with
  | error kind =>
      refine ⟨fun deleted => ?_, ?_⟩
      · cases deleted
      · rintro ⟨_, located, _⟩
        cases located
  | ok place =>
      constructor
      · intro deleted
        cases deleted
        exact ⟨place, rfl, rfl⟩
      · rintro ⟨_, located, rfl⟩
        cases located
        rfl

theorem Obstructs.exists_delete {disk : Disk} {place : Place} {path : Path}
    (obstructs : disk.Obstructs place path) (checked : checkPath path = .ok ()) :
    ∃ obstacle repaired, disk.placeOf obstacle = place ∧
      delete obstacle disk = .ok () repaired := by
  obtain ⟨names, short, reached⟩ := obstructs.reached
  obtain ⟨more, parts⟩ := short.trans (List.dropLast_prefix path.parts)
  have isPath : path = ⟨path.anchor, names ++ more⟩ := by rw [parts]
  rw [isPath] at checked
  have located : disk.locate ⟨path.anchor, names⟩ = .ok place := by
    rw [locate_of_checkPath (checkPath_of_append checked)]
    exact reached
  exact ⟨_, _, (locate_eq_placeOf located).symm, delete_eq_ok_iff.mpr ⟨place, located, rfl⟩⟩

theorem Obstructs.not_pathExists {disk : Disk} {place : Place} {path : Path}
    (obstructs : disk.Obstructs place path) (isNamed : path.IsNamed) :
    disk.pathExists path ≠ .ok true := by
  obtain ⟨parent, name, rfl, _⟩ := isNamed
  obtain ⟨names, short, reached⟩ := obstructs.reached
  rw [Path.parent_child] at short
  obtain ⟨more, parts⟩ := short
  intro isThere
  obtain ⟨last, kind, located, found⟩ := pathExists_eq_true_iff.mp isThere
  cases checked : checkPath (parent.child name) with
  | error kind =>
      rw [locate_of_refused checked] at located
      cases located
  | ok _ =>
      obtain ⟨next, rest, isMore⟩ := List.exists_cons_of_ne_nil (List.concat_ne_nil name more)
      have isParts : (parent.child name).parts = names ++ next :: rest := by
        rw [Path.child, ← parts, List.append_assoc, isMore]
      rw [locate_of_checkPath checked, isParts, List.foldlM_append, reached] at located
      simp only [bind, Except.bind, List.foldlM_cons, step, slot_eq, obstructs.isFile] at located
      cases located

/-- Two files on the way of a path that never goes up are the same. -/
theorem eq_of_crosses {disk : Disk} {path : Path} (descends : parentName ∉ path.parts)
    {first second : Place} (crossesFirst : disk.Crosses path first)
    (crossesSecond : disk.Crosses path second)
    (isFirst : disk.tree.kindAt? first = some false)
    (isSecond : disk.tree.kindAt? second = some false) : first = second := by
  obtain ⟨names, short, rfl⟩ := (crosses_iff_of_not_mem descends).mp crossesFirst
  obtain ⟨others, otherShort, rfl⟩ := (crosses_iff_of_not_mem descends).mp crossesSecond
  have unequal : ∀ {upper lower : List Text}, upper <+: lower →
      disk.tree.kindAt? (disk.start path ++ upper) = some false →
      disk.tree.kindAt? (disk.start path ++ lower) = some false →
        disk.start path ++ upper = disk.start path ++ lower := by
    intro upper lower above isUpper isLower
    refine Decidable.byContradiction fun different => ?_
    have isDirectory := FileTree.kindAt?_of_prefix isLower
      ((List.prefix_append_right_inj _).mpr above) different
    rw [isUpper] at isDirectory
    cases isDirectory
  rcases List.prefix_or_prefix_of_prefix short otherShort with above | below
  · exact unequal above isFirst isSecond
  · exact (unequal below isSecond isFirst).symm

/-- The disk without the file at a place. -/
structure Cleared (place : Place) (before after : Disk) : Prop where
  directory : after.directory = before.directory
  wasFile : before.tree.kindAt? place = some false
  kind : ∀ other, after.tree.kindAt? other =
    if place <+: other then none else before.tree.kindAt? other

theorem HasDirectory.cleared_of_delete {obstacle : Path} {before after : Disk}
    (has : before.HasDirectory)
    (isFile : before.tree.kindAt? (before.placeOf obstacle) = some false)
    (deleted : delete obstacle before = .ok () after) :
    Cleared (before.placeOf obstacle) before after := by
  obtain ⟨place, located, rfl⟩ := delete_eq_ok_iff.mp deleted
  obtain rfl := locate_eq_placeOf located
  have named : before.placeOf obstacle ≠ [] := by
    intro isRoot
    have root := has.kindAt?_start ⟨.root, []⟩
    rw [isRoot] at isFile
    exact absurd (isFile.symm.trans root) (by decide)
  exact ⟨rfl, isFile, FileTree.kindAt?_erase named before.tree⟩

variable {place : Place} {before after : Disk}

theorem Cleared.hasDirectory (cleared : Cleared place before after) (has : before.HasDirectory) :
    after.HasDirectory := by
  rw [HasDirectory, cleared.directory, cleared.kind, if_neg]
  · exact has
  · intro above
    by_cases same : place = before.directory
    · have isFile := cleared.wasFile
      rw [same, has] at isFile
      cases isFile
    · have isDirectory := FileTree.kindAt?_of_prefix has above same
      rw [cleared.wasFile] at isDirectory
      cases isDirectory

/-- The files that are left have been there before, and the deleted one is not among them. -/
theorem Cleared.wasOther (cleared : Cleared place before after) {other : Place}
    (isFile : (after.tree.contentAt? other).isSome) :
    (before.tree.contentAt? other).isSome ∧ other ≠ place := by
  rw [FileTree.isSome_contentAt?_iff, cleared.kind] at isFile
  split at isFile
  · cases isFile
  · rename_i apart
    exact ⟨FileTree.isSome_contentAt?_iff.mpr isFile, fun same => apart (same ▸ List.prefix_rfl)⟩

/-- The path leads over all directories that are new on the second disk. -/
structure MakesAlong (path : Path) (before after : Disk) : Prop where
  directory : after.directory = before.directory
  along : ∀ place, after.tree.kindAt? place = some true →
    before.tree.kindAt? place = some true ∨ before.Crosses path place

instance (path : Path) : Std.Refl (MakesAlong path) where
  refl _ := ⟨rfl, fun _ => .inl⟩

instance (path : Path) : IsTrans Disk (MakesAlong path) where
  trans _ _ _ first second := by
    refine ⟨second.directory.trans first.directory, fun place isDirectory => ?_⟩
    rcases second.along place isDirectory with old | crossed
    · exact first.along place old
    · exact .inr ((crosses_of_directory_eq first.directory).mp crossed)

theorem MakesAlong.ofParent {path : Path} {before after : Disk}
    (makes : MakesAlong path.parent before after) : MakesAlong path before after :=
  ⟨makes.directory, fun place isDirectory =>
    (makes.along place isDirectory).imp_right Crosses.ofParent⟩

theorem kindAt?_of_put {tree new : FileTree} {front : Place} {name : Text} {place : Place}
    (inside : tree.kindAt? front = some true) (bare : ∀ next rest, new.at? (next :: rest) = none)
    (isDirectory : (tree.put (front ++ [name]) new).kindAt? place = some true) :
    tree.kindAt? place = some true ∨ place = front ++ [name] ∧ new.isDirectory = true := by
  obtain ⟨entries, found⟩ := FileTree.kindAt?_eq_true_iff.mp inside
  by_cases below : front ++ [name] <+: place
  · obtain ⟨rest, rfl⟩ := below
    rw [FileTree.kindAt?, FileTree.at?_append, FileTree.at?_put_of_directory _ found,
      Option.bind_some] at isDirectory
    cases rest with
    | nil => exact .inr ⟨List.append_nil _, Option.some_inj.mp isDirectory⟩
    | cons next rest =>
        rw [bare] at isDirectory
        cases isDirectory
  · by_cases above : place <+: front ++ [name]
    · rcases List.prefix_concat_iff.mp above with rfl | above
      · exact absurd List.prefix_rfl below
      · by_cases same : place = front
        · exact .inl (same ▸ inside)
        · exact .inl (FileTree.kindAt?_of_prefix inside above same)
    · rw [FileTree.kindAt?, FileTree.at?_put_of_apart _ _ below above] at isDirectory
      exact .inl isDirectory

theorem makeDirectory_makesAlong (path : Path) : Keeps (MakesAlong path) (makeDirectory path) := by
  intro disk
  rw [after, makeDirectory_run]
  cases targeted : disk.target path with
  | error kind => exact Std.Refl.refl disk
  | ok place? =>
      cases place? with
      | none => exact Std.Refl.refl disk
      | some place =>
          obtain ⟨isPlace, _, front, name, entries, rfl, isDirectory⟩ := target_eq_some targeted
          have inside := FileTree.kindAt?_eq_true_iff.mpr ⟨entries, isDirectory⟩
          cases present : (disk.tree.at? (front ++ [name])).isSome with
          | true => simpa [present] using Std.Refl.refl (r := MakesAlong path) disk
          | false =>
              simp only [present, Bool.false_eq_true, if_false]
              refine ⟨rfl, fun place new => ?_⟩
              refine (kindAt?_of_put inside (fun _ _ => rfl) new).imp_right fun made => ?_
              exact ⟨path.parts, List.prefix_rfl, isPlace.symm.trans made.1.symm⟩

theorem makeDirectories_makesAlong (path : Path) :
    Keeps (MakesAlong path) (makeDirectories path) := by
  rw [makeDirectories]
  generalize path.parts.length = depth
  induction depth generalizing path with
  | zero => exact (makeDirectory_makesAlong path).tryCatch (unlessDirectory_keeps path)
  | succ depth induction =>
      refine (makeDirectory_makesAlong path).tryCatch fun fault => ?_
      split
      · have parentMade : Keeps (MakesAlong path) (makeDirectoriesWithin depth path.parent) :=
          fun disk => (induction path.parent disk).ofParent
        refine parentMade.bind fun _ => ?_
        exact (makeDirectory_makesAlong path).tryCatch (unlessDirectory_keeps path)
      · exact unlessDirectory_keeps path fault

theorem writeFile_makesNone (path other : Path) (content : Bytes) :
    Keeps (MakesAlong other) (writeFile path content) := by
  intro disk
  rw [after, writeFile_run]
  cases targeted : disk.target path with
  | error kind => exact Std.Refl.refl disk
  | ok place? =>
      cases place? with
      | none => exact Std.Refl.refl disk
      | some place =>
          obtain ⟨_, _, front, name, entries, rfl, isDirectory⟩ := target_eq_some targeted
          have inside := FileTree.kindAt?_eq_true_iff.mpr ⟨entries, isDirectory⟩
          cases blocked : (disk.tree.at? (front ++ [name])).any FileTree.isDirectory with
          | true => simpa [blocked] using Std.Refl.refl (r := MakesAlong other) disk
          | false =>
              simp only [blocked, Bool.false_eq_true, if_false]
              refine ⟨rfl, fun place new => ?_⟩
              rcases kindAt?_of_put inside (fun _ _ => rfl) new with old | ⟨_, isNone⟩
              · exact .inl old
              · cases isNone

/-- Writing a file makes directories only where its path leads over them to the file. -/
theorem writeDeepFile_makesAlong (path : Path) (content : Bytes) :
    Keeps (MakesAlong path.parent) (writeDeepFile path content) :=
  (makeDirectories_makesAlong path.parent).bind fun _ =>
    writeFile_makesNone path path.parent content

end Disk

end DartRoutes
