import DartRoutes.Proofs.DiskObstacle

/-!
# Disks with foreign files

A disk can have all that another one has, and besides the files of foreign paths with the
directories on the way to them. A path that shares nothing but directories with the foreign ones
does not feel them: what the larger disk answers about the path, the smaller one answers, too, and
what is missing for the path on the smaller disk is missing on the larger one, or is a directory
there.
-/

namespace DartRoutes

namespace Disk

/-- The larger disk has what the smaller one has, and besides only the files of foreign paths and
directories on the way to them. -/
structure Alongside (foreign : Path → Prop) (small large : Disk) : Prop where
  hasDirectory : small.HasDirectory
  grows : Grows small large
  content : ∀ place, (∀ path, foreign path → small.placeOf path ≠ place) →
    large.tree.contentAt? place = small.tree.contentAt? place
  along : ∀ place, large.tree.kindAt? place = some true →
    small.tree.kindAt? place = some true ∨
      ∃ path, foreign path ∧ small.Crosses path.parent place

/-- No foreign path has its file on the way of the path. -/
structure IsPassable (foreign : Path → Prop) (path : Path) : Prop where
  descends : parentName ∉ path.parts
  free : ∀ (disk : Disk) other, foreign other → ∀ place, disk.Crosses path place →
    disk.placeOf other ≠ place

/-- The path shares no file with a foreign one, and neither has its file where the other one needs a
directory. -/
structure IsApart (foreign : Path → Prop) (path : Path) : Prop where
  descends : parentName ∉ path.parts
  passable : IsPassable foreign path.parent
  unshared : ∀ (disk : Disk) other, foreign other → disk.placeOf other ≠ disk.placeOf path
  outside : ∀ (disk : Disk) other, foreign other → ¬ disk.Crosses other.parent (disk.placeOf path)

variable {foreign : Path → Prop} {small large : Disk} {path : Path}

theorem IsPassable.of_prefix (passable : IsPassable foreign path) {names : List Text}
    (short : names <+: path.parts) : IsPassable foreign ⟨path.anchor, names⟩ where
  descends member := passable.descends (short.subset member)
  free disk other isForeign place crosses := by
    obtain ⟨shorter, upper, leads⟩ := crosses
    exact passable.free disk other isForeign place ⟨shorter, upper.trans short, leads⟩

theorem IsPassable.parent (passable : IsPassable foreign path) : IsPassable foreign path.parent :=
  passable.of_prefix (List.dropLast_prefix _)

theorem IsApart.mono (apart : IsApart foreign path) {fewer : Path → Prop}
    (isForeign : ∀ other, fewer other → foreign other) : IsApart fewer path where
  descends := apart.descends
  passable :=
    ⟨apart.passable.descends, fun disk other isFewer =>
      apart.passable.free disk other (isForeign other isFewer)⟩
  unshared disk other isFewer := apart.unshared disk other (isForeign other isFewer)
  outside disk other isFewer := apart.outside disk other (isForeign other isFewer)

theorem Alongside.refl (foreign : Path → Prop) {disk : Disk} (has : disk.HasDirectory) :
    Alongside foreign disk disk :=
  ⟨has, Std.Refl.refl disk, fun _ _ => rfl, fun _ => .inl⟩

/-- A foreign file can come to the larger disk, with the directories on the way to it. -/
theorem Alongside.extend {later : Disk} (alongside : Alongside foreign small large)
    (isForeign : foreign path) (grows : Grows large later)
    (makes : MakesAlong path.parent large later)
    (elsewhere : ∀ place, large.placeOf path ≠ place →
      later.tree.contentAt? place = large.tree.contentAt? place) :
    Alongside foreign small later where
  hasDirectory := alongside.hasDirectory
  grows := IsTrans.trans (r := Grows) _ _ _ alongside.grows grows
  content place apart := by
    rw [elsewhere, alongside.content place apart]
    rw [placeOf_of_directory_eq alongside.grows.directory]
    exact apart path isForeign
  along place isDirectory := by
    rcases makes.along place isDirectory with old | crosses
    · exact alongside.along place old
    · exact .inr ⟨path, isForeign, (crosses_of_directory_eq alongside.grows.directory).mp crosses⟩

theorem Alongside.isFile (alongside : Alongside foreign small large) {place : Place}
    (apart : ∀ path, foreign path → small.placeOf path ≠ place)
    (isFile : large.tree.kindAt? place = some false) : small.tree.kindAt? place = some false := by
  rw [← FileTree.isSome_contentAt?_iff, ← alongside.content place apart,
    FileTree.isSome_contentAt?_iff]
  exact isFile

/-- At the place of a path that is apart from the foreign ones both disks have the same. -/
theorem Alongside.kindAt?_placeOf (alongside : Alongside foreign small large)
    (apart : IsApart foreign path) :
    large.tree.kindAt? (small.placeOf path) = small.tree.kindAt? (small.placeOf path) := by
  cases found : large.tree.kindAt? (small.placeOf path) with
  | none =>
      cases old : small.tree.kindAt? (small.placeOf path) with
      | none => rfl
      | some kind =>
          rw [alongside.grows.kept _ kind old] at found
          cases found
  | some kind =>
      cases kind with
      | false => rw [alongside.isFile (apart.unshared small) found]
      | true =>
          rcases alongside.along _ found with old | ⟨other, isForeign, crosses⟩
          · rw [old]
          · exact absurd crosses (apart.outside small other isForeign)

/-- A path that leads to something on both disks leads there in the same way. -/
theorem Grows.locate_of_kindAt? (grows : Grows small large) (descends : parentName ∉ path.parts)
    {place : Place} {kind : Bool} (located : large.locate path = .ok place)
    (found : small.tree.kindAt? place = some kind) : small.locate path = .ok place := by
  have checked : checkPath path = .ok () := by
    cases checked : checkPath path with
    | ok _ => rfl
    | error kind =>
        rw [locate_of_refused checked] at located
        cases located
  have isPlace : place = small.start path ++ path.parts := by
    rw [locate_eq_placeOf located, placeOf_of_directory_eq grows.directory, placeOf,
      foldl_enter_of_not_mem descends]
  have isThere : (small.tree.at? (small.start path ++ path.parts)).isSome := by
    rw [← isPlace, ← FileTree.isSome_kindAt?, found]
    rfl
  rw [isPlace, locate_of_checkPath checked]
  refine (foldlM_step_of_isSome descends isThere).resolve_right fun refused => ?_
  rw [← locate_of_checkPath checked] at refused
  rw [grows.locate_eq (by simp [refused]), refused] at located
  cases located

theorem pathExists_eq_error_iff {disk : Disk} {fault : FileFault} :
    disk.pathExists path = .error fault ↔
      disk.locate path = .error .nameTooLong ∧ fault = ⟨.nameTooLong, path⟩ := by
  rw [pathExists, find?, find]
  cases located : disk.locate path with
  | error kind => cases kind <;> simp [bind, Except.bind, Functor.map, Except.map, eq_comm]
  | ok place =>
      cases found : disk.tree.at? place with
      | none => simp [found, bind, Except.bind, Functor.map, Except.map, throw, throwThe,
          MonadExceptOf.throw]
      | some tree => simp [found, bind, Except.bind, Functor.map, Except.map, pure, Except.pure]

/-- What the larger disk answers about the path, the smaller one answers, too. -/
theorem Alongside.pathExists_of_ok (alongside : Alongside foreign small large)
    (apart : IsApart foreign path) {isThere : Bool}
    (answered : large.pathExists path = .ok isThere) : small.pathExists path = .ok isThere := by
  cases isThere with
  | true =>
      obtain ⟨place, kind, located, found⟩ := pathExists_eq_true_iff.mp answered
      have isPlace : place = small.placeOf path := by
        rw [locate_eq_placeOf located, placeOf_of_directory_eq alongside.grows.directory]
      rw [isPlace, alongside.kindAt?_placeOf apart, ← isPlace] at found
      exact pathExists_eq_true_iff.mpr
        ⟨place, kind, alongside.grows.locate_of_kindAt? apart.descends located found, found⟩
  | false =>
      cases asked : small.pathExists path with
      | ok isThere =>
          cases isThere with
          | false => rfl
          | true =>
              rw [alongside.grows.pathExists asked] at answered
              cases answered
      | error fault =>
          obtain ⟨refused, rfl⟩ := pathExists_eq_error_iff.mp asked
          rw [← alongside.grows.locate_eq (by simp [refused])] at refused
          rw [pathExists_eq_error_iff.mpr ⟨refused, rfl⟩] at answered
          cases answered

theorem Alongside.locate_of_isFile (alongside : Alongside foreign small large)
    (passable : IsPassable foreign path) {place : Place} (located : large.locate path = .ok place)
    (isFile : large.tree.kindAt? place = some false) :
    small.locate path = .ok place ∧ small.tree.kindAt? place = some false := by
  have crosses : small.Crosses path place := by
    refine ⟨path.parts, List.prefix_rfl, ?_⟩
    rw [locate_eq_placeOf located, placeOf_of_directory_eq alongside.grows.directory, placeOf]
  have wasFile := alongside.isFile
    (fun other isForeign => passable.free small other isForeign place crosses) isFile
  exact ⟨alongside.grows.locate_of_kindAt? passable.descends located wasFile, wasFile⟩

theorem Alongside.locate_of_notDirectory (alongside : Alongside foreign small large)
    (passable : IsPassable foreign path) (refused : large.locate path = .error .notDirectory) :
    small.locate path = .error .notDirectory := by
  cases checked : checkPath path with
  | error kind =>
      rw [locate_of_refused checked] at refused ⊢
      exact refused
  | ok _ =>
      rw [locate_of_checkPath checked] at refused ⊢
      obtain ⟨front, file, ⟨rest, parts⟩, reached, isFile⟩ := exists_file_of_notDirectory refused
      have checkedFront : checkPath ⟨path.anchor, front⟩ = .ok () := by
        have isPath : path = ⟨path.anchor, front ++ rest⟩ := by rw [parts]
        rw [isPath] at checked
        exact checkPath_of_append checked
      have passableFront := passable.of_prefix ⟨rest, parts⟩
      have located : large.locate ⟨path.anchor, front⟩ = .ok file := by
        rw [locate_of_checkPath checkedFront]
        exact reached
      obtain ⟨located, isFile⟩ := alongside.locate_of_isFile passableFront located isFile
      rw [locate_of_checkPath checkedFront] at located
      have sameStart : small.start ⟨path.anchor, front⟩ = small.start path := rfl
      rw [sameStart] at located
      cases rest with
      | nil =>
          rw [List.append_nil] at parts
          rw [← parts, reached] at refused
          cases refused
      | cons name rest =>
          rw [← parts, List.foldlM_append, located]
          simp only [bind, Except.bind, List.foldlM_cons, step, slot_eq, isFile]

theorem checkPath_eq_error {kind : FileFault.Kind} (refused : checkPath path = .error kind) :
    kind = .nullCharacter ∨ kind = .nameTooLong := by
  rw [checkPath] at refused
  split at refused
  · cases refused
    exact .inl rfl
  · split at refused
    · cases refused
      exact .inr rfl
    · cases refused

theorem locate_of_parent_refused {disk : Disk} {kind : FileFault.Kind}
    (checked : checkPath path = .ok ()) (refused : disk.locate path.parent = .error kind) :
    disk.locate path = .error kind := by
  rcases path.parts_eq_nil_or_child with empty | ⟨name, isChild⟩
  · have isParent : path.parent = path := by
      rw [Path.parent, empty, List.dropLast_nil, ← empty]
    rw [← isParent, refused]
  · rw [isChild] at checked ⊢
    rw [locate_child checked, refused]
    rfl

/-- Only a path with a name that is not refused for its text can miss something. -/
theorem exists_child_of_missing {disk : Disk} (missing : disk.target path = .error .missing) :
    checkPath path = .ok () ∧ ∃ name, path = path.parent.child name := by
  cases checked : checkPath path with
  | error kind => exact absurd missing (target_of_refused_ne checked)
  | ok _ =>
      refine ⟨rfl, path.parts_eq_nil_or_child.resolve_left fun empty => ?_⟩
      rw [target_of_parts_eq_nil checked empty] at missing
      cases missing

/-- If a directory is missing for the path on the smaller disk, then it is missing on the larger
one, too, or it is there. -/
theorem Alongside.target_of_missing (alongside : Alongside foreign small large)
    (passable : IsPassable foreign path) (short : large.locate path ≠ .error .nameTooLong)
    (missing : small.target path = .error .missing) :
    large.target path = .error .missing ∨ large.isDirectory path.parent = .ok true := by
  obtain ⟨checked, name, isChild⟩ := exists_child_of_missing missing
  have passableParent := passable.parent
  generalize path.parent = parent at isChild passableParent ⊢
  subst isChild
  rw [target_child checked] at missing ⊢
  rw [locate_child checked] at short
  cases located : large.locate parent with
  | ok front =>
      cases kind : large.tree.kindAt? front with
      | none =>
          left
          simp only [bind, Except.bind, slot_eq, kind]
      | some isDirectory =>
          cases isDirectory with
          | true => exact .inr (isDirectory_eq_true_iff.mpr ⟨front, located, kind⟩)
          | false =>
              obtain ⟨located, isFile⟩ := alongside.locate_of_isFile passableParent located kind
              rw [located] at missing
              simp only [bind, Except.bind, slot_eq, isFile] at missing
              cases missing
  | error kind =>
      rw [located] at short
      rw [locate_of_checkPath (checkPath_of_child checked)] at located
      rcases foldlM_step_eq_error located with rfl | rfl | ⟨rfl, _⟩
      · exact .inl rfl
      · rw [← locate_of_checkPath (checkPath_of_child checked)] at located
        rw [alongside.locate_of_notDirectory passableParent located] at missing
        cases missing
      · exact absurd rfl short

end Disk

end DartRoutes
