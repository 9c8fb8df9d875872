import DartRoutes.Proofs.DiskGrowth

/-!
# What a disk refuses for good

When a file cannot be written, something that is there stands in its way: a file where a directory
should be, a directory where the file should be, or a name that is too long. As nothing goes away,
the file can never be written, and trying it again changes nothing.
-/

namespace DartRoutes

open Effect

namespace Disk

/-- Where a path makes something, and where it leads. -/
inductive Targets (disk : Disk) (path : Path) :
    Except FileFault.Kind (Option Place) → Except FileFault.Kind Place → Prop where
  | refused {kind : FileFault.Kind} : Targets disk path (.error kind) (.error kind)
  | start : path.parts = [] → Targets disk path (.ok none) (.ok (disk.start path))
  | directory {place : Place} :
      disk.tree.kindAt? place = some true →
      Targets disk path (.ok none) (.ok place)
  | present {place : Place} {kind : Bool} :
      disk.isDirectory path.parent = .ok true →
      disk.tree.kindAt? place = some kind →
      Targets disk path (.ok (some place)) (.ok place)
  | absent {place : Place} :
      disk.isDirectory path.parent = .ok true →
      disk.tree.kindAt? place = none →
      Targets disk path (.ok (some place)) (.error .missing)

theorem targets_child {disk : Disk} {parent : Path} {name : Text}
    (checked : checkPath (parent.child name) = .ok ()) :
    Targets disk (parent.child name) (disk.target (parent.child name))
      (disk.locate (parent.child name)) := by
  rw [target_child checked, locate_child checked]
  cases located : disk.locate parent with
  | error kind => exact .refused
  | ok front =>
      simp only [bind, Except.bind, step]
      rw [slot_eq]
      cases found : disk.tree.kindAt? front with
      | none => exact .refused
      | some kind =>
          cases kind with
          | false => exact .refused
          | true =>
              dsimp only
              split
              · exact .directory (FileTree.kindAt?_dropLast found)
              · split
                · exact .refused
                · have inside : disk.isDirectory (parent.child name).parent = .ok true := by
                    rw [Path.parent_child]
                    exact isDirectory_eq_true_iff.mpr ⟨front, located, found⟩
                  dsimp only
                  rw [← FileTree.isSome_kindAt?]
                  cases kind : disk.tree.kindAt? (front ++ [name]) with
                  | none => exact .absent inside kind
                  | some kindThere => exact .present inside kind

theorem targets (disk : Disk) (path : Path) :
    Targets disk path (disk.target path) (disk.locate path) := by
  cases checked : checkPath path with
  | error kind =>
      rw [target_of_refused checked, locate_of_refused checked]
      exact .refused
  | ok _ =>
      rcases path.parts_eq_nil_or_child with empty | ⟨name, isChild⟩
      · rw [target_of_parts_eq_nil checked empty, locate_of_parts_eq_nil checked empty]
        exact .start empty
      · generalize path.parent = parent at isChild
        subst isChild
        exact targets_child checked

theorem target_of_locate_error {disk : Disk} {path : Path} {kind : FileFault.Kind}
    (refused : disk.locate path = .error kind) (settled : kind ≠ .missing) :
    disk.target path = .error kind := by
  have targeted := disk.targets path
  rw [refused] at targeted
  generalize disk.target path = result at targeted
  cases targeted with
  | refused => rfl
  | absent => exact absurd rfl settled

theorem locate_of_target {disk : Disk} {path : Path} {place : Place} {kind : Bool}
    (targeted : disk.target path = .ok (some place))
    (found : disk.tree.kindAt? place = some kind) : disk.locate path = .ok place := by
  have leads := disk.targets path
  rw [targeted] at leads
  generalize disk.locate path = result at leads
  cases leads with
  | present => rfl
  | absent _ absent =>
      rw [found] at absent
      cases absent

theorem isDirectory_parent_of_target {disk : Disk} {path : Path} {place : Place}
    (targeted : disk.target path = .ok (some place)) :
    disk.isDirectory path.parent = .ok true := by
  have leads := disk.targets path
  rw [targeted] at leads
  generalize disk.locate path = result at leads
  cases leads with
  | present inside _ => exact inside
  | absent inside _ => exact inside

/-- No directory can ever be made at the path: there is a file, or something that is there refuses
the path on the way. -/
inductive Blocked (disk : Disk) (path : Path) : Prop where
  | refused {kind : FileFault.Kind} :
      disk.locate path = .error kind →
      kind ≠ .missing →
      kind ≠ .nullCharacter →
      Blocked disk path
  | file {place : Place} :
      disk.locate path = .ok place →
      disk.tree.kindAt? place = some false →
      Blocked disk path

theorem Blocked.grow {before after : Disk} {path : Path} (blocked : Blocked before path)
    (grows : Grows before after) : Blocked after path := by
  cases blocked with
  | @refused kind located settled clean =>
      refine .refused ?_ settled clean
      rw [grows.locate_eq (by rw [located]; simpa using settled), located]
  | file located isFile => exact .file (grows.locate_of_ok located) (grows.kept _ _ isFile)

/-- What stands in the way of a parent stands in the way of everything in it. -/
theorem Blocked.child {disk : Disk} {path : Path} {name : Text} (blocked : Blocked disk path)
    (checked : checkPath (path.child name) = .ok ()) : Blocked disk (path.child name) := by
  cases blocked with
  | @refused kind located settled clean =>
      refine .refused ?_ settled clean
      rw [locate_child checked, located]
      rfl
  | @file place located isFile =>
      refine .refused ?_ (nofun : FileFault.Kind.notDirectory ≠ .missing) nofun
      rw [locate_child checked, located]
      simp only [bind, Except.bind, step, slot_eq, isFile]

theorem unlessDirectory_run (path : Path) (fault : FileFault) (disk : Disk) :
    unlessDirectory path fault disk =
      if fault.kind = .nullCharacter then .error fault disk
      else match disk.isDirectory path with
        | .ok true => .ok () disk
        | .ok false => .error fault disk
        | .error other => .error other disk := by
  rw [unlessDirectory]
  split
  · rfl
  · simp only [bind_run, ask, get_run]
    cases disk.isDirectory path with
    | error other => rfl
    | ok isDirectory => cases isDirectory <;> rfl

/-- A directory is made, or found, in a place whose parent is there. -/
def attemptDirectory (path : Path) : Change Unit :=
  tryCatch (makeDirectory path) (unlessDirectory path)

theorem attemptDirectory_of_isDirectory {disk : Disk} {path : Path}
    (isThere : disk.isDirectory path = .ok true) :
    makeDirectory path disk = .error ⟨.present, path⟩ disk ∧
      attemptDirectory path disk = .ok () disk := by
  obtain ⟨place, located, found⟩ := isDirectory_eq_true_iff.mp isThere
  have made : makeDirectory path disk = .error ⟨.present, path⟩ disk := by
    rw [makeDirectory_run]
    have leads := disk.targets path
    rw [located] at leads
    generalize disk.target path = result at leads
    cases leads with
    | start => rfl
    | directory => rfl
    | present _ kind =>
        dsimp only
        rw [← FileTree.isSome_kindAt?, kind]
        rfl
  refine ⟨made, ?_⟩
  rw [attemptDirectory, tryCatch_of_error made, unlessDirectory_run, isThere]
  rfl

theorem makeDirectories_of_isDirectory {disk : Disk} {path : Path}
    (isThere : disk.isDirectory path = .ok true) : makeDirectories path disk = .ok () disk := by
  obtain ⟨made, attempted⟩ := attemptDirectory_of_isDirectory isThere
  rw [makeDirectories]
  cases path.parts.length with
  | zero => exact attempted
  | succ depth =>
      rw [attemptDirectory, tryCatch_of_error made] at attempted
      rw [makeDirectoriesWithin, tryCatch_of_error made, if_neg nofun]
      exact attempted

theorem isDirectory_of_makeDirectory {path : Path} {before later : Disk}
    (made : makeDirectory path before = .ok () later) : later.isDirectory path = .ok true := by
  have grows := (makeDirectory_grows path).of_ok made
  rw [makeDirectory_run] at made
  split at made
  · cases made
  · cases made
  · rename_i place targeted
    split at made
    · cases made
    · cases made
      obtain ⟨_, _, front, name, entries, rfl, isDirectory⟩ := target_eq_some targeted
      have found : (before.tree.put (front ++ [name]) .empty).kindAt? (front ++ [name]) =
          some true := by
        rw [FileTree.kindAt?, FileTree.at?_put_of_directory _ isDirectory]
        rfl
      have located := locate_of_target (grows.target_of_ok targeted) found
      exact isDirectory_eq_true_iff.mpr ⟨front ++ [name], located, found⟩

theorem isDirectory_of_attemptDirectory {path : Path} {before later : Disk}
    (attempted : attemptDirectory path before = .ok () later) :
    later.isDirectory path = .ok true := by
  cases made : makeDirectory path before with
  | ok _ middle =>
      rw [attemptDirectory, tryCatch_of_ok made] at attempted
      cases attempted
      exact isDirectory_of_makeDirectory made
  | error fault middle =>
      rw [attemptDirectory, tryCatch_of_error made, unlessDirectory_run] at attempted
      split at attempted
      · cases attempted
      · split at attempted
        · cases attempted
          assumption
        · cases attempted
        · cases attempted

theorem isDirectory_of_makeDirectoriesWithin {depth : Nat} {path : Path} {before later : Disk}
    (made : makeDirectoriesWithin depth path before = .ok () later) :
    later.isDirectory path = .ok true := by
  cases depth with
  | zero => exact isDirectory_of_attemptDirectory made
  | succ depth =>
      cases tried : makeDirectory path before with
      | ok _ middle =>
          rw [makeDirectoriesWithin, tryCatch_of_ok tried] at made
          cases made
          exact isDirectory_of_makeDirectory tried
      | error fault middle =>
          have attempted : attemptDirectory path before = unlessDirectory path fault middle :=
            tryCatch_of_error tried
          rw [makeDirectoriesWithin, tryCatch_of_error tried] at made
          split at made
          · obtain ⟨_, _, _, again⟩ := bind_eq_ok_iff.mp made
            exact isDirectory_of_attemptDirectory again
          · rw [← attempted] at made
            exact isDirectory_of_attemptDirectory made

theorem Blocked.not_isDirectory {disk : Disk} {path : Path} (blocked : Blocked disk path) :
    disk.isDirectory path ≠ .ok true := by
  intro isThere
  obtain ⟨place, located, found⟩ := isDirectory_eq_true_iff.mp isThere
  cases blocked with
  | refused refused _ _ =>
      rw [located] at refused
      cases refused
  | file leads isFile =>
      rw [located] at leads
      cases leads
      rw [found] at isFile
      cases isFile

theorem Blocked.makeDirectory {disk : Disk} {path : Path} (blocked : Blocked disk path) :
    ∃ kind, Disk.makeDirectory path disk = .error ⟨kind, path⟩ disk ∧
      kind ≠ .missing ∧ kind ≠ .nullCharacter := by
  rw [makeDirectory_run]
  cases blocked with
  | @refused kind located settled clean =>
      rw [target_of_locate_error located settled]
      exact ⟨kind, rfl, settled, clean⟩
  | file located isFile =>
      have leads := disk.targets path
      rw [located] at leads
      generalize disk.target path = result at leads
      cases leads with
      | start => exact ⟨.present, rfl, nofun, nofun⟩
      | directory => exact ⟨.present, rfl, nofun, nofun⟩
      | present _ _ =>
          dsimp only
          rw [← FileTree.isSome_kindAt?, isFile]
          exact ⟨.present, rfl, nofun, nofun⟩

theorem unlessDirectory_of_not {disk : Disk} {path : Path} {fault : FileFault}
    (isNo : disk.isDirectory path ≠ .ok true) (ofDisk : IsOfDisk fault) :
    ∃ other, unlessDirectory path fault disk = .error other disk ∧ IsOfDisk other := by
  have refused : ∃ other, unlessDirectory path fault disk = .error other disk := by
    rw [unlessDirectory_run, if_neg ofDisk]
    split
    · rename_i isThere
      exact absurd isThere isNo
    · exact ⟨_, rfl⟩
    · exact ⟨_, rfl⟩
  obtain ⟨other, failed⟩ := refused
  exact ⟨other, failed, unlessDirectory_confined path ofDisk _ _ _ failed⟩

theorem Blocked.makeDirectories {disk : Disk} {path : Path} (blocked : Blocked disk path) :
    ∃ fault, Disk.makeDirectories path disk = .error fault disk ∧ IsOfDisk fault := by
  obtain ⟨kind, made, settled, clean⟩ := blocked.makeDirectory
  have isOfDisk : IsOfDisk ⟨kind, path⟩ := clean
  obtain ⟨fault, refused, ofDisk⟩ := unlessDirectory_of_not blocked.not_isDirectory isOfDisk
  refine ⟨fault, ?_, ofDisk⟩
  rw [Disk.makeDirectories]
  cases path.parts.length with
  | zero => rw [makeDirectoriesWithin, tryCatch_of_error made, refused]
  | succ depth => rw [makeDirectoriesWithin, tryCatch_of_error made, if_neg settled, refused]

/-- There is something where a path starts. -/
def IsGrounded (disk : Disk) (path : Path) : Prop :=
  ∃ kind, disk.tree.kindAt? (disk.start path) = some kind

theorem IsGrounded.grow {before after : Disk} {path : Path} (grounded : IsGrounded before path)
    (grows : Grows before after) : IsGrounded after path := by
  obtain ⟨kind, found⟩ := grounded
  refine ⟨kind, ?_⟩
  rw [grows.start_eq]
  exact grows.kept _ _ found

theorem unlessDirectory_of_error {path : Path} {fault other : FileFault} {before later : Disk}
    (failed : unlessDirectory path fault before = .error other later) :
    later = before ∧ (other = fault ∧ fault.kind = .nullCharacter ∨
      fault.kind ≠ .nullCharacter ∧ before.isDirectory path ≠ .ok true) := by
  rw [unlessDirectory_run] at failed
  split at failed
  · cases failed
    exact ⟨rfl, .inl ⟨rfl, ‹_›⟩⟩
  · rename_i clean
    split at failed
    · cases failed
    · rename_i isNo
      cases failed
      exact ⟨rfl, .inr ⟨clean, by rw [isNo]; nofun⟩⟩
    · rename_i isNo
      cases failed
      exact ⟨rfl, .inr ⟨clean, by rw [isNo]; nofun⟩⟩

theorem blocked_of_located {disk : Disk} {path : Path} {place : Place} {kind : Bool}
    (located : disk.locate path = .ok place) (found : disk.tree.kindAt? place = some kind)
    (isNo : disk.isDirectory path ≠ .ok true) : Blocked disk path := by
  cases kind with
  | true => exact absurd (isDirectory_eq_true_iff.mpr ⟨place, located, found⟩) isNo
  | false => exact .file located found

/-- A directory that cannot be made although nothing is missing is blocked. -/
theorem blocked_of_attemptDirectory {path : Path} {before later : Disk} {fault : FileFault}
    (grounded : IsGrounded before path) (settled : before.target path ≠ .error .missing)
    (failed : attemptDirectory path before = .error fault later) (ofDisk : IsOfDisk fault) :
    later = before ∧ Blocked before path := by
  cases tried : makeDirectory path before with
  | ok _ middle =>
      rw [attemptDirectory, tryCatch_of_ok tried] at failed
      cases failed
  | error first middle =>
      rw [attemptDirectory, tryCatch_of_error tried] at failed
      rw [makeDirectory_run] at tried
      have leads := before.targets path
      generalize located : before.locate path = result at leads
      cases targeted : before.target path with
      | error kind =>
          rw [targeted] at tried leads settled
          cases tried
          cases leads
          obtain ⟨rfl, ⟨rfl, isNull⟩ | ⟨clean, _⟩⟩ := unlessDirectory_of_error failed
          · exact absurd isNull ofDisk
          · exact ⟨rfl, .refused located (fun missing => settled (missing ▸ rfl)) clean⟩
      | ok place? =>
          rw [targeted] at tried leads
          have present : first = ⟨.present, path⟩ ∧ middle = before ∧
              ∃ place kind, result = .ok place ∧ before.tree.kindAt? place = some kind := by
            cases leads with
            | start =>
                obtain ⟨kind, found⟩ := grounded
                cases tried
                exact ⟨rfl, rfl, _, kind, rfl, found⟩
            | directory found =>
                cases tried
                exact ⟨rfl, rfl, _, true, rfl, found⟩
            | @present place kind _ found =>
                dsimp only at tried
                rw [← FileTree.isSome_kindAt?, found] at tried
                cases tried
                exact ⟨rfl, rfl, place, kind, rfl, found⟩
            | absent _ absent =>
                dsimp only at tried
                rw [← FileTree.isSome_kindAt?, absent] at tried
                cases tried
          obtain ⟨rfl, rfl, place, kind, rfl, found⟩ := present
          obtain ⟨rfl, ⟨_, isNull⟩ | ⟨_, isNo⟩⟩ := unlessDirectory_of_error failed
          · cases isNull
          · exact ⟨rfl, blocked_of_located located found isNo⟩

theorem makeDirectory_of_missing {path : Path} {before middle : Disk} {fault : FileFault}
    (tried : makeDirectory path before = .error fault middle) :
    middle = before ∧ (fault.kind = .missing → before.target path = .error .missing) ∧
      (fault.kind ≠ .missing → before.target path ≠ .error .missing) := by
  rw [makeDirectory_run] at tried
  split at tried
  · rename_i kind targeted
    cases tried
    rw [targeted]
    refine ⟨rfl, fun missing => congrArg _ missing, fun settled missing => ?_⟩
    cases missing
    exact settled rfl
  · rename_i targeted
    cases tried
    rw [targeted]
    exact ⟨rfl, nofun, nofun⟩
  · rename_i targeted
    rw [targeted]
    split at tried
    · cases tried
      exact ⟨rfl, nofun, nofun⟩
    · cases tried

theorem target_of_refused_ne {disk : Disk} {path : Path} {kind : FileFault.Kind}
    (refused : checkPath path = .error kind) : disk.target path ≠ .error .missing := by
  rw [target_of_refused refused]
  intro missing
  cases missing
  rw [checkPath] at refused
  split at refused
  · cases refused
  · split at refused <;> cases refused

theorem target_of_isDirectory_parent {disk : Disk} {path : Path}
    (inside : disk.isDirectory path.parent = .ok true) : disk.target path ≠ .error .missing := by
  cases checked : checkPath path with
  | error kind => exact target_of_refused_ne checked
  | ok _ =>
      rcases path.parts_eq_nil_or_child with empty | ⟨name, isChild⟩
      · rw [target_of_parts_eq_nil checked empty]
        nofun
      · generalize path.parent = parent at isChild inside
        subst isChild
        obtain ⟨place, located, found⟩ := isDirectory_eq_true_iff.mp inside
        rw [target_child checked, located]
        simp only [bind, Except.bind, slot_eq, found]
        split
        · nofun
        · split <;> nofun

/-- What stands in the way of a parent stands in the way of a path for which something was
missing. -/
theorem Blocked.ofParent {before later : Disk} {path : Path} (blocked : Blocked later path.parent)
    (missing : before.target path = .error .missing) : Blocked later path := by
  cases checked : checkPath path with
  | error kind => exact absurd missing (target_of_refused_ne checked)
  | ok _ =>
      rcases path.parts_eq_nil_or_child with empty | ⟨name, isChild⟩
      · rw [target_of_parts_eq_nil checked empty] at missing
        cases missing
      · generalize path.parent = parent at isChild blocked
        subst isChild
        exact blocked.child checked

/-- If the directories on the way to a path are not made, one of them is blocked for good. -/
theorem blocked_of_makeDirectoriesWithin {depth : Nat} {path : Path} {before later : Disk}
    {fault : FileFault} (deep : path.parts.length ≤ depth) (grounded : IsGrounded before path)
    (failed : makeDirectoriesWithin depth path before = .error fault later)
    (ofDisk : IsOfDisk fault) : Blocked later path := by
  induction depth generalizing path fault later with
  | zero =>
      have empty : path.parts = [] := List.eq_nil_of_length_eq_zero (Nat.le_zero.mp deep)
      have settled : before.target path ≠ .error .missing := by
        cases checked : checkPath path with
        | ok _ =>
            rw [target_of_parts_eq_nil checked empty]
            nofun
        | error kind => exact target_of_refused_ne checked
      obtain ⟨rfl, blocked⟩ := blocked_of_attemptDirectory grounded settled failed ofDisk
      exact blocked
  | succ depth induction =>
      cases tried : makeDirectory path before with
      | ok _ middle =>
          rw [makeDirectoriesWithin, tryCatch_of_ok tried] at failed
          cases failed
      | error first middle =>
          obtain ⟨rfl, missing, settled⟩ := makeDirectory_of_missing tried
          rw [makeDirectoriesWithin, tryCatch_of_error tried] at failed
          split at failed
          · rename_i isMissing
            rcases bind_eq_error_iff.mp failed with stopped | ⟨_, made, parentMade, again⟩
            · have shorter : path.parent.parts.length ≤ depth := by
                rw [Path.parent, List.length_dropLast]
                omega
              have blocked := induction shorter grounded stopped ofDisk
              exact blocked.ofParent (missing isMissing)
            · have grows := (makeDirectoriesWithin_keeps makeDirectory_grows _ _).of_ok parentMade
              have settled := target_of_isDirectory_parent
                (isDirectory_of_makeDirectoriesWithin parentMade)
              obtain ⟨rfl, blocked⟩ :=
                blocked_of_attemptDirectory (grounded.grow grows) settled again ofDisk
              exact blocked
          · rename_i isThere
            have attempted : attemptDirectory path middle = .error fault later := by
              rw [attemptDirectory, tryCatch_of_error tried]
              exact failed
            obtain ⟨rfl, blocked⟩ :=
              blocked_of_attemptDirectory grounded (settled isThere) attempted ofDisk
            exact blocked

/-- A file can never be written at the path: its directory is blocked, its name is none that the
directory can hold, or there is a directory in its place. -/
inductive Barred (disk : Disk) (path : Path) : Prop where
  | outside : Blocked disk path.parent → Barred disk path
  | refused {kind : FileFault.Kind} :
      disk.isDirectory path.parent = .ok true →
      disk.target path = .error kind →
      kind ≠ .nullCharacter →
      Barred disk path
  | noName :
      disk.isDirectory path.parent = .ok true →
      disk.target path = .ok none →
      Barred disk path
  | occupied {place : Place} :
      disk.target path = .ok (some place) →
      disk.tree.kindAt? place = some true →
      Barred disk path

theorem Barred.grow {before after : Disk} {path : Path} (barred : Barred before path)
    (grows : Grows before after) : Barred after path := by
  cases barred with
  | outside blocked => exact .outside (blocked.grow grows)
  | refused inside targeted clean =>
      refine .refused (grows.isDirectory inside) ?_ clean
      rw [grows.target_eq (target_of_isDirectory_parent inside), targeted]
  | noName inside targeted =>
      refine .noName (grows.isDirectory inside) ?_
      rw [grows.target_eq (target_of_isDirectory_parent inside), targeted]
  | occupied targeted isDirectory =>
      exact .occupied (grows.target_of_ok targeted) (grows.kept _ _ isDirectory)

theorem Barred.writeDeepFile {disk : Disk} {path : Path} (barred : Barred disk path)
    (content : Bytes) :
    ∃ fault, Disk.writeDeepFile path content disk = .error fault disk ∧ IsOfDisk fault := by
  have inside : ∀ fault, disk.isDirectory path.parent = .ok true →
      writeFile path content disk = .error fault disk →
        Disk.writeDeepFile path content disk = .error fault disk := by
    intro fault isThere refused
    exact (bind_of_ok (makeDirectories_of_isDirectory isThere)).trans refused
  cases barred with
  | outside blocked =>
      obtain ⟨fault, failed, ofDisk⟩ := blocked.makeDirectories
      exact ⟨fault, bind_of_error failed, ofDisk⟩
  | @refused kind isThere targeted clean =>
      refine ⟨⟨kind, path⟩, inside _ isThere ?_, clean⟩
      rw [writeFile_run, targeted]
  | noName isThere targeted =>
      refine ⟨⟨.isDirectory, path⟩, inside _ isThere ?_, nofun⟩
      rw [writeFile_run, targeted]
  | @occupied place targeted isDirectory =>
      refine ⟨⟨.isDirectory, path⟩, inside _ (isDirectory_parent_of_target targeted) ?_, nofun⟩
      obtain ⟨entries, found⟩ := FileTree.kindAt?_eq_true_iff.mp isDirectory
      rw [writeFile_run, targeted]
      dsimp only
      rw [found]
      rfl

/-- A file that is refused by the disk is barred from then on. -/
theorem barred_of_writeDeepFile {path : Path} {content : Bytes} {before later : Disk}
    {fault : FileFault} (grounded : IsGrounded before path)
    (failed : writeDeepFile path content before = .error fault later) (ofDisk : IsOfDisk fault) :
    Barred later path := by
  rcases bind_eq_error_iff.mp failed with stopped | ⟨_, middle, made, unwritten⟩
  · exact .outside (blocked_of_makeDirectoriesWithin (Nat.le_refl _) grounded stopped ofDisk)
  · have inside := isDirectory_of_makeDirectoriesWithin made
    obtain rfl := writeFile_of_error unwritten
    rw [writeFile_run] at unwritten
    split at unwritten
    · rename_i kind targeted
      cases unwritten
      exact .refused inside targeted ofDisk
    · rename_i targeted
      exact .noName inside targeted
    · rename_i place targeted
      split at unwritten
      · rename_i isDirectory
        refine .occupied targeted (FileTree.kindAt?_eq_true_iff.mpr ?_)
        cases found : later.tree.at? place with
        | none =>
            rw [found] at isDirectory
            cases isDirectory
        | some tree =>
            cases tree with
            | file content =>
                rw [found] at isDirectory
                cases isDirectory
            | directory entries => exact ⟨entries, rfl⟩
      · cases unwritten

/-- The file at a path has a content. -/
structure Holds (disk : Disk) (path : Path) (content : Bytes) : Prop where
  targeted : disk.target path = .ok (some (disk.placeOf path))
  found : disk.tree.contentAt? (disk.placeOf path) = some content

theorem holds_of_writeDeepFile {path : Path} {content : Bytes} {before later : Disk}
    (written : writeDeepFile path content before = .ok () later) : Holds later path content := by
  obtain ⟨_, rewritten⟩ := writeDeepFile_of_ok written
  obtain ⟨_, middle, made, wrote⟩ := bind_eq_ok_iff.mp written
  have grows := (writeFile_grows path content).of_ok wrote
  have samePlace := placeOf_of_directory_eq rewritten.directory path
  rw [writeFile_run] at wrote
  split at wrote
  · cases wrote
  · cases wrote
  · rename_i place targeted
    have isPlace := (target_eq_some targeted).1
    refine ⟨?_, by rw [samePlace]; exact rewritten.written⟩
    rw [grows.target_of_ok targeted, isPlace, ← placeOf_of_directory_eq grows.directory]

theorem Holds.kindAt? {disk : Disk} {path : Path} {content : Bytes}
    (holds : Holds disk path content) :
    disk.tree.kindAt? (disk.placeOf path) = some false :=
  FileTree.kindAt?_eq_false_iff.mpr ⟨content, FileTree.contentAt?_eq_some_iff.mp holds.found⟩

theorem Holds.writeDeepFile {disk : Disk} {path : Path} {content : Bytes}
    (holds : Holds disk path content) :
    Disk.writeDeepFile path content disk = .ok () disk := by
  have found := FileTree.contentAt?_eq_some_iff.mp holds.found
  have made := makeDirectories_of_isDirectory (isDirectory_parent_of_target holds.targeted)
  refine (bind_of_ok made).trans ?_
  rw [writeFile_run, holds.targeted]
  dsimp only
  rw [found]
  simp only [Option.any_some, FileTree.isDirectory, Bool.false_eq_true, if_false,
    FileTree.put_eq_self found]

theorem Holds.grow {before after : Disk} {path : Path} {content : Bytes}
    (holds : Holds before path content) (grows : Grows before after)
    (same : after.tree.contentAt? (before.placeOf path) =
      before.tree.contentAt? (before.placeOf path)) : Holds after path content := by
  have samePlace := placeOf_of_directory_eq grows.directory path
  refine ⟨?_, by rw [samePlace, same, holds.found]⟩
  rw [grows.target_of_ok holds.targeted, samePlace]

theorem Holds.pathExists {disk : Disk} {path : Path} {content : Bytes}
    (holds : Holds disk path content) : disk.pathExists path = .ok true :=
  pathExists_eq_true_iff.mpr
    ⟨_, false, locate_of_target holds.targeted holds.kindAt?, holds.kindAt?⟩

/-- There is something at the path, or there will never be a file. -/
def Settled (disk : Disk) (path : Path) : Prop :=
  disk.pathExists path = .ok true ∨ Barred disk path

end Disk

end DartRoutes
