import DartRoutes.Proofs.ActionAgreement
import DartRoutes.Proofs.DiskAlongside

/-!
# Writing next to foreign files

A file whose path is apart from the foreign ones is written in the same way on a disk and on a
larger one with foreign files, if the larger disk has nothing at the path: the same directories and
the same file come to both of them, or both refuse the file with the same fault.
-/

namespace DartRoutes

open Effect

namespace FileTree

/-- What is put into a directory where no directory was is all that changes its kind. -/
theorem kindAt?_put_of_bare {tree new : FileTree} {front : Place} {name : Text}
    (inside : tree.kindAt? front = some true) (free : tree.kindAt? (front ++ [name]) ≠ some true)
    (bare : ∀ next rest, new.at? (next :: rest) = none) (place : Place) :
    (tree.put (front ++ [name]) new).kindAt? place =
      if place = front ++ [name] then some new.isDirectory else tree.kindAt? place := by
  obtain ⟨entries, found⟩ := kindAt?_eq_true_iff.mp inside
  have here : (tree.put (front ++ [name]) new).kindAt? (front ++ [name]) =
      some new.isDirectory := by
    rw [kindAt?, at?_put_of_directory new found]
    rfl
  split
  · rename_i same
    rw [same, here]
  · rename_i different
    by_cases below : front ++ [name] <+: place
    · -- Below a new file or a new directory there is nothing, and neither was before.
      obtain ⟨rest, rfl⟩ := below
      obtain ⟨next, rest, rfl⟩ := List.exists_cons_of_ne_nil
        (fun empty : rest = [] => different (by rw [empty, List.append_nil]))
      have nothing : tree.kindAt? (front ++ [name] ++ next :: rest) = none := by
        cases old : tree.kindAt? (front ++ [name] ++ next :: rest) with
        | none => rfl
        | some kind =>
            have wasDirectory :=
              kindAt?_of_prefix old (List.prefix_append _ _) (Ne.symm different)
            exact absurd wasDirectory free
      rw [nothing, kindAt?, at?_append, at?_put_of_directory new found, Option.bind_some, bare]
      rfl
    · by_cases above : place <+: front ++ [name]
      · have wasDirectory : tree.kindAt? place = some true := by
          rcases List.prefix_concat_iff.mp above with same | above
          · exact absurd same different
          · by_cases same : place = front
            · rw [same, inside]
            · exact kindAt?_of_prefix inside above same
        rw [wasDirectory]
        exact kindAt?_of_prefix here above different
      · rw [kindAt?, at?_put_of_apart _ _ below above, kindAt?]

end FileTree

namespace Disk

/-- Something of a kind has come to a place, and nothing else has changed its kind. -/
structure Brings (place : Place) (kind : Bool) (before after : Disk) : Prop where
  grows : Grows before after
  kindAt? : ∀ other, after.tree.kindAt? other =
    if other = place then some kind else before.tree.kindAt? other

variable {foreign : Path → Prop} {small large : Disk} {path : Path}

theorem makeDirectory_brings {disk : Disk} {place : Place}
    (targeted : disk.target path = .ok (some place)) (free : disk.tree.kindAt? place = none) :
    ∃ later, makeDirectory path disk = .ok () later ∧ Brings place true disk later ∧
      SameFiles disk later := by
  obtain ⟨_, _, front, name, entries, rfl, isDirectory⟩ := target_eq_some targeted
  have inside := FileTree.kindAt?_eq_true_iff.mpr ⟨entries, isDirectory⟩
  have made : makeDirectory path disk =
      .ok () { disk with tree := disk.tree.put (front ++ [name]) .empty } := by
    rw [makeDirectory_run, targeted]
    dsimp only
    rw [← FileTree.isSome_kindAt?, free]
    rfl
  refine ⟨_, made, ⟨(makeDirectory_grows path).of_ok made, ?_⟩,
    (makeDirectory_keeps path).of_ok made⟩
  exact FileTree.kindAt?_put_of_bare inside (by rw [free]; nofun) fun _ _ => rfl

theorem writeFile_brings {disk : Disk} {place : Place} (content : Bytes)
    (targeted : disk.target path = .ok (some place))
    (free : disk.tree.kindAt? place ≠ some true) :
    ∃ later, writeFile path content disk = .ok () later ∧ Brings place false disk later ∧
      Rewritten place content disk later := by
  obtain ⟨isPlace, _, front, name, entries, rfl, isDirectory⟩ := target_eq_some targeted
  have inside := FileTree.kindAt?_eq_true_iff.mpr ⟨entries, isDirectory⟩
  have isOpen : (disk.tree.at? (front ++ [name])).any FileTree.isDirectory = false := by
    cases found : disk.tree.at? (front ++ [name]) with
    | none => rfl
    | some tree =>
        cases tree with
        | file old => rfl
        | directory entries => exact absurd (by rw [FileTree.kindAt?, found]; rfl) free
  have wrote : writeFile path content disk =
      .ok () { disk with tree := disk.tree.put (front ++ [name]) (.file content) } := by
    rw [writeFile_run, targeted]
    simp only [isOpen, Bool.false_eq_true, if_false]
  refine ⟨_, wrote, ⟨(writeFile_grows path content).of_ok wrote, ?_⟩, ?_⟩
  · exact FileTree.kindAt?_put_of_bare inside free fun _ _ => rfl
  · have rewritten := (writeFile_of_ok wrote).2
    rw [← isPlace] at rewritten
    exact rewritten

theorem writeFile_of_occupied {disk : Disk} {place : Place} (content : Bytes)
    (targeted : disk.target path = .ok (some place))
    (isDirectory : disk.tree.kindAt? place = some true) :
    writeFile path content disk = .error ⟨.isDirectory, path⟩ disk := by
  obtain ⟨entries, found⟩ := FileTree.kindAt?_eq_true_iff.mp isDirectory
  rw [writeFile_run, targeted]
  simp only [found, Option.any_some, FileTree.isDirectory, if_true]

/-- What comes to both disks keeps one of them alongside the other. -/
theorem Alongside.bring (alongside : Alongside foreign small large) {place : Place} {kind : Bool}
    {smallLater largeLater : Disk} (bringsSmall : Brings place kind small smallLater)
    (bringsLarge : Brings place kind large largeLater)
    (same : ∀ other, (∀ path, foreign path → small.placeOf path ≠ other) →
      largeLater.tree.contentAt? other = smallLater.tree.contentAt? other) :
    Alongside foreign smallLater largeLater where
  hasDirectory := alongside.hasDirectory.grow bringsSmall.grows
  grows := by
    constructor
    · rw [bringsLarge.grows.directory, alongside.grows.directory, bringsSmall.grows.directory]
    · intro other kind found
      rw [bringsSmall.kindAt?] at found
      rw [bringsLarge.kindAt?]
      split
      · rename_i here
        rw [if_pos here] at found
        exact found
      · rename_i elsewhere
        rw [if_neg elsewhere] at found
        exact alongside.grows.kept other kind found
  content other apart := by
    apply same other
    intro path isForeign
    rw [← placeOf_of_directory_eq bringsSmall.grows.directory]
    exact apart path isForeign
  along other isDirectory := by
    rw [bringsLarge.kindAt?] at isDirectory
    rw [bringsSmall.kindAt?]
    split
    · rename_i here
      rw [if_pos here] at isDirectory
      exact .inl isDirectory
    · rename_i elsewhere
      rw [if_neg elsewhere] at isDirectory
      rcases alongside.along other isDirectory with old | ⟨path, isForeign, crosses⟩
      · exact .inl old
      · rw [← crosses_of_directory_eq bringsSmall.grows.directory] at crosses
        exact .inr ⟨path, isForeign, crosses⟩

/-- A directory of the larger disk can come to the smaller one. -/
theorem Alongside.catchUp (alongside : Alongside foreign small large) {place : Place} {later : Disk}
    (brings : Brings place true small later) (same : SameFiles small later)
    (isThere : large.tree.kindAt? place = some true) : Alongside foreign later large := by
  refine alongside.bring brings ⟨Std.Refl.refl large, fun other => ?_⟩ fun other apart => ?_
  · split
    · rename_i here
      rw [here, isThere]
    · rfl
  · rw [same.content, alongside.content other apart]

theorem HasDirectory.kindAt?_of_locate {disk : Disk} (has : disk.HasDirectory) {place : Place}
    (located : disk.locate path = .ok place) : ∃ kind, disk.tree.kindAt? place = some kind := by
  have leads := disk.targets path
  rw [located] at leads
  generalize disk.target path = result at leads
  cases leads with
  | start => exact ⟨true, has.kindAt?_start path⟩
  | directory isDirectory => exact ⟨true, isDirectory⟩
  | present _ found => exact ⟨_, found⟩

theorem isDirectory_of_locate_error {disk other : Disk} {kind : FileFault.Kind}
    (refused : disk.locate path = .error kind) (otherRefused : other.locate path = .error kind) :
    disk.isDirectory path = other.isDirectory path := by
  rw [isDirectory, isDirectory, find?, find?, find, find, refused, otherRefused]
  rfl

theorem Alongside.isDirectory_eq (alongside : Alongside foreign small large)
    (settled : small.locate path ≠ .error .missing) :
    large.isDirectory path = small.isDirectory path := by
  have sameLocation := alongside.grows.locate_eq settled
  cases located : small.locate path with
  | error kind =>
      rw [located] at sameLocation
      exact isDirectory_of_locate_error sameLocation located
  | ok place =>
      obtain ⟨kind, found⟩ := alongside.hasDirectory.kindAt?_of_locate located
      have largeFound := alongside.grows.kept place kind found
      rw [located] at sameLocation
      rw [FileTree.kindAt?, Option.map_eq_some_iff] at found largeFound
      obtain ⟨tree, found, rfl⟩ := found
      obtain ⟨largeTree, largeFound, sameKind⟩ := largeFound
      rw [isDirectory, isDirectory, find?, find?, find, find, sameLocation, located]
      simp only [bind, Except.bind, found, largeFound, pure, Except.pure, Functor.map, Except.map,
        Option.any_some, sameKind]

theorem Alongside.attemptDirectory_of_error (alongside : Alongside foreign small large)
    {fault : FileFault}
    (tried : makeDirectory path small = .error fault small)
    (largeTried : makeDirectory path large = .error fault large)
    (settled : small.locate path ≠ .error .missing) :
    Agree (Alongside foreign) (attemptDirectory path small) (attemptDirectory path large) := by
  rw [attemptDirectory, tryCatch_of_error tried, tryCatch_of_error largeTried, unlessDirectory_run,
    unlessDirectory_run, alongside.isDirectory_eq settled]
  split
  · exact .error alongside
  · cases small.isDirectory path with
    | error other => exact .error alongside
    | ok isThere =>
        cases isThere with
        | true => exact .ok alongside
        | false => exact .error alongside

theorem makeDirectory_of_present {disk : Disk} {place : Place} {kind : Bool}
    (targeted : disk.target path = .ok (some place))
    (found : disk.tree.kindAt? place = some kind) :
    makeDirectory path disk = .error ⟨.present, path⟩ disk := by
  rw [makeDirectory_run, targeted]
  dsimp only
  rw [← FileTree.isSome_kindAt?, found]
  rfl

/-- A directory that the smaller disk makes comes to the larger one, too, or is there already. -/
theorem Alongside.attemptDirectory_of_absent (alongside : Alongside foreign small large)
    (passable : IsPassable foreign path) {place : Place}
    (targeted : small.target path = .ok (some place)) (absent : small.tree.kindAt? place = none) :
    Agree (Alongside foreign) (attemptDirectory path small) (attemptDirectory path large) := by
  have largeTargeted := alongside.grows.target_of_ok targeted
  obtain ⟨later, made, brings, same⟩ := makeDirectory_brings targeted absent
  have attempted : attemptDirectory path small = .ok () later := tryCatch_of_ok made
  rw [attempted]
  cases found : large.tree.kindAt? place with
  | none =>
      obtain ⟨largeLater, largeMade, largeBrings, largeSame⟩ :=
        makeDirectory_brings largeTargeted found
      have largeAttempted : attemptDirectory path large = .ok () largeLater :=
        tryCatch_of_ok largeMade
      rw [largeAttempted]
      refine .ok (alongside.bring brings largeBrings fun other apart => ?_)
      rw [largeSame.content, same.content, alongside.content other apart]
  | some kind =>
      have located := locate_of_target largeTargeted found
      cases kind with
      | false =>
          have wasFile := (alongside.locate_of_isFile passable located found).2
          rw [absent] at wasFile
          cases wasFile
      | true =>
          have isThere := isDirectory_eq_true_iff.mpr ⟨place, located, found⟩
          rw [(attemptDirectory_of_isDirectory isThere).2]
          exact .ok (alongside.catchUp brings same found)

/-- A directory for which nothing is missing is made, or found, on both disks in the same way. -/
theorem Alongside.attemptDirectory (alongside : Alongside foreign small large)
    (passable : IsPassable foreign path) (settled : small.target path ≠ .error .missing) :
    Agree (Alongside foreign) (attemptDirectory path small) (attemptDirectory path large) := by
  have sameTarget := alongside.grows.target_eq settled
  have leads := small.targets path
  cases targeted : small.target path with
  | error kind =>
      rw [targeted] at sameTarget leads settled
      have tried : makeDirectory path small = .error ⟨kind, path⟩ small := by
        rw [makeDirectory_run, targeted]
      have largeTried : makeDirectory path large = .error ⟨kind, path⟩ large := by
        rw [makeDirectory_run, sameTarget]
      apply alongside.attemptDirectory_of_error tried largeTried
      generalize small.locate path = location at leads
      cases leads with
      | refused => simpa using settled
  | ok place? =>
      cases place? with
      | none =>
          rw [targeted] at sameTarget leads
          have tried : makeDirectory path small = .error ⟨.present, path⟩ small := by
            rw [makeDirectory_run, targeted]
          have largeTried : makeDirectory path large = .error ⟨.present, path⟩ large := by
            rw [makeDirectory_run, sameTarget]
          apply alongside.attemptDirectory_of_error tried largeTried
          generalize small.locate path = location at leads
          cases leads with
          | start => nofun
          | directory => nofun
      | some place =>
          rw [targeted] at sameTarget
          cases found : small.tree.kindAt? place with
          | some kind =>
              have tried : makeDirectory path small = .error ⟨.present, path⟩ small :=
                makeDirectory_of_present targeted found
              have largeTried : makeDirectory path large = .error ⟨.present, path⟩ large :=
                makeDirectory_of_present sameTarget (alongside.grows.kept place kind found)
              apply alongside.attemptDirectory_of_error tried largeTried
              rw [locate_of_target targeted found]
              nofun
          | none => exact alongside.attemptDirectory_of_absent passable targeted found

/-- Where nothing is missing for the path, no directory on the way to it is made. -/
theorem makeDirectoriesWithin_of_settled {disk : Disk}
    (settled : disk.target path ≠ .error .missing) (depth : Nat) :
    makeDirectoriesWithin depth path disk = attemptDirectory path disk := by
  cases depth with
  | zero => rfl
  | succ depth =>
      rw [makeDirectoriesWithin, attemptDirectory]
      cases tried : makeDirectory path disk with
      | ok _ later => rw [tryCatch_of_ok tried, tryCatch_of_ok tried]
      | error fault later =>
          rw [tryCatch_of_error tried, tryCatch_of_error tried, if_neg]
          exact fun missing => settled ((makeDirectory_of_missing tried).2.1 missing)

theorem makeDirectoriesWithin_of_missing {disk : Disk}
    (missing : disk.target path = .error .missing) (depth : Nat) :
    makeDirectoriesWithin (depth + 1) path disk =
      (makeDirectoriesWithin depth path.parent >>= fun _ => attemptDirectory path) disk := by
  have tried : makeDirectory path disk = .error ⟨.missing, path⟩ disk := by
    rw [makeDirectory_run, missing]
  rw [makeDirectoriesWithin, tryCatch_of_error tried, if_pos rfl]
  rfl

theorem target_ne_missing_of_isDirectory {disk : Disk}
    (isThere : disk.isDirectory path = .ok true) : disk.target path ≠ .error .missing := by
  obtain ⟨place, located, _⟩ := isDirectory_eq_true_iff.mp isThere
  have leads := disk.targets path
  rw [located] at leads
  rintro missing
  rw [missing] at leads
  cases leads

theorem Alongside.makeDirectoriesWithin {depth : Nat} (deep : path.parts.length ≤ depth)
    (alongside : Alongside foreign small large) (passable : IsPassable foreign path)
    (short : large.locate path ≠ .error .nameTooLong) :
    Agree (Alongside foreign) (makeDirectoriesWithin depth path small)
      (makeDirectoriesWithin depth path large) := by
  induction depth generalizing path with
  | zero =>
      apply alongside.attemptDirectory passable
      intro missing
      obtain ⟨_, name, isChild⟩ := exists_child_of_missing missing
      rw [isChild, Path.child, List.length_append] at deep
      exact absurd deep (by simp)
  | succ depth induction =>
      by_cases missing : small.target path = .error .missing
      · have shallow : path.parent.parts.length ≤ depth := by
          rw [Path.parent, List.length_dropLast]
          omega
        have shortParent : large.locate path.parent ≠ .error .nameTooLong :=
          fun refused =>
            short (locate_of_parent_refused (exists_child_of_missing missing).1 refused)
        -- If the parent has come to the larger disk, making it there changes nothing.
        have largeRun : Disk.makeDirectoriesWithin (depth + 1) path large =
            (Disk.makeDirectoriesWithin depth path.parent >>= fun _ =>
              Disk.attemptDirectory path) large := by
          rcases alongside.target_of_missing passable short missing with largeMissing | isThere
          · exact makeDirectoriesWithin_of_missing largeMissing depth
          · have made : Disk.makeDirectoriesWithin depth path.parent large = .ok () large := by
              rw [makeDirectoriesWithin_of_settled (target_ne_missing_of_isDirectory isThere),
                (attemptDirectory_of_isDirectory isThere).2]
            rw [makeDirectoriesWithin_of_settled (target_of_isDirectory_parent isThere),
              bind_of_ok made]
        rw [makeDirectoriesWithin_of_missing missing, largeRun]
        rcases (induction shallow passable.parent shortParent).ok_or_error with
          ⟨_, _, _, made, largeMade, later⟩ | ⟨_, _, _, refused, largeRefused, later⟩
        · rw [bind_of_ok made, bind_of_ok largeMade]
          have isThere := isDirectory_of_makeDirectoriesWithin made
          exact later.attemptDirectory passable (target_of_isDirectory_parent isThere)
        · rw [bind_of_error refused, bind_of_error largeRefused]
          exact .error later
      · have largeSettled : large.target path ≠ .error .missing := by
          rw [alongside.grows.target_eq missing]
          exact missing
        rw [makeDirectoriesWithin_of_settled missing, makeDirectoriesWithin_of_settled largeSettled]
        exact alongside.attemptDirectory passable missing

/-- Where both disks have the directory, a file that is apart from the foreign ones is written in
the same way. -/
theorem Alongside.writeFile (alongside : Alongside foreign small large)
    (apart : IsApart foreign path) (content : Bytes)
    (isThere : small.isDirectory path.parent = .ok true) :
    Agree (Alongside foreign) (writeFile path content small) (writeFile path content large) := by
  have sameTarget := alongside.grows.target_eq (target_of_isDirectory_parent isThere)
  cases targeted : small.target path with
  | error kind =>
      rw [targeted] at sameTarget
      rw [writeFile_run, writeFile_run, targeted, sameTarget]
      exact .error alongside
  | ok place? =>
      rw [targeted] at sameTarget
      cases place? with
      | none =>
          rw [writeFile_run, writeFile_run, targeted, sameTarget]
          exact .error alongside
      | some place =>
          have sameKind : large.tree.kindAt? place = small.tree.kindAt? place := by
            rw [(target_eq_some targeted).1]
            exact alongside.kindAt?_placeOf apart
          by_cases isDirectory : small.tree.kindAt? place = some true
          · have largeIsDirectory := sameKind.trans isDirectory
            rw [writeFile_of_occupied content targeted isDirectory,
              writeFile_of_occupied content sameTarget largeIsDirectory]
            exact .error alongside
          · obtain ⟨later, wrote, brings, rewritten⟩ :=
              writeFile_brings content targeted isDirectory
            obtain ⟨largeLater, largeWrote, largeBrings, largeRewritten⟩ :=
              writeFile_brings content sameTarget (sameKind ▸ isDirectory)
            rw [wrote, largeWrote]
            refine .ok (alongside.bring brings largeBrings fun other foreignApart => ?_)
            by_cases here : other = place
            · rw [here, largeRewritten.written, rewritten.written]
            · rw [largeRewritten.elsewhere other here, rewritten.elsewhere other here,
                alongside.content other foreignApart]

theorem mem_join {character : Char} {separator name : Text} {names : List Text}
    (member : name ∈ names) (inside : character ∈ name) :
    character ∈ Text.join separator names := by
  rw [Text.join]
  induction names with
  | nil => cases member
  | cons first names induction =>
      cases names with
      | nil =>
          rw [List.mem_singleton.mp member] at inside
          simpa using inside
      | cons next names =>
          rw [List.intercalate_cons_cons, List.mem_append, List.mem_append]
          rcases List.mem_cons.mp member with rfl | member
          · exact .inl (.inl inside)
          · exact .inr (induction member)

theorem checkPath_parent_of_nullCharacter {parent : Path} {name : Text} (clean : '\x00' ∉ name)
    (refused : checkPath (parent.child name) = .error .nullCharacter) :
    checkPath parent = .error .nullCharacter := by
  by_cases inText : '\x00' ∈ parent.text
  · rw [checkPath, if_pos (List.contains_iff_mem.mpr inText)]
  · refine absurd refused (checkPath_ne_nullCharacter fun part member inside => ?_)
    rcases List.mem_append.mp member with inParent | isName
    · refine inText ?_
      rw [Path.text]
      split
      · rename_i empty
        rw [empty] at inParent
        cases inParent
      · exact List.mem_append_right _ (mem_join inParent inside)
    · rw [List.mem_singleton.mp isName] at inside
      exact clean inside

/-- Where the larger disk has nothing at a path that is apart from the foreign ones, its file is
written in the same way on both disks. -/
theorem Alongside.writeDeepFile (alongside : Alongside foreign small large)
    (apart : IsApart foreign path)
    (visible : checkPath path = .error .nullCharacter →
      checkPath path.parent = .error .nullCharacter)
    (content : Bytes) (denied : large.pathExists path = .ok false) :
    Agree (Alongside foreign) (writeDeepFile path content small)
      (writeDeepFile path content large) := by
  have short : large.locate path.parent ≠ .error .nameTooLong := by
    intro refused
    have answered : large.locate path ≠ .error .nameTooLong := by
      intro tooLong
      rw [pathExists_eq_error_iff.mpr ⟨tooLong, rfl⟩] at denied
      cases denied
    cases checked : checkPath path with
    | ok _ => exact answered (locate_of_parent_refused checked refused)
    | error kind =>
        rcases checkPath_eq_error checked with rfl | rfl
        · rw [locate_of_refused (visible checked)] at refused
          cases refused
        · exact answered (locate_of_refused checked)
  rw [Disk.writeDeepFile, makeDirectories]
  rcases (alongside.makeDirectoriesWithin (Nat.le_refl _) apart.passable short).ok_or_error with
    ⟨_, _, _, made, largeMade, later⟩ | ⟨_, _, _, refused, largeRefused, later⟩
  · rw [bind_of_ok made, bind_of_ok largeMade]
    exact later.writeFile apart content (isDirectory_of_makeDirectoriesWithin made)
  · rw [bind_of_error refused, bind_of_error largeRefused]
    exact .error later

/-- A foreign file can be written on the larger disk, also if the writing fails half way. -/
theorem Alongside.writeForeign (alongside : Alongside foreign small large)
    (isForeign : foreign path) (content : Bytes) :
    Alongside foreign small (after (Disk.writeDeepFile path content) large) := by
  refine alongside.extend isForeign (writeDeepFile_grows path content large)
    (writeDeepFile_makesAlong path content large) fun place elsewhere => ?_
  rw [after]
  cases run : Disk.writeDeepFile path content large with
  | ok _ later => exact (writeDeepFile_of_ok run).2.elsewhere place elsewhere.symm
  | error fault later => exact (writeDeepFile_of_error run).content place

end Disk

end DartRoutes
