import DartRoutes.Proofs.AssetManifest

/-!
# Adding a resource

A new file in a directory of resources renames no constant of a file in front of it. Behind it at
most one name is in play at a time: the name of the new file, until the first file that would get
this name gives way, and from there on the name that this file gets instead. Whoever wants none of
these names keeps its own.
-/

namespace DartRoutes.AssetEntry

/-- The name of a file whose base name is taken. -/
def prefixedName (path : Text) : Text :=
  toCamel (Path.ofText path).parent.name ++ capitalize (baseName path)

theorem nameFor_of_mem {used : List Text} {path : Text} (taken : baseName path ∈ used) :
    nameFor used path = prefixedName path :=
  if_pos taken

theorem nameFor_of_not_mem {used : List Text} {path : Text} (free : baseName path ∉ used) :
    nameFor used path = baseName path :=
  if_neg free

theorem assignFrom_append (used front behind : List Text) :
    assignFrom used (front ++ behind) =
      assignFrom used front ++
        assignFrom (((assignFrom used front).map name).reverse ++ used) behind := by
  induction front generalizing used with
  | nil => rfl
  | cons path front induction =>
      simp only [List.cons_append, assignFrom, induction, List.map_cons, List.reverse_cons,
        List.append_assoc, List.nil_append]

theorem assignFrom_congr {used others : List Text}
    (same : ∀ name, name ∈ others ↔ name ∈ used) (paths : List Text) :
    assignFrom others paths = assignFrom used paths := by
  induction paths generalizing used others with
  | nil => rfl
  | cons path paths induction =>
      have sameName : nameFor others path = nameFor used path := by
        simp only [nameFor, same]
      have sameNext : ∀ name,
          name ∈ nameFor used path :: others ↔ name ∈ nameFor used path :: used := by
        simp only [List.mem_cons, same, implies_true]
      rw [assignFrom, assignFrom, sameName, induction sameNext]

theorem path_mem_of_mem_assignFrom {used paths : List Text} {entry : AssetEntry}
    (member : entry ∈ assignFrom used paths) : entry.path ∈ paths :=
  map_path_assignFrom used paths ▸ List.mem_map_of_mem member

/--
What one more taken name does to the constants of the files behind: the first file that has got
this name gives way to its prefixed name, which is the one that is taken from there on.
-/
inductive Displaces : Text → List AssetEntry → List AssetEntry → Prop where
  /-- The name is taken in any case, or no file is left. -/
  | settled (taken : Text) (entries : List AssetEntry) : Displaces taken entries entries
  | passed {taken : Text} {entry : AssetEntry} {behind renamed : List AssetEntry} :
      baseName entry.path ≠ taken →
      Displaces taken behind renamed →
      Displaces taken (entry :: behind) (entry :: renamed)
  | renamed {taken : Text} {entry : AssetEntry} {behind renamed : List AssetEntry} :
      entry.name = taken →
      baseName entry.path = taken →
      Displaces (prefixedName entry.path) behind renamed →
      Displaces taken (entry :: behind) (⟨prefixedName entry.path, entry.path⟩ :: renamed)

theorem assignFrom_displaces {used others : List Text} {taken : Text}
    (gains : ∀ name, name ∈ others ↔ name = taken ∨ name ∈ used) (paths : List Text) :
    Displaces taken (assignFrom used paths) (assignFrom others paths) := by
  induction paths generalizing used others taken with
  | nil => exact .settled taken []
  | cons path paths induction =>
      by_cases known : taken ∈ used
      · have same : ∀ name, name ∈ others ↔ name ∈ used := by
          intro name
          rw [gains, or_iff_right_iff_imp]
          exact fun isTaken => isTaken ▸ known
        rw [assignFrom_congr same]
        exact .settled taken _
      · rw [assignFrom, assignFrom]
        by_cases wanted : baseName path = taken
        · have kept : nameFor used path = baseName path := nameFor_of_not_mem (wanted ▸ known)
          have gaveWay : nameFor others path = prefixedName path :=
            nameFor_of_mem ((gains _).mpr (.inl wanted))
          rw [kept, gaveWay]
          refine .renamed wanted wanted (induction fun name => ?_)
          rw [List.mem_cons, List.mem_cons, gains, wanted]
        · have sameName : nameFor others path = nameFor used path := by
            simp only [nameFor, gains, wanted, false_or]
          rw [sameName]
          refine .passed wanted (induction fun name => ?_)
          rw [List.mem_cons, List.mem_cons, gains, or_left_comm]

section Displaces

variable {taken : Text} {behind renamed : List AssetEntry}

theorem Displaces.map_path (displaces : Displaces taken behind renamed) :
    renamed.map path = behind.map path := by
  induction displaces with
  | settled taken entries => rfl
  | passed _ _ induction => rw [List.map_cons, List.map_cons, induction]
  | renamed _ _ _ induction => rw [List.map_cons, List.map_cons, induction]

/-- A name that no file wants renames none. -/
theorem Displaces.eq_of_unwanted (displaces : Displaces taken behind renamed)
    (unwanted : ∀ entry ∈ behind, baseName entry.path ≠ taken) : renamed = behind := by
  induction displaces with
  | settled taken entries => rfl
  | passed _ _ induction => rw [induction (List.forall_mem_cons.mp unwanted).2]
  | renamed _ wanted _ _ => exact absurd wanted (List.forall_mem_cons.mp unwanted).1

end Displaces

/-- With distinct base names that are all free, every file is named after itself. -/
theorem assignFrom_of_distinct {used paths : List Text} (distinct : (paths.map baseName).Nodup)
    (free : ∀ path ∈ paths, baseName path ∉ used) :
    assignFrom used paths = paths.map fun path => ⟨baseName path, path⟩ := by
  induction paths generalizing used with
  | nil => rfl
  | cons path paths induction =>
      rw [List.map_cons, List.nodup_cons] at distinct
      obtain ⟨first, others⟩ := List.forall_mem_cons.mp free
      have stillFree : ∀ other ∈ paths, baseName other ∉ baseName path :: used := by
        intro other member
        rw [List.mem_cons, not_or]
        refine ⟨fun same => distinct.1 ?_, others other member⟩
        exact same ▸ List.mem_map_of_mem member
      rw [assignFrom, nameFor_of_not_mem first, induction distinct.2 stillFree, List.map_cons]

/-- Every constant has the base name of its file, and no two have the same. -/
structure NamesThemselves (constants : List AssetEntry) : Prop where
  names : ∀ entry ∈ constants, entry.name = baseName entry.path
  distinct : (constants.map name).Nodup

theorem namesThemselves_assignFrom {paths : List Text}
    (distinct : ((assignFrom [] paths).map (baseName ·.path)).Nodup) :
    NamesThemselves (assignFrom [] paths) := by
  have bases : (assignFrom [] paths).map (baseName ·.path) = paths.map baseName := by
    rw [← map_path_assignFrom [] paths, List.map_map, map_path_assignFrom]
    rfl
  rw [bases] at distinct
  rw [assignFrom_of_distinct distinct fun _ _ => List.not_mem_nil]
  constructor
  · exact List.forall_mem_map.mpr fun path _ => rfl
  · rw [List.map_map]
    exact distinct

/-- A strictly sorted list with one more text is split by this text. -/
theorem exists_split_of_gained {texts others : List Text} {added : Text}
    (sorted : texts.Pairwise (· < ·)) (othersSorted : others.Pairwise (· < ·))
    (isNew : added ∉ texts) (gains : ∀ text, text ∈ others ↔ text = added ∨ text ∈ texts) :
    ∃ front behind, texts = front ++ behind ∧ others = front ++ added :: behind ∧
      (∀ text ∈ front, text < added) ∧ ∀ text ∈ behind, added < text := by
  obtain ⟨front, behind, rfl⟩ := List.append_of_mem ((gains added).mpr (.inl rfl))
  obtain ⟨frontSorted, behindSorted, apart⟩ := List.pairwise_append.mp othersSorted
  obtain ⟨above, behindSorted⟩ := List.pairwise_cons.mp behindSorted
  have below : ∀ text ∈ front, text < added :=
    fun text member => apart text member added List.mem_cons_self
  have restSorted : (front ++ behind).Pairwise (· < ·) :=
    List.pairwise_append.mpr ⟨frontSorted, behindSorted,
      fun text member other further => apart text member other (List.mem_cons_of_mem _ further)⟩
  have different {text : Text} (inRest : text ∈ front ++ behind) : text ≠ added := by
    rintro rfl
    rcases List.mem_append.mp inRest with inFront | inBehind
    · exact List.lt_irrefl _ (below text inFront)
    · exact List.lt_irrefl _ (above text inBehind)
  have nodup {texts : List Text} (sorted : texts.Pairwise (· < ·)) : texts.Nodup := by
    refine sorted.imp ?_
    rintro text _ less rfl
    exact List.lt_irrefl text less
  have sameTexts : ∀ text, text ∈ texts ↔ text ∈ front ++ behind := by
    intro text
    have known := gains text
    rw [List.mem_append, List.mem_cons, or_left_comm, ← List.mem_append] at known
    constructor
    · intro member
      exact (known.mpr (.inr member)).resolve_left fun same => isNew (same ▸ member)
    · intro member
      exact (known.mp (.inr member)).resolve_left (different member)
  have perm : texts.Perm (front ++ behind) :=
    (List.perm_ext_iff_of_nodup (nodup sorted) (nodup restSorted)).mpr sameTexts
  refine ⟨front, behind, perm.eq_of_pairwise ?_ sorted restSorted, rfl, below, above⟩
  exact fun first second _ _ before after => absurd after (List.lt_asymm before)

/-- One directory of resources has a file more than another one, and besides it only ignored files
can be different. -/
structure GainsFile (ignoreDirs : List Text) (directory : Path) (before after : FileTree)
    (added : Place) : Prop where
  isNew : before.contentAt? added = none
  isFile : (after.contentAt? added).isSome
  counts : isIgnored ignoreDirs (pathAt directory added) = false
  others : ∀ place, place ≠ added → isIgnored ignoreDirs (pathAt directory place) = false →
    (after.contentAt? place).isSome = (before.contentAt? place).isSome

/-- The paths from which constants are made, in their order. -/
def countedPaths (ignoreDirs : List Text) (directory : Path) (entries : List (Text × FileTree)) :
    List Text :=
  (Text.sort (pathsOf directory entries)).filter (!isIgnored ignoreDirs ·)

section Gains

variable {directory : Path} {entries others : List (Text × FileTree)} {ignoreDirs : List Text}
  {added : Place}

theorem countedPaths_pairwise (named : (FileTree.directory entries).Named IsFileName) :
    (countedPaths ignoreDirs directory entries).Pairwise (· < ·) :=
  (Text.sort_pairwise_lt (pathsOf_nodup named)).filter _

theorem mem_countedPaths_iff (named : (FileTree.directory entries).Named IsFileName) {path : Text} :
    path ∈ countedPaths ignoreDirs directory entries ↔
      ∃ place, ((FileTree.directory entries).contentAt? place).isSome ∧
        path = pathAt directory place ∧ isIgnored ignoreDirs path = false := by
  rw [countedPaths, List.mem_filter, Text.mem_sort, mem_pathsOf_iff named, Bool.not_eq_true']
  simp only [← exists_and_right, and_assoc]

/-- The files of the larger directory have the paths of the smaller one and one path more. -/
theorem GainsFile.exists_split (named : (FileTree.directory entries).Named IsFileName)
    (othersNamed : (FileTree.directory others).Named IsFileName)
    (gains : GainsFile ignoreDirs directory (.directory entries) (.directory others) added) :
    ∃ front behind, countedPaths ignoreDirs directory entries = front ++ behind ∧
      countedPaths ignoreDirs directory others = front ++ pathAt directory added :: behind ∧
      (∀ path ∈ front, path < pathAt directory added) ∧
      ∀ path ∈ behind, pathAt directory added < path := by
  have stays {place : Place} (counts : isIgnored ignoreDirs (pathAt directory place) = false)
      (isFile : ((FileTree.directory entries).contentAt? place).isSome) :
      ((FileTree.directory others).contentAt? place).isSome := by
    have apart : place ≠ added := by
      rintro rfl
      rw [gains.isNew] at isFile
      cases isFile
    rw [gains.others place apart counts]
    exact isFile
  apply exists_split_of_gained (countedPaths_pairwise named) (countedPaths_pairwise othersNamed)
  · intro known
    obtain ⟨place, isFile, same, -⟩ := (mem_countedPaths_iff named).mp known
    have counts : isIgnored ignoreDirs (pathAt directory place) = false := same ▸ gains.counts
    obtain rfl := pathAt_injective_of_isFile othersNamed gains.isFile (stays counts isFile) same
    rw [gains.isNew] at isFile
    cases isFile
  · intro path
    rw [mem_countedPaths_iff named, mem_countedPaths_iff othersNamed]
    constructor
    · rintro ⟨place, isFile, rfl, counts⟩
      by_cases isAdded : place = added
      · exact .inl (isAdded ▸ rfl)
      · rw [gains.others place isAdded counts] at isFile
        exact .inr ⟨place, isFile, rfl, counts⟩
    · rintro (rfl | ⟨place, isFile, rfl, counts⟩)
      · exact ⟨added, gains.isFile, rfl, gains.counts⟩
      · exact ⟨place, stays counts isFile, rfl, counts⟩

end Gains

/--
A new file renames no unrelated constant. The constants of the files in front of it stay as they
are. Behind it the new name displaces at most a chain of names, and none if it is the base name of
no file there. A directory whose files have distinct base names gives each file its base name.
-/
theorem collectAssets_gains {smaller larger : Workspace} {directory : Path}
    {entries others : List (Text × FileTree)} {ignoreDirs : List Text} {added : Place}
    (found : smaller.disk.find directory = .ok (.directory entries))
    (foundLarger : larger.disk.find directory = .ok (.directory others))
    (named : (FileTree.directory entries).Named IsFileName)
    (othersNamed : (FileTree.directory others).Named IsFileName)
    (gains : GainsFile ignoreDirs directory (.directory entries) (.directory others) added) :
    ∃ (front behind renamed : List AssetEntry) (new : AssetEntry),
      Action.collectAssets directory ignoreDirs smaller = .ok (front ++ behind) smaller ∧
      Action.collectAssets directory ignoreDirs larger = .ok (front ++ new :: renamed) larger ∧
      new.path = pathAt directory added ∧
      (∀ entry ∈ front, entry.path < new.path) ∧ (∀ entry ∈ behind, new.path < entry.path) ∧
      renamed.map path = behind.map path ∧ Displaces new.name behind renamed ∧
      ((∀ entry ∈ behind, baseName entry.path ≠ new.name) → renamed = behind) ∧
      ∀ constants ∈ [front ++ behind, front ++ new :: renamed],
        (constants.map (baseName ·.path)).Nodup → NamesThemselves constants := by
  obtain ⟨front, behind, paths, otherPaths, below, above⟩ := gains.exists_split named othersNamed
  let used := ((assignFrom [] front).map name).reverse
  let new : AssetEntry := ⟨nameFor used (pathAt directory added), pathAt directory added⟩
  have collected : collect ignoreDirs (Text.sort (pathsOf directory entries)) =
      assignFrom [] front ++ assignFrom used behind := by
    rw [collect, ← countedPaths, paths, assignFrom_append, List.append_nil]
  have othersCollected : collect ignoreDirs (Text.sort (pathsOf directory others)) =
      assignFrom [] front ++ new :: assignFrom (new.name :: used) behind := by
    rw [collect, ← countedPaths, otherPaths, assignFrom_append, List.append_nil]
    rfl
  have displaces : Displaces new.name (assignFrom used behind)
      (assignFrom (new.name :: used) behind) := assignFrom_displaces (fun _ => List.mem_cons) behind
  refine ⟨assignFrom [] front, assignFrom used behind, assignFrom (new.name :: used) behind, new,
    ?_, ?_, rfl, ?_, ?_, displaces.map_path, displaces, displaces.eq_of_unwanted, ?_⟩
  · rw [collectAssets_eq found, collected]
  · rw [collectAssets_eq foundLarger, othersCollected]
  · exact fun entry member => below entry.path (path_mem_of_mem_assignFrom member)
  · exact fun entry member => above entry.path (path_mem_of_mem_assignFrom member)
  · rw [← collected, ← othersCollected]
    exact List.forall_mem_cons.mpr ⟨namesThemselves_assignFrom,
      List.forall_mem_singleton.mpr namesThemselves_assignFrom⟩

theorem contentAt?_cons_single {name file : Text} {content : Bytes} {place : Place}
    (entries : List (Text × FileTree)) (isNew : entries.lookup name = none)
    (apart : place ≠ [name, file]) :
    (FileTree.directory ((name, .directory [(file, .file content)]) :: entries)).contentAt? place =
      (FileTree.directory entries).contentAt? place := by
  cases place with
  | nil => rfl
  | cons head rest =>
      rw [FileTree.contentAt?_cons, FileTree.contentAt?_cons, List.lookup_cons]
      by_cases same : head = name
      · subst same
        rw [beq_self_eq_true, isNew]
        show (FileTree.directory [(file, .file content)]).contentAt? rest = none
        cases rest with
        | nil => rfl
        | cons next rest =>
            rw [FileTree.contentAt?_cons, List.lookup_cons]
            by_cases sameFile : next = file
            · subst sameFile
              rw [beq_self_eq_true]
              cases rest with
              | nil => exact absurd rfl apart
              | cons below rest => rfl
            · rw [beq_false_of_ne sameFile]
              rfl
      · rw [beq_false_of_ne same]

/-- Two files whose names hang together, and one that is apart from them. -/
def logoEntries : List (Text × FileTree) :=
  [("b", .directory [("logo.png", .file [])]), ("c", .directory [("b_logopng", .file [])]),
    ("d", .directory [("cart.svg", .file [])])]

/-- The same files behind one more logo. -/
def moreLogoEntries : List (Text × FileTree) :=
  ("a", .directory [("logo.png", .file [])]) :: logoEntries

theorem moreLogoEntries_named : ∀ entry ∈ moreLogoEntries,
    IsFileName entry.1 ∧ FileTree.Named IsFileName entry.2 := by
  have single {name : Text} (isName : IsFileName name) :
      FileTree.Named IsFileName (.directory [(name, .file [])]) :=
    .directory (List.nodup_singleton _) (List.forall_mem_singleton.mpr isName)
      (List.forall_mem_singleton.mpr (.file _))
  simp only [moreLogoEntries, logoEntries, List.forall_mem_cons]
  exact ⟨⟨by decide, single (by decide)⟩, ⟨by decide, single (by decide)⟩,
    ⟨by decide, single (by decide)⟩, ⟨by decide, single (by decide)⟩, List.forall_mem_nil _⟩

/-- A new logo takes the name of the second one, whose new name is that of the third one; the cart
behind them keeps its name. -/
theorem collectAssets_gains_logo :
    Action.collectAssets (.ofText "assets") [] (priceWorkspace logoEntries) =
        .ok [⟨"logoPng", "assets/b/logo.png"⟩, ⟨"bLogopng", "assets/c/b_logopng"⟩,
          ⟨"cartSvg", "assets/d/cart.svg"⟩] (priceWorkspace logoEntries) ∧
      Displaces "logoPng"
        [⟨"logoPng", "assets/b/logo.png"⟩, ⟨"bLogopng", "assets/c/b_logopng"⟩,
          ⟨"cartSvg", "assets/d/cart.svg"⟩]
        [⟨"bLogopng", "assets/b/logo.png"⟩, ⟨"cBlogopng", "assets/c/b_logopng"⟩,
          ⟨"cartSvg", "assets/d/cart.svg"⟩] := by
  have moreNamed : (FileTree.directory moreLogoEntries).Named IsFileName :=
    .directory (by decide) (fun entry member => (moreLogoEntries_named entry member).1)
      fun entry member => (moreLogoEntries_named entry member).2
  have named : (FileTree.directory logoEntries).Named IsFileName := by
    obtain ⟨-, rest⟩ := List.forall_mem_cons.mp moreLogoEntries_named
    exact .directory (by decide) (fun entry member => (rest entry member).1)
      fun entry member => (rest entry member).2
  have gains : GainsFile [] (.ofText "assets") (.directory logoEntries)
      (.directory moreLogoEntries) ["a", "logo.png"] := by
    refine ⟨rfl, rfl, rfl, fun place apart _ => congrArg Option.isSome ?_⟩
    exact contentAt?_cons_single logoEntries rfl apart
  have collected : Action.collectAssets (.ofText "assets") [] (priceWorkspace logoEntries) =
      .ok [⟨"logoPng", "assets/b/logo.png"⟩, ⟨"bLogopng", "assets/c/b_logopng"⟩,
        ⟨"cartSvg", "assets/d/cart.svg"⟩] (priceWorkspace logoEntries) := by
    rw [@collectAssets_eq (.ofText "assets") logoEntries (priceWorkspace logoEntries) rfl [],
      Text.sort_of_pairwise (by decide)]
    exact congrArg (EStateM.Result.ok · _) (by decide)
  have moreCollected : Action.collectAssets (.ofText "assets") [] (priceWorkspace moreLogoEntries) =
      .ok [⟨"logoPng", "assets/a/logo.png"⟩, ⟨"bLogopng", "assets/b/logo.png"⟩,
        ⟨"cBlogopng", "assets/c/b_logopng"⟩, ⟨"cartSvg", "assets/d/cart.svg"⟩]
        (priceWorkspace moreLogoEntries) := by
    rw [@collectAssets_eq (.ofText "assets") moreLogoEntries (priceWorkspace moreLogoEntries) rfl
      [], Text.sort_of_pairwise (by decide)]
    exact congrArg (EStateM.Result.ok · _) (by decide)
  refine ⟨collected, ?_⟩
  obtain ⟨front, behind, renamed, new, run, moreRun, isNew, before, -, -, displaces, -⟩ :=
    @collectAssets_gains (priceWorkspace logoEntries) (priceWorkspace moreLogoEntries)
      (.ofText "assets") logoEntries moreLogoEntries [] ["a", "logo.png"] rfl rfl named moreNamed
      gains
  rw [collected] at run
  rw [moreCollected] at moreRun
  have listed := (EStateM.Result.ok.inj moreRun).1
  cases front with
  | nil =>
      cases listed
      cases run
      exact displaces
  | cons first front =>
      -- The first constant would be that of the new file and stand in front of it.
      obtain ⟨rfl, -⟩ := List.cons.inj listed
      have less := before _ List.mem_cons_self
      rw [isNew] at less
      exact absurd less (List.lt_irrefl _)

end DartRoutes.AssetEntry
