import DartRoutes.Proofs.AssetManifest
import DartRoutes.Proofs.FeatureContainment

/-!
# Ignored resources

A file is left out if the text of its path holds the text of an ignored directory. That is the case
for the files in this directory, as long as it is spelled by its names alone. But it is also the
case where these names come again further down, behind a directory whose name only ends like that
of the resources.
-/

namespace DartRoutes

theorem Text.holds_iff_infix {fragment text : Text} :
    Text.holds fragment text = true ↔ fragment <:+: text := by
  induction text with
  | nil => rw [Text.holds, List.isEmpty_iff, List.infix_nil]
  | cons character rest induction =>
      rw [Text.holds, Bool.or_eq_true, List.isPrefixOf_iff_prefix, induction, List.infix_cons_iff]

theorem splitOn_append_cons (left right : Text) :
    (left ++ '/' :: right).splitOn '/' = left.splitOn '/' ++ right.splitOn '/' :=
  List.splitOnP_append_cons left right (beq_self_eq_true '/')

namespace AssetEntry

/-- The name of the directory of resources. -/
def resourcesName : Text := "assets"

/-- The names of a fragment stand in front of more names of a place. -/
def StartsWith (fragment : Text) (place : Place) : Prop :=
  ∃ behind, behind ≠ [] ∧ place = fragment.splitOn '/' ++ behind

/-- The names of a fragment stand in front of more names of a place, and behind a name that ends
like that of the resources. -/
def OccursWithin (fragment : Text) (place : Place) : Prop :=
  ∃ front name behind, behind ≠ [] ∧ resourcesName <:+ name ∧
    place = front ++ name :: (fragment.splitOn '/' ++ behind)

theorem OccursWithin.exists_mem {fragment : Text} {place : Place}
    (occurs : OccursWithin fragment place) : ∃ name ∈ place, resourcesName <:+ name := by
  obtain ⟨front, name, behind, -, ends, rfl⟩ := occurs
  exact ⟨name, List.mem_append_right _ List.mem_cons_self, ends⟩

theorem suffix_join_concat (front : List Text) {name ending : Text} (ends : ending <:+ name) :
    ending <:+ Text.join "/" (front ++ [name]) := by
  cases front with
  | nil =>
      have alone : Text.join "/" ([] ++ [name]) = name := List.intercalate_singleton
      rwa [alone]
  | cons head front =>
      rw [Path.join_concat "/" name (List.cons_ne_nil head front)]
      exact ends.trans ((List.suffix_append _ _).trans (List.suffix_append _ _))

/-- A written directory is in the text of a path exactly if its names are in the path, where the
first of them may be cut. -/
theorem infix_join_iff {fragment : Text} {names : List Text} (named : names ≠ [])
    (slashless : ∀ name ∈ names, '/' ∉ name) :
    resourcesName ++ '/' :: (fragment ++ ['/']) <:+: Text.join "/" names ↔
      OccursWithin fragment names := by
  have split : (Text.join "/" names).splitOn '/' = names :=
    List.splitOn_intercalate '/' slashless named
  constructor
  · rintro ⟨left, right, shape⟩
    have shape : Text.join "/" names =
        (left ++ resourcesName) ++ '/' :: (fragment ++ '/' :: right) := by
      rw [← shape]
      simp only [List.append_assoc, List.cons_append, List.nil_append]
    have noSlash : resourcesName.any (· == '/') = false := by decide
    have plain : ∀ character ∈ resourcesName, (character == '/') = false :=
      fun character member => Bool.eq_false_iff.mpr (List.any_eq_false.mp noSlash character member)
    obtain ⟨pieces, last, cut, ends⟩ := Path.exists_splitOnP_append left resourcesName plain
    refine ⟨pieces, last, right.splitOn '/', List.splitOnP_ne_nil _ _, ends, ?_⟩
    rw [← split, shape, splitOn_append_cons, splitOn_append_cons, List.splitOn, cut,
      List.append_assoc]
    rfl
  · rintro ⟨front, name, behind, nonempty, ends, rfl⟩
    obtain ⟨first, others⟩ := List.forall_mem_append.mp slashless
    obtain ⟨nameSlashless, others⟩ := List.forall_mem_cons.mp others
    obtain ⟨-, behindSlashless⟩ := List.forall_mem_append.mp others
    have frontSlashless : ∀ other ∈ front ++ [name], '/' ∉ other :=
      List.forall_mem_append.mpr ⟨first, List.forall_mem_singleton.mpr nameSlashless⟩
    have frontSplit : (Text.join "/" (front ++ [name])).splitOn '/' = front ++ [name] :=
      List.splitOn_intercalate '/' frontSlashless (List.concat_ne_nil _ _)
    have behindSplit : (Text.join "/" behind).splitOn '/' = behind :=
      List.splitOn_intercalate '/' behindSlashless nonempty
    have shape : Text.join "/" (front ++ name :: (fragment.splitOn '/' ++ behind)) =
        Text.join "/" (front ++ [name]) ++ '/' :: (fragment ++ '/' :: Text.join "/" behind) := by
      apply eq_of_splitOn_eq
      rw [split, splitOn_append_cons, splitOn_append_cons, frontSplit, behindSplit,
        List.append_assoc]
      rfl
    obtain ⟨start, joined⟩ := suffix_join_concat front ends
    refine ⟨start, Text.join "/" behind, ?_⟩
    rw [shape, ← joined]
    simp only [List.append_assoc, List.cons_append, List.nil_append]

/-- The names of a place may start with those of a fragment, or hold them further down. -/
theorem occursWithin_cons_iff {fragment : Text} {place : Place} :
    OccursWithin fragment (resourcesName :: place) ↔
      StartsWith fragment place ∨ OccursWithin fragment place := by
  constructor
  · rintro ⟨front, name, behind, nonempty, ends, shape⟩
    cases front with
    | nil =>
        obtain ⟨-, rfl⟩ := List.cons.inj shape
        exact .inl ⟨behind, nonempty, rfl⟩
    | cons head front =>
        obtain ⟨-, rfl⟩ := List.cons.inj shape
        exact .inr ⟨front, name, behind, nonempty, ends, rfl⟩
  · rintro (⟨behind, nonempty, rfl⟩ | ⟨front, name, behind, nonempty, ends, rfl⟩)
    · exact ⟨[], resourcesName, behind, nonempty, List.suffix_refl _, rfl⟩
    · exact ⟨resourcesName :: front, name, behind, nonempty, ends, rfl⟩

/-- What a file system allows as the name of something in a directory. -/
structure IsEntryName (name : Text) : Prop where
  counts : Path.isPart name
  isName : name ≠ Disk.parentName
  slashless : '/' ∉ name
  fits : Disk.isTooLong name = false

instance (name : Text) : Decidable (IsEntryName name) :=
  decidable_of_iff (Path.isPart name ∧ name ≠ Disk.parentName ∧ '/' ∉ name ∧
      Disk.isTooLong name = false)
    ⟨fun ⟨counts, isName, slashless, fits⟩ => ⟨counts, isName, slashless, fits⟩,
      fun ⟨counts, isName, slashless, fits⟩ => ⟨counts, isName, slashless, fits⟩⟩

theorem isIgnored_iff {ignoreDirs : List Text} {place : Place}
    (names : ∀ name ∈ place, IsEntryName name) :
    isIgnored ignoreDirs (pathAt (.ofText resourcesName) place) = true ↔
      ∃ fragment ∈ ignoreDirs, StartsWith fragment place ∨ OccursWithin fragment place := by
  have slashless : ∀ name ∈ resourcesName :: place, '/' ∉ name :=
    List.forall_mem_cons.mpr ⟨by decide, fun name member => (names name member).slashless⟩
  rw [isIgnored, List.any_eq_true]
  refine exists_congr fun fragment => and_congr_right fun _ => ?_
  rw [← occursWithin_cons_iff, ← infix_join_iff (List.cons_ne_nil _ _) slashless,
    Text.holds_iff_infix]
  have written : ("assets/" ++ fragment ++ "/" : Text) =
      resourcesName ++ '/' :: (fragment ++ ['/']) := rfl
  have path : pathAt (.ofText resourcesName) place = Text.join "/" (resourcesName :: place) := rfl
  rw [written, path]

/-- A fragment leads from the directory of resources to a directory, and a file lies below that. -/
def LiesUnder (tree : FileTree) (home : Place) (fragment : Text) (place : Place) : Prop :=
  ∃ directory, (Path.ofText fragment).parts.foldlM (Disk.step tree) home = .ok directory ∧
    LiesBelow directory (home ++ place)

/-- The fragment is written as the names on its way, without segments that lead nowhere or up. -/
def IsSpelledByNames (fragment : Text) : Prop :=
  ∀ segment ∈ fragment.splitOn '/', Path.isPart segment ∧ segment ≠ Disk.parentName

instance (fragment : Text) : Decidable (IsSpelledByNames fragment) :=
  inferInstanceAs (Decidable (∀ segment ∈ fragment.splitOn '/', _ ∧ _))

theorem IsSpelledByNames.parts {fragment : Text} (spelled : IsSpelledByNames fragment) :
    (Path.ofText fragment).parts = fragment.splitOn '/' :=
  List.filter_eq_self.mpr fun segment member => (spelled segment member).1

theorem IsSpelledByNames.descends {fragment : Text} (spelled : IsSpelledByNames fragment) :
    Disk.parentName ∉ fragment.splitOn '/' :=
  fun member => (spelled _ member).2 rfl

section Tree

variable {tree : FileTree} {home place : Place} {fragment : Text}

theorem startsWith_iff (names : ∀ name ∈ place, IsEntryName name)
    (isFile : (tree.contentAt? (home ++ place)).isSome) :
    StartsWith fragment place ↔ IsSpelledByNames fragment ∧ LiesUnder tree home fragment place := by
  constructor
  · rintro ⟨behind, nonempty, rfl⟩
    obtain ⟨inFront, -⟩ := List.forall_mem_append.mp names
    have spelled : IsSpelledByNames fragment :=
      fun segment member => ⟨(inFront segment member).counts, (inFront segment member).isName⟩
    refine ⟨spelled, home ++ fragment.splitOn '/', ?_, behind, nonempty, ?_⟩
    · rw [spelled.parts]
      have isThere : (tree.at? (home ++ fragment.splitOn '/')).isSome := by
        have found := FileTree.isSome_at?_of_isSome_contentAt? isFile
        rw [← List.append_assoc, FileTree.at?_append] at found
        exact Option.isSome_of_isSome_bind found
      rcases Disk.foldlM_step_of_isSome spelled.descends isThere with followed | refused
      · exact followed
      · rcases Disk.foldlM_step_eq_error refused with
          missing | noDirectory | ⟨-, name, member, long⟩
        · cases missing
        · cases noDirectory
        · rw [(inFront name member).fits] at long
          cases long
    · rw [List.append_assoc]
  · rintro ⟨spelled, directory, followed, behind, nonempty, below⟩
    rw [spelled.parts] at followed
    have leads := Disk.foldlM_step_eq_foldl_enter followed
    rw [Disk.foldl_enter_of_not_mem spelled.descends] at leads
    rw [leads, List.append_assoc] at below
    exact ⟨behind, nonempty, List.append_cancel_left below⟩

/-- A file is ignored if it lies under an ignored directory that is spelled by names, or if the
names of an ignored directory come again on its way. -/
theorem isIgnored_iff_under {ignoreDirs : List Text} (names : ∀ name ∈ place, IsEntryName name)
    (isFile : (tree.contentAt? (home ++ place)).isSome) :
    isIgnored ignoreDirs (pathAt (.ofText resourcesName) place) = true ↔
      ∃ fragment ∈ ignoreDirs, (IsSpelledByNames fragment ∧ LiesUnder tree home fragment place) ∨
        OccursWithin fragment place := by
  simp only [isIgnored_iff names, startsWith_iff names isFile]

/-- A file is ignored exactly if it lies under an ignored directory. -/
def IsIgnoredRightly (tree : FileTree) (home : Place) (ignoreDirs : List Text) (place : Place) :
    Prop :=
  isIgnored ignoreDirs (pathAt (.ofText resourcesName) place) = true ↔
    ∃ fragment ∈ ignoreDirs, LiesUnder tree home fragment place

theorem isIgnoredRightly_iff {ignoreDirs : List Text} (names : ∀ name ∈ place, IsEntryName name)
    (isFile : (tree.contentAt? (home ++ place)).isSome) :
    IsIgnoredRightly tree home ignoreDirs place ↔
      (∀ fragment ∈ ignoreDirs, OccursWithin fragment place →
        ∃ other ∈ ignoreDirs, LiesUnder tree home other place) ∧
      ∀ fragment ∈ ignoreDirs, LiesUnder tree home fragment place → ¬ IsSpelledByNames fragment →
        ∃ other ∈ ignoreDirs, (IsSpelledByNames other ∧ LiesUnder tree home other place) ∨
          OccursWithin other place := by
  rw [IsIgnoredRightly, isIgnored_iff_under names isFile]
  constructor
  · intro rightly
    constructor
    · exact fun fragment member occurs => rightly.mp ⟨fragment, member, .inr occurs⟩
    · exact fun fragment member under _ => rightly.mpr ⟨fragment, member, under⟩
  · rintro ⟨further, otherwise⟩
    constructor
    · rintro ⟨fragment, member, ⟨-, under⟩ | occurs⟩
      · exact ⟨fragment, member, under⟩
      · exact further fragment member occurs
    · rintro ⟨fragment, member, under⟩
      by_cases spelled : IsSpelledByNames fragment
      · exact ⟨fragment, member, .inl ⟨spelled, under⟩⟩
      · exact otherwise fragment member under spelled

end Tree

/--
The resources that no constant is made for are the ignored ones. These are the files under an
ignored directory that is spelled by its names, and those with the names of an ignored directory
further down, behind a name that ends like that of the resources. So every file is ignored rightly
exactly if it lies under an ignored directory whenever such names occur within its place, and if no
ignored directory around it is spelled otherwise only.
-/
theorem collectAssets_leaves_out_iff {workspace : Workspace} {home : Place}
    {entries : List (Text × FileTree)} (ignoreDirs : List Text)
    (located : workspace.disk.locate (.ofText resourcesName) = .ok home)
    (isDirectory : workspace.disk.tree.at? home = some (.directory entries))
    (named : (FileTree.directory entries).Named IsEntryName) :
    ∃ constants : List AssetEntry,
      Action.collectAssets (.ofText resourcesName) ignoreDirs workspace = .ok constants workspace ∧
      ∀ place, ((FileTree.directory entries).contentAt? place).isSome →
        (pathAt (.ofText resourcesName) place ∉ constants.map path ↔
          isIgnored ignoreDirs (pathAt (.ofText resourcesName) place) = true) ∧
        (isIgnored ignoreDirs (pathAt (.ofText resourcesName) place) = true ↔
          ∃ fragment ∈ ignoreDirs,
            (IsSpelledByNames fragment ∧ LiesUnder workspace.disk.tree home fragment place) ∨
              OccursWithin fragment place) ∧
        (IsIgnoredRightly workspace.disk.tree home ignoreDirs place ↔
          (∀ fragment ∈ ignoreDirs, OccursWithin fragment place →
            ∃ other ∈ ignoreDirs, LiesUnder workspace.disk.tree home other place) ∧
          ∀ fragment ∈ ignoreDirs, LiesUnder workspace.disk.tree home fragment place →
            ¬ IsSpelledByNames fragment →
              ∃ other ∈ ignoreDirs,
                (IsSpelledByNames other ∧ LiesUnder workspace.disk.tree home other place) ∨
                  OccursWithin other place) ∧
        ((∀ fragment ∈ ignoreDirs, IsSpelledByNames fragment) →
          (∀ name ∈ place, ¬ resourcesName <:+ name) →
            IsIgnoredRightly workspace.disk.tree home ignoreDirs place) := by
  have found : workspace.disk.find (.ofText resourcesName) = .ok (.directory entries) := by
    rw [Disk.find, located]
    simp only [bind, Except.bind, isDirectory, pure, Except.pure]
  refine ⟨_, collectAssets_eq found ignoreDirs, fun place isFile => ?_⟩
  have names := named.forall_mem_place isFile
  have isFileThere : (workspace.disk.tree.contentAt? (home ++ place)).isSome := by
    rw [FileTree.contentAt?_append, isDirectory]
    exact isFile
  have rightly := @isIgnoredRightly_iff _ home place ignoreDirs names isFileThere
  refine ⟨?_, isIgnored_iff_under names isFileThere, rightly, fun spelled deeper => ?_⟩
  · have listed : pathAt (.ofText resourcesName) place ∈
        Text.sort (pathsOf (.ofText resourcesName) entries) :=
      Text.mem_sort.mpr ((mem_pathsOf_iff named).mpr ⟨place, isFile, rfl⟩)
    rw [map_path_collect, List.mem_filter, Bool.not_eq_true', and_iff_right listed,
      Bool.not_eq_false]
  · refine rightly.mpr ⟨fun fragment _ occurs => ?_, fun fragment member _ otherwise => ?_⟩
    · obtain ⟨name, member, ends⟩ := occurs.exists_mem
      exact absurd ends (deeper name member)
    · exact absurd (spelled fragment member) otherwise

/-- Smileys of two kinds, and fonts in a copy of other resources. -/
def smileyEntries : List (Text × FileTree) :=
  [("copy", .directory [("my-assets", .directory [("fonts", .directory [("a.ttf", .file [])])])]),
    ("images", .directory
      [("emoji", .directory [("smile.png", .file [])]),
        ("emojis", .directory [("smile.png", .file [])])])]

theorem smileyEntries_named : (FileTree.directory smileyEntries).Named IsEntryName := by
  have single {name : Text} {tree : FileTree} (isName : IsEntryName name)
      (named : tree.Named IsEntryName) : FileTree.Named IsEntryName (.directory [(name, tree)]) :=
    .directory (List.nodup_singleton _) (List.forall_mem_singleton.mpr isName)
      (List.forall_mem_singleton.mpr named)
  have picture : FileTree.Named IsEntryName (.directory [("smile.png", .file [])]) :=
    single (by decide) (.file _)
  have images : FileTree.Named IsEntryName (.directory
      [("emoji", .directory [("smile.png", .file [])]),
        ("emojis", .directory [("smile.png", .file [])])]) :=
    .directory (by decide) (by decide)
      (List.forall_mem_cons.mpr ⟨picture, List.forall_mem_singleton.mpr picture⟩)
  have fonts : FileTree.Named IsEntryName (.directory [("a.ttf", .file [])]) :=
    single (by decide) (.file _)
  have assets : FileTree.Named IsEntryName
      (.directory [("fonts", .directory [("a.ttf", .file [])])]) :=
    single (by decide) fonts
  have copy : FileTree.Named IsEntryName
      (.directory [("my-assets", .directory [("fonts", .directory [("a.ttf", .file [])])])]) :=
    single (by decide) assets
  exact .directory (by decide) (by decide)
    (List.forall_mem_cons.mpr ⟨copy, List.forall_mem_singleton.mpr images⟩)

/-- A directory is ignored, and another one whose name is longer is not. -/
theorem collectAssets_leaves_out_smile :
    ∃ constants : List AssetEntry,
      Action.collectAssets (.ofText resourcesName) ["images/emoji", "fonts"]
        (priceWorkspace smileyEntries) = .ok constants (priceWorkspace smileyEntries) ∧
      ("assets/images/emoji/smile.png" : Text) ∉ constants.map path ∧
      LiesUnder (priceWorkspace smileyEntries).disk.tree [resourcesName] "images/emoji"
        ["images", "emoji", "smile.png"] ∧
      ("assets/images/emojis/smile.png" : Text) ∈ constants.map path := by
  obtain ⟨constants, collected, leavesOut⟩ := @collectAssets_leaves_out_iff
    (priceWorkspace smileyEntries) [resourcesName] smileyEntries ["images/emoji", "fonts"] rfl rfl
    smileyEntries_named
  obtain ⟨emoji, -, -, emojiRightly⟩ := leavesOut ["images", "emoji", "smile.png"] rfl
  obtain ⟨emojis, -⟩ := leavesOut ["images", "emojis", "smile.png"] rfl
  refine ⟨constants, collected, emoji.mpr (by decide), ?_, ?_⟩
  · obtain ⟨fragment, member, under⟩ := (emojiRightly (by decide) (by decide)).mp (by decide)
    rcases List.mem_cons.mp member with rfl | further
    · exact under
    · cases List.mem_singleton.mp further
      obtain ⟨directory, followed, -⟩ := under
      cases followed
  · exact Decidable.byContradiction fun absent => absurd (emojis.mp absent) (by decide)

/-- The fonts in the copy are ignored, and they do not lie under the ignored directory. -/
theorem not_forall_isIgnoredRightly :
    ¬ ∀ (workspace : Workspace) (home : Place) (entries : List (Text × FileTree))
        (ignoreDirs : List Text) (place : Place),
      workspace.disk.locate (.ofText resourcesName) = .ok home →
      workspace.disk.tree.at? home = some (.directory entries) →
      (FileTree.directory entries).Named IsEntryName →
      (∀ fragment ∈ ignoreDirs, IsSpelledByNames fragment) →
      ((FileTree.directory entries).contentAt? place).isSome →
      IsIgnoredRightly workspace.disk.tree home ignoreDirs place := by
  intro claim
  have rightly := claim (priceWorkspace smileyEntries) [resourcesName] smileyEntries ["fonts"]
    ["copy", "my-assets", "fonts", "a.ttf"] rfl rfl smileyEntries_named (by decide) rfl
  obtain ⟨fragment, member, directory, followed, -⟩ := rightly.mp (by decide)
  cases List.mem_singleton.mp member
  cases followed

end AssetEntry

end DartRoutes
