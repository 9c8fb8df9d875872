import DartRoutes.Asset.Manifest
import DartRoutes.Proofs.ActionEffect
import DartRoutes.Proofs.NameCharacters
import DartRoutes.Proofs.RouterRoundTrip
import DartRoutes.Proofs.TreeFiles
import DartRoutes.Workspace.Input

/-!
# Completeness of the resource manifest

The written class of resource constants says which constants were collected, and these stand for
the files of the resource directory that are not ignored. A declaration is read up to its first
equals sign, so that sign and the line feed are the only characters that a file name must not have.
-/

namespace DartRoutes

/-- The character ends neither a line nor the name in a declaration. -/
def StaysDeclared (character : Char) : Prop :=
  character ≠ '\n' ∧ character ≠ '='

/-- No change of case makes a line feed or an equals sign. -/
theorem caseStable_staysDeclared : CaseStable StaysDeclared :=
  (caseStable_ne (by decide) (by decide)).and (caseStable_ne (by decide) (by decide))

namespace Path

variable {property : Char → Prop}

theorem forall_mem_parts_ofText {text : Text} (holds : ∀ character ∈ text, property character) :
    ∀ part ∈ (ofText text).parts, ∀ character ∈ part, property character :=
  fun part member => Text.forall_mem_splitOnP holds part (List.mem_of_mem_filter member)

variable {path : Path} (holds : ∀ part ∈ path.parts, ∀ character ∈ part, property character)

include holds

theorem forall_mem_name : ∀ character ∈ path.name, property character := by
  rw [name]
  cases found : path.parts.getLast? with
  | none => exact List.forall_mem_nil _
  | some last => exact holds last (List.mem_of_getLast? found)

theorem forall_mem_stem : ∀ character ∈ path.stem, property character := by
  have named := forall_mem_name holds
  rw [stem]
  split
  · exact fun character member => named character (List.take_subset _ _ member)
  · exact named

theorem forall_mem_extension : ∀ character ∈ path.extension, property character := by
  have named := forall_mem_name holds
  rw [extension]
  split
  · exact fun character member => named character (List.drop_subset _ _ member)
  · exact List.forall_mem_nil _

end Path

namespace AssetEntry

/-- The constant that a line declares: its name stands in front of the first equals sign. -/
def ofLine? (line : Text) : Option AssetEntry := do
  let declared ← Text.between? "  static const String " ";" line
  let name ← Text.withoutEnding? " " (declared.takeWhile (· != '='))
  let literal ← Text.withoutBeginning? "= " (declared.dropWhile (· != '='))
  return ⟨name, ← literalValue? literal⟩

/-- The constants that the lines of a source declare. -/
def declaredIn (source : Text) : List AssetEntry :=
  (source.splitOn '\n').filterMap ofLine?

theorem nameFor_staysDeclared {path : Text} (stays : ∀ character ∈ path, StaysDeclared character)
    (used : List Text) : ∀ character ∈ nameFor used path, StaysDeclared character := by
  have parts := Path.forall_mem_parts_ofText stays
  have parentParts : ∀ part ∈ (Path.ofText path).parent.parts, ∀ character ∈ part,
      StaysDeclared character :=
    fun part member => parts part (List.dropLast_subset _ member)
  have base : ∀ character ∈ baseName path, StaysDeclared character :=
    List.forall_mem_append.mpr
      ⟨caseStable_staysDeclared.toCamel (Path.forall_mem_stem parts),
        caseStable_staysDeclared.capitalize (Path.forall_mem_extension parts)⟩
  rw [nameFor]
  split
  · exact List.forall_mem_append.mpr
      ⟨caseStable_staysDeclared.toCamel (Path.forall_mem_name parentParts),
        caseStable_staysDeclared.capitalize base⟩
  · exact base

theorem map_path_assignFrom (used paths : List Text) :
    (assignFrom used paths).map path = paths := by
  induction paths generalizing used with
  | nil => rfl
  | cons path paths induction => exact congrArg (path :: ·) (induction _)

theorem map_path_collect (ignoreDirs paths : List Text) :
    (collect ignoreDirs paths).map path = paths.filter (!isIgnored ignoreDirs ·) :=
  map_path_assignFrom _ _

/-- A constant whose name and path stay on their line, the name in front of the equals sign. -/
structure IsReadable (entry : AssetEntry) : Prop where
  name : ∀ character ∈ entry.name, StaysDeclared character
  path : ∀ character ∈ entry.path, StaysDeclared character

theorem assignFrom_isReadable {paths : List Text}
    (stay : ∀ path ∈ paths, ∀ character ∈ path, StaysDeclared character) (used : List Text) :
    ∀ entry ∈ assignFrom used paths, entry.IsReadable := by
  induction paths generalizing used with
  | nil => exact List.forall_mem_nil _
  | cons path paths induction =>
      obtain ⟨first, others⟩ := List.forall_mem_cons.mp stay
      exact List.forall_mem_cons.mpr
        ⟨⟨nameFor_staysDeclared first used, first⟩, induction others _⟩

theorem ofLine?_constantLine {entry : AssetEntry} (readable : entry.IsReadable) :
    ofLine? (ManifestView.constantLine (entry.name, entry.path)) = some entry := by
  obtain ⟨name, path⟩ := entry
  have written : ManifestView.constantLine (name, path) =
      "  static const String " ++ name ++ " = " ++ dartLiteral path ++ ";" := rfl
  have shape : ManifestView.constantLine (name, path) =
      "  static const String " ++ (name ++ (" = " ++ dartLiteral path)) ++ ";" := by
    rw [written]
    simp only [List.append_assoc]
  have blank : (" = " ++ dartLiteral path : Text) = ' ' :: ("= " ++ dartLiteral path) := rfl
  have equals : ("= " ++ dartLiteral path : Text) = '=' :: ' ' :: dartLiteral path := rfl
  have inFront : ∀ character ∈ name ++ [' '], (character != '=') = true := by
    refine List.forall_mem_append.mpr ⟨?_, List.forall_mem_singleton.mpr rfl⟩
    exact fun character member => bne_iff_ne.mpr (readable.name character member).2
  have named : Text.withoutEnding? " " (name ++ [' ']) = some name :=
    Text.between?_append [] name [' ']
  have literal : Text.withoutBeginning? "= " ('=' :: ' ' :: dartLiteral path) =
      some (dartLiteral path) := Text.withoutBeginning?_eq_some_iff.mpr rfl
  rw [ofLine?, shape, Text.between?_append, Option.bind_eq_bind, Option.bind_some, blank,
    List.append_cons, equals, List.takeWhile_append_of_pos inFront,
    List.dropWhile_append_of_pos inFront, List.dropWhile_cons_of_neg (by decide),
    List.takeWhile_cons_of_neg (by decide), List.append_nil, named, Option.bind_some, literal,
    Option.bind_some, literalValue?_dartLiteral]
  rfl

theorem constantLine_fitsLine {entry : AssetEntry} (readable : entry.IsReadable) :
    '\n' ∉ ManifestView.constantLine (entry.name, entry.path) := by
  have inName : '\n' ∉ entry.name := fun inside => (readable.name _ inside).1 rfl
  have inPath : '\n' ∉ entry.path := fun inside => (readable.path _ inside).1 rfl
  have opening : '\n' ∉ ("  static const String " ++ entry.name ++ " = " : Text) :=
    RouterView.fitsLine_fill rfl inName rfl
  exact List.not_mem_append
    (List.not_mem_append opening (RouterView.dartLiteral_fitsLine inPath))
    (RouterView.fitsLine_ofList rfl)

theorem declaredIn_manifestSource {entries : List AssetEntry}
    (readable : ∀ entry ∈ entries, entry.IsReadable) :
    declaredIn (manifestSource entries) = entries := by
  let opening : List Text :=
    ["// GENERATED CODE - DO NOT MODIFY BY HAND", "", "class R \x7b", "  R._();", ""]
  let lines := entries.map fun entry => ManifestView.constantLine (entry.name, entry.path)
  let closing : List Text := ["\x7d"]
  have written : manifestSource entries = Text.ofLines (opening ++ (lines ++ closing)) := by
    rw [manifestSource, ManifestView.source, List.map_map]
    rfl
  have fit : ∀ line ∈ opening ++ (lines ++ closing), '\n' ∉ line := by
    refine List.forall_mem_append.mpr ⟨by decide, List.forall_mem_append.mpr ⟨?_, by decide⟩⟩
    exact List.forall_mem_map.mpr fun entry member => constantLine_fitsLine (readable entry member)
  have read : lines.filterMap ofLine? = entries := by
    rw [List.filterMap_map]
    exact (List.filterMap_congr fun entry member =>
      ofLine?_constantLine (readable entry member)).trans List.filterMap_some
  have before : opening.filterMap ofLine? = [] := rfl
  have behind : closing.filterMap ofLine? = [] := rfl
  have atEnd : ([[]] : List Text).filterMap ofLine? = [] := rfl
  rw [declaredIn, written, Text.splitOn_ofLines fit, List.filterMap_append, List.filterMap_append,
    List.filterMap_append, before, read, behind, atEnd, List.nil_append, List.append_nil,
    List.append_nil]

/-- The path of a file below a directory, seen from the directory around it. -/
def pathAt (directory : Path) (place : Place) : Text :=
  Text.join "/" (directory.parts.getLast?.toList ++ place)

/-- The name can stand in a directory. -/
def IsFileName (name : Text) : Prop :=
  '/' ∉ name

instance (name : Text) : Decidable (IsFileName name) :=
  inferInstanceAs (Decidable (_ ∉ _))

/-- The name can stand in a directory, and a declaration of its file can be read. -/
def IsAssetName (name : Text) : Prop :=
  '/' ∉ name ∧ '\n' ∉ name ∧ '=' ∉ name

instance (name : Text) : Decidable (IsAssetName name) :=
  inferInstanceAs (Decidable (_ ∧ _ ∧ _))

theorem isFileNamed {tree : FileTree} (named : tree.Named IsAssetName) : tree.Named IsFileName :=
  named.imp fun _ isAsset => isAsset.1

theorem join_injective {left right : List Text} (leftSlashless : ∀ name ∈ left, '/' ∉ name)
    (rightSlashless : ∀ name ∈ right, '/' ∉ name) (leftNamed : left ≠ []) (rightNamed : right ≠ [])
    (same : Text.join "/" left = Text.join "/" right) : left = right := by
  have leftSplit : (Text.join "/" left).splitOn '/' = left :=
    List.splitOn_intercalate '/' leftSlashless leftNamed
  have rightSplit : (Text.join "/" right).splitOn '/' = right :=
    List.splitOn_intercalate '/' rightSlashless rightNamed
  rw [← leftSplit, same, rightSplit]

theorem pathAt_injective (directory : Path) {place other : Place} (placeNamed : place ≠ [])
    (otherNamed : other ≠ []) (placeSlashless : ∀ name ∈ place, '/' ∉ name)
    (otherSlashless : ∀ name ∈ other, '/' ∉ name)
    (same : pathAt directory place = pathAt directory other) : place = other := by
  apply join_injective placeSlashless otherSlashless placeNamed otherNamed
  rw [pathAt, pathAt] at same
  cases last : directory.parts.getLast? with
  | none => rwa [last] at same
  | some name =>
      have joined : ∀ names : Place, names ≠ [] →
          Text.join "/" (name :: names) = name ++ "/" ++ Text.join "/" names :=
        fun names named => List.intercalate_cons_of_ne_nil named
      rw [last] at same
      change Text.join "/" (name :: place) = Text.join "/" (name :: other) at same
      rw [joined place placeNamed, joined other otherNamed] at same
      exact List.append_cancel_left same

/-- The paths of the files of a directory, in the order of its entries. -/
def pathsOf (directory : Path) (entries : List (Text × FileTree)) : List Text :=
  (FileTree.entryFiles entries).map fun file => pathAt directory file.1

section Tree

variable {directory : Path} {entries : List (Text × FileTree)}

theorem collectAssets_eq {workspace : Workspace}
    (found : workspace.disk.find directory = .ok (.directory entries)) (ignoreDirs : List Text) :
    Action.collectAssets directory ignoreDirs workspace =
      .ok (collect ignoreDirs (Text.sort (pathsOf directory entries))) workspace := by
  have listed : workspace.disk.list directory = .ok (Text.sort (pathsOf directory entries)) := by
    rw [Disk.list, Disk.find?, found]
    rfl
  rw [Action.collectAssets, Effect.bind_run, Action.ask_run, listed]
  rfl

theorem mem_pathsOf_iff {property : Text → Prop}
    (named : (FileTree.directory entries).Named property) {path : Text} :
    path ∈ pathsOf directory entries ↔
      ∃ place, ((FileTree.directory entries).contentAt? place).isSome ∧
        path = pathAt directory place := by
  rw [pathsOf, List.mem_map]
  constructor
  · rintro ⟨⟨place, content⟩, member, rfl⟩
    have isFile := named.mem_files_iff.mp member
    exact ⟨place, Option.isSome_iff_exists.mpr ⟨content, isFile⟩, rfl⟩
  · rintro ⟨place, isFile, rfl⟩
    obtain ⟨content, isFile⟩ := Option.isSome_iff_exists.mp isFile
    exact ⟨(place, content), named.mem_files_iff.mpr isFile, rfl⟩

/-- Different files of a directory have different paths. -/
theorem pathAt_injective_of_isFile (named : (FileTree.directory entries).Named IsFileName)
    {place other : Place}
    (isFile : ((FileTree.directory entries).contentAt? place).isSome)
    (otherIsFile : ((FileTree.directory entries).contentAt? other).isSome)
    (same : pathAt directory place = pathAt directory other) : place = other := by
  have below : ∀ place, ((FileTree.directory entries).contentAt? place).isSome → place ≠ [] := by
    rintro _ isRoot rfl
    cases isRoot
  exact pathAt_injective directory (below place isFile) (below other otherIsFile)
    (named.forall_mem_place isFile) (named.forall_mem_place otherIsFile) same

theorem pathsOf_nodup (named : (FileTree.directory entries).Named IsFileName) :
    (pathsOf directory entries).Nodup := by
  have places : ((FileTree.entryFiles entries).map Prod.fst).Nodup := named.files_nodup
  have isFile : ∀ place ∈ (FileTree.entryFiles entries).map Prod.fst,
      ((FileTree.directory entries).contentAt? place).isSome := by
    refine List.forall_mem_map.mpr fun file member => ?_
    exact Option.isSome_iff_exists.mpr ⟨file.2, named.mem_files_iff.mp member⟩
  have paths : pathsOf directory entries =
      ((FileTree.entryFiles entries).map Prod.fst).map (pathAt directory) := by
    rw [pathsOf, List.map_map]
    rfl
  rw [paths]
  exact places.map_on fun place member other otherMember same =>
    pathAt_injective_of_isFile named (isFile place member) (isFile other otherMember) same

theorem pathsOf_staysDeclared (named : (FileTree.directory entries).Named IsAssetName)
    (own : ∀ name ∈ directory.parts.getLast?, IsAssetName name) :
    ∀ path ∈ pathsOf directory entries, ∀ character ∈ path, StaysDeclared character := by
  intro path member
  obtain ⟨place, isFile, rfl⟩ := (mem_pathsOf_iff named).mp member
  have names : ∀ name ∈ directory.parts.getLast?.toList ++ place, IsAssetName name :=
    List.forall_mem_append.mpr
      ⟨fun name member => own name (Option.mem_toList.mp member), named.forall_mem_place isFile⟩
  have noLineFeed : '\n' ∉ pathAt directory place :=
    Disk.not_mem_join (by decide) fun name member => (names name member).2.1
  have noEquals : '=' ∉ pathAt directory place :=
    Disk.not_mem_join (by decide) fun name member => (names name member).2.2
  exact fun character inside =>
    ⟨fun same => noLineFeed (same ▸ inside), fun same => noEquals (same ▸ inside)⟩

/-- Which constants are collected depends on no order of entries. -/
theorem sort_pathsOf_eq {others : List (Text × FileTree)}
    (named : (FileTree.directory entries).Named IsFileName)
    (othersNamed : (FileTree.directory others).Named IsFileName)
    (sameFiles : ∀ place, ((FileTree.directory others).contentAt? place).isSome =
      ((FileTree.directory entries).contentAt? place).isSome) :
    Text.sort (pathsOf directory others) = Text.sort (pathsOf directory entries) := by
  apply Text.sort_eq_of_perm (pathsOf_nodup othersNamed)
  apply (List.perm_ext_iff_of_nodup (pathsOf_nodup othersNamed) (pathsOf_nodup named)).mpr
  intro path
  rw [mem_pathsOf_iff othersNamed, mem_pathsOf_iff named]
  simp only [sameFiles]

end Tree

/--
The manifest misses no resource and repeats none. For a directory of resources whose names, like
its own, hold no line feed and no equals sign:

* the declarations of the written class are the constants that were collected;
* their paths are those of the files that are not ignored, different for different files, and they
  increase strictly;
* a directory with files at the same places gives the same constants, in whatever order its entries
  and those of the directories in it come.
-/
theorem manifest_complete {workspace : Workspace} {directory : Path}
    {entries : List (Text × FileTree)} (ignoreDirs : List Text)
    (found : workspace.disk.find directory = .ok (.directory entries))
    (named : (FileTree.directory entries).Named IsAssetName)
    (own : ∀ name ∈ directory.parts.getLast?, IsAssetName name) :
    ∃ constants : List AssetEntry,
      Action.collectAssets directory ignoreDirs workspace = .ok constants workspace ∧
      declaredIn (manifestSource constants) = constants ∧
      (constants.map AssetEntry.path).Pairwise (· < ·) ∧
      (∀ path, path ∈ constants.map AssetEntry.path ↔
        isIgnored ignoreDirs path = false ∧
          ∃ place, ((FileTree.directory entries).contentAt? place).isSome ∧
            path = pathAt directory place) ∧
      (∀ place other, ((FileTree.directory entries).contentAt? place).isSome →
        ((FileTree.directory entries).contentAt? other).isSome →
        pathAt directory place = pathAt directory other → place = other) ∧
      ∀ (reordered : Workspace) (others : List (Text × FileTree)),
        reordered.disk.find directory = .ok (.directory others) →
        (FileTree.directory others).Named IsAssetName →
        (∀ place, ((FileTree.directory others).contentAt? place).isSome =
          ((FileTree.directory entries).contentAt? place).isSome) →
        Action.collectAssets directory ignoreDirs reordered = .ok constants reordered := by
  have stay : ∀ path ∈ (Text.sort (pathsOf directory entries)).filter (!isIgnored ignoreDirs ·),
      ∀ character ∈ path, StaysDeclared character := by
    intro path member
    have listed := Text.mem_sort.mp (List.mem_of_mem_filter member)
    exact pathsOf_staysDeclared named own path listed
  refine ⟨_, collectAssets_eq found ignoreDirs, ?_, ?_, ?_, ?_, ?_⟩
  · exact declaredIn_manifestSource (assignFrom_isReadable stay [])
  · rw [map_path_collect]
    exact (Text.sort_pairwise_lt (pathsOf_nodup (isFileNamed named))).filter _
  · intro path
    rw [map_path_collect, List.mem_filter, Text.mem_sort, mem_pathsOf_iff named, and_comm,
      Bool.not_eq_true']
  · exact fun place other => pathAt_injective_of_isFile (isFileNamed named)
  · intro reordered others otherFound othersNamed sameFiles
    rw [collectAssets_eq otherFound, sort_pathsOf_eq (isFileNamed named)
      (isFileNamed othersNamed) sameFiles]

/-- A directory with a name that needs escapes, with two files of one constant name and with a
directory that is ignored. -/
def priceEntries : List (Text × FileTree) :=
  [("it's $5\\kg.png", .file []), ("logo.png", .file []),
    ("icons", .directory [("logo.png", .file []), ("drafts", .directory [])]),
    ("drafts", .directory [("logo.png", .file [])])]

def priceWorkspace (entries : List (Text × FileTree)) : Workspace :=
  ⟨⟨.directory [("assets", .directory entries)], []⟩, [], []⟩

theorem priceEntries_named : ∀ entry ∈ priceEntries,
    IsAssetName entry.1 ∧ FileTree.Named IsAssetName entry.2 := by
  have empty : FileTree.Named IsAssetName (.directory []) :=
    .directory List.nodup_nil (List.forall_mem_nil _) (List.forall_mem_nil _)
  have icons : FileTree.Named IsAssetName
      (.directory [("logo.png", .file []), ("drafts", .directory [])]) :=
    .directory (by decide) (by decide)
      (List.forall_mem_cons.mpr ⟨.file _, List.forall_mem_singleton.mpr empty⟩)
  have drafts : FileTree.Named IsAssetName (.directory [("logo.png", .file [])]) :=
    .directory (by decide) (by decide) (List.forall_mem_singleton.mpr (.file _))
  simp only [priceEntries, List.forall_mem_cons]
  exact ⟨⟨by decide, .file _⟩, ⟨by decide, .file _⟩, ⟨by decide, icons⟩, ⟨by decide, drafts⟩,
    List.forall_mem_nil _⟩

theorem manifest_complete_of_prices :
    ∃ constants : List AssetEntry,
      Action.collectAssets (Path.ofText "assets") ["drafts"] (priceWorkspace priceEntries) =
        .ok constants (priceWorkspace priceEntries) ∧
      declaredIn (manifestSource constants) = constants ∧
      Action.collectAssets (Path.ofText "assets") ["drafts"]
        (priceWorkspace priceEntries.reverse) =
          .ok constants (priceWorkspace priceEntries.reverse) := by
  have distinct : (priceEntries.map Prod.fst).Nodup := by decide
  have perm : priceEntries.Perm priceEntries.reverse := (List.reverse_perm _).symm
  have named : (FileTree.directory priceEntries).Named IsAssetName :=
    .directory distinct (fun entry member => (priceEntries_named entry member).1)
      fun entry member => (priceEntries_named entry member).2
  have reversedNamed : (FileTree.directory priceEntries.reverse).Named IsAssetName :=
    .directory ((perm.map Prod.fst).nodup_iff.mp distinct)
      (fun entry member => (priceEntries_named entry (perm.mem_iff.mpr member)).1)
      fun entry member => (priceEntries_named entry (perm.mem_iff.mpr member)).2
  have sameFiles : ∀ place,
      ((FileTree.directory priceEntries.reverse).contentAt? place).isSome =
        ((FileTree.directory priceEntries).contentAt? place).isSome :=
    fun place => congrArg Option.isSome (FileTree.contentAt?_of_perm perm distinct place)
  obtain ⟨constants, collected, declared, -, -, -, reordered⟩ :=
    @manifest_complete (priceWorkspace priceEntries) (.ofText "assets") _ ["drafts"] rfl named
      (by decide)
  exact ⟨constants, collected, declared, reordered _ _ rfl reversedNamed sameFiles⟩

end AssetEntry

end DartRoutes
