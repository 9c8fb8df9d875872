import Mathlib
import DartRoutes.Proofs.AssetManifest

/-!
# Names of resource constants

The name of a resource constant is made of the words of a file name, its extension and, when that
name is taken, the words of the directory in front. For files and directories named with letters,
digits and separators the words lose the separators. An extension is not taken apart into words, and
the first word of a directory may start with a digit: these are the two ways for a constant to get a
name that is none.
-/

namespace DartRoutes

/-- What a name consists of. -/
def IsNameCharacter (character : Char) : Prop :=
  character.isAlphanum ∨ character = '_'

instance (character : Char) : Decidable (IsNameCharacter character) :=
  inferInstanceAs (Decidable (_ ∨ _))

def startsWithLetter (text : Text) : Bool :=
  text.head?.any Char.isAlpha

theorem startsWithLetter_iff {text : Text} :
    startsWithLetter text ↔ ∃ first, text.head? = some first ∧ first.isAlpha :=
  Option.any_eq_true Char.isAlpha text.head?

/-- A name that a class can give to a constant. -/
structure IsConstantName (name : Text) : Prop where
  starts : startsWithLetter name
  characters : ∀ character ∈ name, IsNameCharacter character

theorem forall_ascii (property : Char → Prop) (checked : ∀ code < 0x80, property (Char.ofNat code))
    {character : Char} (ascii : character.toNat < 0x80) : property character := by
  have holds := checked character.toNat ascii
  rwa [Char.ofNat_toNat] at holds

theorem ascii_of_isAlphanum {character : Char} (alphanumeric : character.isAlphanum) :
    character.toNat < 0x80 := by
  unfold Char.isAlphanum Char.isAlpha Char.isUpper Char.isLower Char.isDigit at alphanumeric
  simp only [Bool.or_eq_true, Bool.and_eq_true, decide_eq_true_eq, ge_iff_le,
    UInt32.le_iff_toNat_le] at alphanumeric
  have zLast : 'z'.val.toNat = 122 := rfl
  have upperLast : 'Z'.val.toNat = 90 := rfl
  have digitLast : '9'.val.toNat = 57 := rfl
  rw [Char.toNat]
  omega

theorem IsNameCharacter.ascii {character : Char} (inName : IsNameCharacter character) :
    character.toNat < 0x80 := by
  rcases inName with alphanumeric | rfl
  · exact ascii_of_isAlphanum alphanumeric
  · decide

theorem caseStable_isNameCharacter : CaseStable IsNameCharacter where
  underscore := .inr rfl
  finalSigma := fun inName => absurd inName.ascii (by decide)
  lowered := by
    intro character inName
    have keeps := forall_ascii (fun other => IsNameCharacter other → IsNameCharacter other.toLower)
      (by decide) inName.ascii
    rw [lowerCharacter, if_pos inName.ascii]
    exact List.forall_mem_singleton.mpr (keeps inName)
  uppered := by
    intro character inName
    have keeps := forall_ascii (fun other => IsNameCharacter other → IsNameCharacter other.toUpper)
      (by decide) inName.ascii
    rw [upperCharacter, if_pos inName.ascii]
    exact List.forall_mem_singleton.mpr (keeps inName)

theorem isAlpha_iff_not_isDigit {character : Char} (alphanumeric : character.isAlphanum) :
    character.isAlpha ↔ ¬ character.isDigit :=
  forall_ascii (fun other => other.isAlphanum → (other.isAlpha ↔ ¬ other.isDigit)) (by decide)
    (ascii_of_isAlphanum alphanumeric) alphanumeric

/-- The characters of the names of resources and their directories. -/
def IsResourceCharacter (character : Char) : Prop :=
  character.isAlphanum ∨ isResourceSeparator character

instance (character : Char) : Decidable (IsResourceCharacter character) :=
  inferInstanceAs (Decidable (_ ∨ _))

theorem isResourceSeparator_iff {character : Char} :
    isResourceSeparator character ↔ character = '_' ∨ character = '-' ∨ character = '.' := by
  simp [isResourceSeparator, or_assoc]

theorem IsResourceCharacter.ascii {character : Char} (resource : IsResourceCharacter character) :
    character.toNat < 0x80 := by
  rcases resource with alphanumeric | separator
  · exact ascii_of_isAlphanum alphanumeric
  · rcases isResourceSeparator_iff.mp separator with rfl | rfl | rfl <;> decide

section Words

variable {name : Text} (resource : ∀ character ∈ name, IsResourceCharacter character)

include resource

theorem isNameCharacter_of_mem_toCamel : ∀ character ∈ toCamel name, IsNameCharacter character := by
  apply caseStable_isNameCharacter.toCamel_of_words
  intro word isWord character member
  have within := Text.forall_mem_splitOnP resource word isWord character member
  have separates := Text.not_separates_of_mem_splitOnP name word isWord character member
  rcases within with alphanumeric | separator
  · exact .inl alphanumeric
  · rw [separates] at separator
    cases separator

/-- The words begin with the first character that separates no words, as a capital. -/
theorem head?_flatMap_capitalize :
    ((name.splitOnP isResourceSeparator).flatMap capitalize).head? =
      (name.find? (!isResourceSeparator ·)).map Char.toUpper := by
  induction name with
  | nil => rfl
  | cons character rest induction =>
      obtain ⟨first, others⟩ := List.forall_mem_cons.mp resource
      rw [List.splitOnP_cons_eq_if_modifyHead]
      cases separates : isResourceSeparator character with
      | true => simpa [separates, capitalize] using induction others
      | false =>
          cases split : rest.splitOnP isResourceSeparator with
          | nil => exact absurd split (List.splitOnP_ne_nil _ _)
          | cons head tail =>
              simp [separates, capitalize, Text.upper, upperCharacter, first.ascii]

/-- Camel case begins with the first character that separates no words, small or as a capital. -/
theorem head?_toCamel :
    (toCamel name).head? = (name.find? (!isResourceSeparator ·)).map Char.toLower ∨
      (toCamel name).head? = (name.find? (!isResourceSeparator ·)).map Char.toUpper := by
  cases name with
  | nil => exact .inl rfl
  | cons character rest =>
      obtain ⟨first, others⟩ := List.forall_mem_cons.mp resource
      rw [toCamel, List.splitOnP_cons_eq_if_modifyHead]
      cases separates : isResourceSeparator character with
      | true =>
          right
          simpa [separates, Text.lower, Text.lowerAfter] using head?_flatMap_capitalize others
      | false =>
          left
          cases split : rest.splitOnP isResourceSeparator with
          | nil => exact absurd split (List.splitOnP_ne_nil _ _)
          | cons head tail =>
              have noSigma : character ≠ 'Σ' := by
                rintro rfl
                exact absurd first (by decide)
              simp [separates, Text.lower, Text.lowerAfter, lowerCharacter, first.ascii, noSigma]

theorem exists_head?_toCamel {first : Char}
    (found : name.find? (!isResourceSeparator ·) = some first) :
    ∃ written, (toCamel name).head? = some written ∧ written.isAlpha = first.isAlpha := by
  rcases head?_toCamel resource with small | capital
  · rw [found, Option.map_some] at small
    exact ⟨_, small, Char.isAlpha_toLower_eq_isAlpha first⟩
  · rw [found, Option.map_some] at capital
    exact ⟨_, capital, Char.isAlpha_toUpper_eq_isAlpha first⟩

theorem toCamel_eq_nil (none : name.find? (!isResourceSeparator ·) = none) : toCamel name = [] := by
  apply List.head?_eq_none_iff.mp
  rcases head?_toCamel resource with small | capital
  · rw [small, none, Option.map_none]
  · rw [capital, none, Option.map_none]

end Words

theorem mem_capitalize {mark : Char} {text : Text} (ascii : mark.toNat < 0x80)
    (lower : mark.toLower = mark) (upper : mark.toUpper = mark) (member : mark ∈ text) :
    mark ∈ capitalize text := by
  cases text with
  | nil => cases member
  | cons first rest =>
      rcases List.mem_cons.mp member with rfl | further
      · simp [capitalize, Text.upper, upperCharacter, ascii, upper]
      · exact List.mem_append_right _ (Text.mem_lower ascii lower further)

namespace Path

/-- An extension begins behind the last dot. -/
theorem dot_not_mem_extension (path : Path) : '.' ∉ path.extension := by
  rw [extension]
  split
  · rename_i start found
    rw [extensionStart?] at found
    split at found
    · cases found
    · rename_i behind isIndex
      dsimp only at found
      split at found
      · cases found
        obtain ⟨inside, -, before⟩ := List.findIdx?_eq_some_iff_getElem.mp isIndex
        rw [List.length_reverse] at inside
        have rest : path.name.length - 1 - behind + 1 = path.name.length - behind := by omega
        intro member
        rw [rest, ← List.mem_reverse, ← List.take_reverse] at member
        obtain ⟨index, bound, isDot⟩ := List.mem_take_iff_getElem.mp member
        have noDot := before index (by omega)
        simp [isDot] at noDot
      · cases found
  · exact List.not_mem_nil

theorem head?_stem (path : Path) : path.stem.head? = path.name.head? := by
  rw [stem]
  split
  · rename_i start found
    rw [extensionStart?] at found
    split at found
    · cases found
    · dsimp only at found
      split at found
      · rename_i inner
        cases found
        rw [List.head?_take, if_neg (by omega)]
      · cases found
  · rfl

end Path

namespace AssetEntry

/-- The parts of the path are resource names, and the file name starts with a letter. -/
structure IsResourcePath (path : Text) : Prop where
  characters : ∀ part ∈ (Path.ofText path).parts, ∀ character ∈ part, IsResourceCharacter character
  letter : startsWithLetter (Path.ofText path).name

section Path

variable {path : Text} (isResource : IsResourcePath path)

include isResource

theorem isNameCharacter_of_mem_stem :
    ∀ character ∈ toCamel (Path.ofText path).stem, IsNameCharacter character :=
  isNameCharacter_of_mem_toCamel (Path.forall_mem_stem isResource.characters)

/-- Of the characters of an extension only the hyphen is none of a name. -/
theorem isNameCharacter_of_mem_extension (plain : '-' ∉ (Path.ofText path).extension) :
    ∀ character ∈ (Path.ofText path).extension, IsNameCharacter character := by
  intro character member
  rcases Path.forall_mem_extension isResource.characters character member with
    alphanumeric | separator
  · exact .inl alphanumeric
  · rcases isResourceSeparator_iff.mp separator with underscore | rfl | rfl
    · exact .inr underscore
    · exact absurd member plain
    · exact absurd member (Path.dot_not_mem_extension _)

theorem forall_mem_baseName_iff :
    (∀ character ∈ baseName path, IsNameCharacter character) ↔
      '-' ∉ (Path.ofText path).extension := by
  constructor
  · intro inName member
    have kept : '-' ∈ baseName path :=
      List.mem_append_right _ (mem_capitalize (by decide) (by decide) (by decide) member)
    exact absurd (inName '-' kept) (by decide)
  · intro plain
    exact List.forall_mem_append.mpr ⟨isNameCharacter_of_mem_stem isResource,
      caseStable_isNameCharacter.capitalize (isNameCharacter_of_mem_extension isResource plain)⟩

theorem forall_mem_capitalize_baseName_iff :
    (∀ character ∈ capitalize (baseName path), IsNameCharacter character) ↔
      '-' ∉ (Path.ofText path).extension := by
  constructor
  · intro inName member
    have inBase : '-' ∈ baseName path :=
      List.mem_append_right _ (mem_capitalize (by decide) (by decide) (by decide) member)
    have kept := mem_capitalize (by decide) (by decide) (by decide) inBase
    exact absurd (inName '-' kept) (by decide)
  · intro plain
    exact caseStable_isNameCharacter.capitalize ((forall_mem_baseName_iff isResource).mpr plain)

theorem startsWithLetter_baseName : startsWithLetter (baseName path) := by
  obtain ⟨first, isFirst, isAlpha⟩ := startsWithLetter_iff.mp isResource.letter
  rw [← Path.head?_stem] at isFirst
  have noSeparator : isResourceSeparator first = false := by
    apply Bool.eq_false_iff.mpr
    intro separator
    rcases isResourceSeparator_iff.mp separator with rfl | rfl | rfl <;> cases isAlpha
  have found : (Path.ofText path).stem.find? (!isResourceSeparator ·) = some first := by
    obtain ⟨rest, shape⟩ := List.head?_eq_some_iff.mp isFirst
    rw [shape]
    exact List.find?_cons_of_pos (by simp [noSeparator])
  have resource := Path.forall_mem_stem isResource.characters
  obtain ⟨written, isHead, same⟩ := exists_head?_toCamel resource found
  apply startsWithLetter_iff.mpr
  refine ⟨written, ?_, same.trans isAlpha⟩
  rw [baseName, List.head?_append, isHead, Option.some_or]

theorem startsWithLetter_capitalize_baseName : startsWithLetter (capitalize (baseName path)) := by
  obtain ⟨first, isFirst, isAlpha⟩ :=
    startsWithLetter_iff.mp (startsWithLetter_baseName isResource)
  obtain ⟨rest, shape⟩ := List.head?_eq_some_iff.mp isFirst
  have ascii : first.toNat < 0x80 :=
    ascii_of_isAlphanum (by rw [Char.isAlphanum, isAlpha, Bool.true_or])
  apply startsWithLetter_iff.mpr
  refine ⟨first.toUpper, ?_, by rwa [Char.isAlpha_toUpper_eq_isAlpha]⟩
  rw [shape]
  simp [capitalize, Text.upper, upperCharacter, ascii]

theorem isConstantName_baseName_iff :
    IsConstantName (baseName path) ↔ '-' ∉ (Path.ofText path).extension := by
  rw [← forall_mem_baseName_iff isResource]
  constructor
  · exact IsConstantName.characters
  · exact IsConstantName.mk (startsWithLetter_baseName isResource)

theorem isResourceCharacter_of_mem_parent :
    ∀ character ∈ (Path.ofText path).parent.name, IsResourceCharacter character := by
  apply Path.forall_mem_name
  exact fun part member => isResource.characters part (List.dropLast_subset _ member)

/-- The first word of the directory is the beginning of the name. -/
theorem startsWithLetter_prefixed_iff :
    startsWithLetter (toCamel (Path.ofText path).parent.name ++ capitalize (baseName path)) ↔
      ∀ first ∈ (Path.ofText path).parent.name.find? (!isResourceSeparator ·),
        ¬ first.isDigit := by
  have resource := isResourceCharacter_of_mem_parent isResource
  cases found : (Path.ofText path).parent.name.find? (!isResourceSeparator ·) with
  | none =>
      rw [toCamel_eq_nil resource found]
      simpa using startsWithLetter_capitalize_baseName isResource
  | some first =>
      obtain ⟨written, isHead, same⟩ := exists_head?_toCamel resource found
      have separates : isResourceSeparator first = false := by simpa using List.find?_some found
      have alphanumeric : first.isAlphanum :=
        (resource first (List.mem_of_find?_eq_some found)).resolve_right (by simp [separates])
      rw [startsWithLetter, List.head?_append, isHead, Option.some_or]
      simpa [same] using isAlpha_iff_not_isDigit alphanumeric

theorem isConstantName_prefixed_iff :
    IsConstantName (toCamel (Path.ofText path).parent.name ++ capitalize (baseName path)) ↔
      '-' ∉ (Path.ofText path).extension ∧
        ∀ first ∈ (Path.ofText path).parent.name.find? (!isResourceSeparator ·),
          ¬ first.isDigit := by
  have inFront := isNameCharacter_of_mem_toCamel (isResourceCharacter_of_mem_parent isResource)
  rw [← startsWithLetter_prefixed_iff isResource, ← forall_mem_capitalize_baseName_iff isResource]
  constructor
  · rintro ⟨starts, characters⟩
    exact ⟨(List.forall_mem_append.mp characters).2, starts⟩
  · rintro ⟨characters, starts⟩
    exact ⟨starts, List.forall_mem_append.mpr ⟨inFront, characters⟩⟩

theorem isConstantName_nameFor_iff (used : List Text) :
    IsConstantName (nameFor used path) ↔
      '-' ∉ (Path.ofText path).extension ∧
        (nameFor used path = baseName path ∨
          ∀ first ∈ (Path.ofText path).parent.name.find? (!isResourceSeparator ·),
            ¬ first.isDigit) := by
  by_cases same : nameFor used path = baseName path
  · rw [same, isConstantName_baseName_iff isResource]
    simp
  · have collides : baseName path ∈ used := by
      by_contra fresh
      exact same (if_neg fresh)
    have prefixed : nameFor used path =
        toCamel (Path.ofText path).parent.name ++ capitalize (baseName path) := if_pos collides
    rw [or_iff_right same, prefixed, isConstantName_prefixed_iff isResource]

end Path

/-- A name for a resource or for a directory of resources. -/
def IsResourceName (name : Text) : Prop :=
  Path.isPart name ∧ ∀ character ∈ name, IsResourceCharacter character

instance (name : Text) : Decidable (IsResourceName name) :=
  decidable_of_iff (Path.isPart name ∧ name.all fun character => IsResourceCharacter character)
    (by simp [IsResourceName])

theorem IsResourceName.isAssetName {name : Text} (isResource : IsResourceName name) :
    IsAssetName name := by
  refine ⟨?_, ?_, ?_⟩
  · exact fun member => absurd (isResource.2 _ member) (by decide)
  · exact fun member => absurd (isResource.2 _ member) (by decide)
  · exact fun member => absurd (isResource.2 _ member) (by decide)

/-- A directory of resources, in which the name of every file starts with a letter. -/
structure IsResourceTree (directory : Path) (entries : List (Text × FileTree)) : Prop where
  own : ∀ name ∈ directory.parts.getLast?, IsResourceName name
  names : (FileTree.directory entries).Named IsResourceName
  letters : ∀ place, ((FileTree.directory entries).contentAt? place).isSome →
    ∀ name ∈ place.getLast?, startsWithLetter name

theorem parts_ofText_join {names : List Text} (nonempty : names ≠ [])
    (isResource : ∀ name ∈ names, IsResourceName name) :
    (Path.ofText (Text.join "/" names)).parts = names := by
  have slashless : ∀ name ∈ names, '/' ∉ name :=
    fun name member => (isResource name member).isAssetName.1
  have split : (Text.join "/" names).splitOn '/' = names :=
    List.splitOn_intercalate '/' slashless nonempty
  rw [Path.ofText, split]
  exact List.filter_eq_self.mpr fun name member => (isResource name member).1

namespace IsResourceTree

variable {directory : Path} {entries : List (Text × FileTree)}
  (tree : IsResourceTree directory entries)

include tree

theorem isAssetNamed : (FileTree.directory entries).Named IsAssetName :=
  tree.names.imp fun _ => IsResourceName.isAssetName

theorem isResourcePath {path : Text} (listed : path ∈ pathsOf directory entries) :
    IsResourcePath path := by
  obtain ⟨place, isFile, rfl⟩ := (mem_pathsOf_iff tree.isAssetNamed).mp listed
  have below : place ≠ [] := by
    rintro rfl
    cases isFile
  have names : ∀ name ∈ directory.parts.getLast?.toList ++ place, IsResourceName name :=
    List.forall_mem_append.mpr ⟨fun name member => tree.own name (Option.mem_toList.mp member),
      tree.names.forall_mem_place isFile⟩
  have parts := parts_ofText_join (List.append_ne_nil_of_right_ne_nil _ below) names
  constructor
  · rw [pathAt, parts]
    exact fun name member => (names name member).2
  · have isLast : place.getLast below ∈ place.getLast? := List.getLast?_eq_some_getLast below
    have isName : (Path.ofText (pathAt directory place)).name = place.getLast below := by
      rw [pathAt, Path.name, parts, List.getLast?_append, isLast, Option.some_or, Option.getD_some]
    rw [isName]
    exact tree.letters place isFile _ isLast

end IsResourceTree

theorem exists_used_of_mem_assignFrom {used paths : List Text} {entry : AssetEntry}
    (member : entry ∈ assignFrom used paths) :
    entry.path ∈ paths ∧ ∃ taken, entry.name = nameFor taken entry.path := by
  induction paths generalizing used with
  | nil => cases member
  | cons path paths induction =>
      rcases List.mem_cons.mp member with rfl | further
      · exact ⟨List.mem_cons_self, used, rfl⟩
      · obtain ⟨listed, named⟩ := induction further
        exact ⟨List.mem_cons_of_mem path listed, named⟩

/--
The constants of a directory of resources. Each of them has a name that a class can give to a
constant exactly if no hyphen is in the extension of its file and, should the base name be taken,
the first word of the directory around the file does not start with a digit.
-/
theorem collectAssets_isConstantName_iff {workspace : Workspace} {directory : Path}
    {entries : List (Text × FileTree)} (ignoreDirs : List Text)
    (found : workspace.disk.find directory = .ok (.directory entries))
    (tree : IsResourceTree directory entries) :
    ∃ constants : List AssetEntry,
      Action.collectAssets directory ignoreDirs workspace = .ok constants workspace ∧
      ∀ entry ∈ constants, IsConstantName entry.name ↔
        '-' ∉ (Path.ofText entry.path).extension ∧
          (entry.name = baseName entry.path ∨
            ∀ first ∈ (Path.ofText entry.path).parent.name.find? (!isResourceSeparator ·),
              ¬ first.isDigit) := by
  refine ⟨_, collectAssets_eq found ignoreDirs, ?_⟩
  intro entry member
  obtain ⟨listed, taken, named⟩ := exists_used_of_mem_assignFrom member
  have isPath := tree.isResourcePath (Text.mem_sort.mp (List.mem_of_mem_filter listed))
  rw [named]
  exact isConstantName_nameFor_iff isPath taken

/-- Pictures in two scales, and one with a hyphen in its extension. -/
def scaledEntries : List (Text × FileTree) :=
  [("1.5x", .directory [("logo.png", .file [])]), ("2.0x", .directory [("logo.png", .file [])]),
    ("logo.png-bak", .file [])]

def scaledWorkspace : Workspace :=
  ⟨⟨.directory [("assets", .directory scaledEntries)], []⟩, [], []⟩

theorem scaledEntries_tree : IsResourceTree (.ofText "assets") scaledEntries where
  own := by decide
  names := by
    have scale : (FileTree.directory [("logo.png", .file [])]).Named IsResourceName :=
      .directory (by decide) (by decide) (List.forall_mem_singleton.mpr (.file _))
    refine .directory (by decide) (by decide) ?_
    simp only [scaledEntries, List.forall_mem_cons]
    exact ⟨scale, scale, .file _, List.forall_mem_nil _⟩
  letters := by
    have checked : ∀ place ∈ (FileTree.directory scaledEntries).files.map Prod.fst,
        ∀ name ∈ place.getLast?, startsWithLetter name := by
      decide
    exact fun place isFile => checked place (FileTree.mem_files_of_isSome isFile)

theorem collectAssets_scaled :
    Action.collectAssets (.ofText "assets") [] scaledWorkspace =
      .ok [⟨"logoPng", "assets/1.5x/logo.png"⟩, ⟨"20xLogopng", "assets/2.0x/logo.png"⟩,
        ⟨"logoPng-bak", "assets/logo.png-bak"⟩] scaledWorkspace := by
  rw [@collectAssets_eq (.ofText "assets") scaledEntries scaledWorkspace rfl []]
  have sorted : Text.sort (pathsOf (.ofText "assets") scaledEntries) =
      pathsOf (.ofText "assets") scaledEntries := Text.sort_of_pairwise (by decide)
  have named : collect [] (pathsOf (.ofText "assets") scaledEntries) =
      [⟨"logoPng", "assets/1.5x/logo.png"⟩, ⟨"20xLogopng", "assets/2.0x/logo.png"⟩,
        ⟨"logoPng-bak", "assets/logo.png-bak"⟩] := by decide
  rw [sorted, named]

/-- Of the three pictures only the first one gets a name for a constant. -/
theorem collectAssets_isConstantName_iff_scaled :
    IsConstantName "logoPng" ∧ ¬ IsConstantName "20xLogopng" ∧ ¬ IsConstantName "logoPng-bak" := by
  obtain ⟨constants, collected, named⟩ := @collectAssets_isConstantName_iff scaledWorkspace
    (.ofText "assets") scaledEntries [] rfl scaledEntries_tree
  rw [collectAssets_scaled] at collected
  cases collected
  simp only [List.forall_mem_cons] at named
  refine ⟨named.1.mpr (by decide), ?_, ?_⟩
  · intro isName
    obtain ⟨-, same | noDigit⟩ := named.2.1.mp isName
    · exact absurd same (by decide)
    · exact noDigit '2' (by decide) rfl
  · intro isName
    exact (named.2.2.1.mp isName).1 (by decide)

/-- A resource with a plain file name gets a constant that a class cannot have. -/
theorem not_forall_isConstantName :
    ¬ ∀ (workspace : Workspace) (directory : Path) (entries : List (Text × FileTree))
        (ignoreDirs : List Text) (constants : List AssetEntry),
      workspace.disk.find directory = .ok (.directory entries) →
      IsResourceTree directory entries →
      Action.collectAssets directory ignoreDirs workspace = .ok constants workspace →
      ∀ entry ∈ constants, IsConstantName entry.name := by
  intro claim
  have named := claim scaledWorkspace (.ofText "assets") scaledEntries [] _ rfl scaledEntries_tree
    collectAssets_scaled ⟨"logoPng-bak", "assets/logo.png-bak"⟩ (by simp)
  exact absurd (named.characters '-' (by decide)) (by decide)

end AssetEntry

end DartRoutes
