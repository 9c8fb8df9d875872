import DartRoutes.Proofs.DiskObstacle
import DartRoutes.Proofs.ProjectInput
import DartRoutes.Proofs.ReferenceClosure

/-!
# Paths of feature files

The file of a layer lies below the directories that the group names, one for each name between
slashes. Its place says which group, which layer and which file stem it belongs to, so that two
pages share a file only if they share the group and the stem. No file lies where another one needs a
directory, as the names of files have extensions.
-/

namespace DartRoutes

/-- Is the group made of names with single slashes between them? -/
def IsGroup (group : Text) : Prop :=
  ∀ name ∈ group.splitOn '/', name ≠ [] ∧ IsName name

instance (group : Text) : Decidable (IsGroup group) :=
  inferInstanceAs (Decidable (∀ name ∈ group.splitOn '/', _ ∧ _))

theorem splitOn_eq_singleton {text : Text} {separator : Char} (apart : separator ∉ text) :
    text.splitOn separator = [text] :=
  List.splitOnP_eq_singleton fun _ member =>
    beq_eq_false_iff_ne.mpr fun same => apart (same ▸ member)

theorem join_splitOn (text : Text) : Text.join "/" (text.splitOn '/') = text :=
  List.intercalate_splitOn '/'

theorem eq_of_splitOn_eq {left right : Text} (same : left.splitOn '/' = right.splitOn '/') :
    left = right := by
  rw [← join_splitOn left, same, join_splitOn]

theorem isGroup_of_isName {group : Text} (named : group ≠ []) (isName : IsName group) :
    IsGroup group := by
  rw [IsGroup, splitOn_eq_singleton (isName.not_mem rfl)]
  exact List.forall_mem_singleton.mpr ⟨named, isName⟩

theorem IsGroup.ne_nil {group : Text} (isGroup : IsGroup group) : group ≠ [] := by
  rintro rfl
  exact (isGroup [] List.mem_cons_self).1 rfl

theorem IsGroup.not_mem {group : Text} (isGroup : IsGroup group) {character : Char}
    (noPart : isNamePart character = false) (noSlash : character ≠ '/') : character ∉ group := by
  rw [← join_splitOn group]
  refine Disk.not_mem_join ?_ fun name member => (isGroup name member).2.not_mem noPart
  exact fun member => noSlash (List.mem_singleton.mp member)

theorem IsName.isPart {name : Text} (isName : IsName name) (named : name ≠ []) :
    Path.isPart name = true := by
  have noDot : name ≠ ['.'] := by
    rintro rfl
    exact absurd (isName '.' List.mem_cons_self) (by decide)
  rw [Path.isPart, Bool.and_eq_true, Bool.not_eq_true', List.isEmpty_eq_false_iff, bne_iff_ne]
  exact ⟨named, noDot⟩

namespace Path

theorem anchorOf_eq_relative {text : Text} (apart : ∀ rest, text ≠ '/' :: rest) :
    anchorOf text = .relative := by
  rw [anchorOf.eq_def]
  split
  · exact absurd rfl (apart _)
  · exact absurd rfl (apart _)
  · exact absurd rfl (apart _)
  · rfl

theorem ofText_of_isGroup {group : Text} (isGroup : IsGroup group) :
    ofText group = ⟨.relative, group.splitOn '/'⟩ := by
  have relative : ∀ rest, group ≠ '/' :: rest := by
    rintro rest rfl
    have starts : [] ∈ ('/' :: rest).splitOn '/' := by
      rw [List.splitOn, List.splitOnP_cons_eq_if_modifyHead]
      exact List.mem_cons_self
    exact (isGroup [] starts).1 rfl
  rw [ofText, anchorOf_eq_relative relative, List.filter_eq_self.mpr]
  exact fun name member => (isGroup name member).2.isPart (isGroup name member).1

theorem ofText_of_slashless {text : Text} (slashless : '/' ∉ text) (long : 2 ≤ text.length) :
    ofText text = ⟨.relative, [text]⟩ := by
  have relative : ∀ rest, text ≠ '/' :: rest :=
    fun rest starts => slashless (starts ▸ List.mem_cons_self)
  rw [ofText, anchorOf_eq_relative relative, splitOn_eq_singleton slashless,
    List.filter_cons_of_pos (isPart_of_long long), List.filter_nil]

end Path

namespace Layer

/-- The directories of a layer, seen from the directory of the group. -/
def folder (layer : Layer) : List Text :=
  (Path.ofText layer.directory).parts

def fileName (route : Route) (layer : Layer) : Text :=
  layerStem route.page layer.stemEnding ++ ".dart"

theorem isName_stemEnding (layer : Layer) : IsName layer.stemEnding := by
  cases layer <;> exact List.all_eq_true.mp (by decide)

theorem slashless_fileName {route : Route} (isName : IsName route.page) (layer : Layer) :
    '/' ∉ layer.fileName route := by
  have stem : IsName (layerStem route.page layer.stemEnding) :=
    caseClosed_isNamePart.layerStem isName layer.isName_stemEnding
  exact List.not_mem_append (stem.not_mem rfl) (by decide)

theorem path_eq (featuresDir : Path) {route : Route} (isGroup : IsGroup route.group)
    (isName : IsName route.page) (layer : Layer) :
    layer.path featuresDir route = ⟨featuresDir.anchor, featuresDir.parts ++
      (route.group.splitOn '/' ++ (layer.folder ++ [layer.fileName route]))⟩ := by
  have slashless := layer.slashless_fileName isName
  have long : 2 ≤ (layer.fileName route).length :=
    Nat.le_trans (by decide) (List.suffix_append _ (".dart" : Text)).length_le
  have file : Path.ofText (layer.fileName route) = ⟨.relative, [layer.fileName route]⟩ :=
    Path.ofText_of_slashless slashless long
  have folder : Path.ofText layer.directory = ⟨.relative, layer.folder⟩ := by
    cases layer <;> rfl
  change ((featuresDir.join (Path.ofText route.group)).join (Path.ofText layer.directory)).join
    (Path.ofText (layer.fileName route)) = _
  rw [file, folder, Path.ofText_of_isGroup isGroup]
  simp only [Path.join, List.append_assoc]

theorem isNamed_path (featuresDir : Path) (route : Route) (layer : Layer) :
    (layer.path featuresDir route).IsNamed := by
  obtain ⟨front, name, parts, suffix⟩ := layer.exists_parts_path featuresDir route
  refine ⟨⟨(layer.path featuresDir route).anchor, front⟩, name, ?_, ?_⟩
  · rw [Path.child, ← parts]
  · rintro rfl
    cases layer <;> exact absurd suffix (by decide)

theorem isName_folder (layer : Layer) : ∀ name ∈ layer.folder, IsName name := by
  cases layer <;> exact fun name member => List.all_eq_true.mp
    (List.all_eq_true.mp (by decide : List.all _ fun name => name.all isNamePart) name member)

theorem not_isName_fileName (route : Route) (layer : Layer) :
    ¬ IsName (layer.fileName route) := by
  intro isName
  have absent : '.' ∉ layer.fileName route := isName.not_mem rfl
  exact absent (List.mem_append_right _ (by decide))

theorem nameEnding_suffix_fileName (route : Route) (layer : Layer) :
    layer.nameEnding <:+ layer.fileName route := by
  have file : layer.fileName route =
      Snake.ofClass (stripPageSuffix route.page) ++ layer.nameEnding := by
    simp only [fileName, layerStem, nameEnding, List.append_assoc]
  rw [file]
  exact List.suffix_append _ _

theorem eq_of_fileName_eq {route other : Route} {layer otherLayer : Layer}
    (same : layer.fileName route = otherLayer.fileName other) : layer = otherLayer := by
  have ends := layer.nameEnding_suffix_fileName route
  rw [same] at ends
  have suffix := List.suffix_or_suffix_of_suffix ends (otherLayer.nameEnding_suffix_fileName other)
  revert suffix
  cases layer <;> cases otherLayer <;> decide

section Named

variable (featuresDir : Path) {route other : Route} (layer otherLayer : Layer)
  (isGroup : IsGroup route.group) (isName : IsName route.page)
  (otherIsGroup : IsGroup other.group) (otherIsName : IsName other.page)

include isGroup isName

theorem parent_path_eq :
    (layer.path featuresDir route).parent =
      ⟨featuresDir.anchor, featuresDir.parts ++ (route.group.splitOn '/' ++ layer.folder)⟩ := by
  rw [layer.path_eq featuresDir isGroup isName, Path.parent]
  simp only [← List.append_assoc, List.dropLast_concat]

theorem not_mem_path (descends : Disk.parentName ∉ featuresDir.parts) :
    Disk.parentName ∉ (layer.path featuresDir route).parts := by
  have noName : ¬ IsName Disk.parentName := fun isName => absurd (isName '.' List.mem_cons_self)
    (by decide)
  rw [layer.path_eq featuresDir isGroup isName]
  simp only [List.mem_append, List.mem_singleton, not_or]
  refine ⟨descends, fun member => noName (isGroup _ member).2,
    fun member => noName (layer.isName_folder _ member), fun isFile => ?_⟩
  have suffix := layer.nameEnding_suffix_fileName route
  rw [← isFile] at suffix
  cases layer <;> exact absurd suffix (by decide)

section Place

variable (descends : Disk.parentName ∉ featuresDir.parts) (disk : Disk)

include descends

theorem placeOf_path :
    disk.placeOf (layer.path featuresDir route) = disk.placeOf featuresDir ++
      (route.group.splitOn '/' ++ (layer.folder ++ [layer.fileName route])) := by
  have below := layer.not_mem_path featuresDir isGroup isName descends
  rw [layer.path_eq featuresDir isGroup isName] at below ⊢
  rw [Disk.placeOf, Disk.placeOf, Disk.foldl_enter_of_not_mem below,
    Disk.foldl_enter_of_not_mem descends, List.append_assoc]
  rfl

/-- What a file needs as directories lies on the way to the directory of the features, or between
this directory and the file. -/
theorem crosses_parent_iff {place : Place} :
    disk.Crosses (layer.path featuresDir route).parent place ↔
      ∃ names, names <+: featuresDir.parts ++ (route.group.splitOn '/' ++ layer.folder) ∧
        disk.start featuresDir ++ names = place := by
  have below := layer.not_mem_path featuresDir isGroup isName descends
  rw [Disk.crosses_iff_of_not_mem fun inside => below (List.dropLast_subset _ inside),
    layer.parent_path_eq featuresDir isGroup isName]
  rfl

end Place

include otherIsGroup otherIsName

/-- Two pages share a file only if it is of one layer and the pages share the group and the name of
the file. -/
theorem placeOf_eq_iff (descends : Disk.parentName ∉ featuresDir.parts) (disk : Disk) :
    disk.placeOf (layer.path featuresDir route) =
        disk.placeOf (otherLayer.path featuresDir other) ↔
      layer = otherLayer ∧ route.group = other.group ∧
        layer.fileName route = otherLayer.fileName other := by
  rw [layer.placeOf_path featuresDir isGroup isName descends,
    otherLayer.placeOf_path featuresDir otherIsGroup otherIsName descends,
    List.append_cancel_left_eq]
  constructor
  · intro same
    rw [← List.append_assoc, ← List.append_assoc] at same
    obtain ⟨folders, files⟩ := List.append_inj' same rfl
    have sameFile := List.singleton_inj.mp files
    obtain rfl := eq_of_fileName_eq sameFile
    exact ⟨rfl, eq_of_splitOn_eq (List.append_cancel_right folders), sameFile⟩
  · rintro ⟨rfl, sameGroup, sameFile⟩
    rw [sameGroup, sameFile]

/-- No file lies where another one needs a directory. -/
theorem placeOf_ne_of_crosses (descends : Disk.parentName ∉ featuresDir.parts) {disk : Disk}
    {place : Place} (crosses : disk.Crosses (layer.path featuresDir route).parent place) :
    disk.placeOf (otherLayer.path featuresDir other) ≠ place := by
  obtain ⟨names, short, rfl⟩ :=
    (layer.crosses_parent_iff featuresDir isGroup isName descends disk).mp crosses
  rw [otherLayer.placeOf_path featuresDir otherIsGroup otherIsName descends, Disk.placeOf,
    Disk.foldl_enter_of_not_mem descends, List.append_assoc, Ne, List.append_cancel_left_eq]
  rintro rfl
  rw [List.prefix_append_right_inj] at short
  have isFolder : otherLayer.fileName other ∈ route.group.splitOn '/' ++ layer.folder :=
    short.subset (by simp)
  rcases List.mem_append.mp isFolder with ofGroup | ofLayer
  · exact otherLayer.not_isName_fileName other (isGroup _ ofGroup).2
  · exact otherLayer.not_isName_fileName other (layer.isName_folder _ ofLayer)

end Named

end Layer

end DartRoutes
