import DartRoutes.Proofs.ConfigurationReading
import DartRoutes.Proofs.ScaffoldRepeat
import DartRoutes.Proofs.StageFlow
import DartRoutes.Proofs.StageParts

/-!
# What a project still reads

The files that runs generate have names of their own, which are not those of the files that a
project is read from. So the route table, the options and the package name of a project stay what
they are: a generated directory can stand in the place of an input that was missing, but it is never
read.
-/

namespace DartRoutes

open Effect

namespace Path

theorem exists_splitOnP_append {property : Char → Bool} (front ending : Text)
    (plain : ∀ character ∈ ending, property character = false) :
    ∃ pieces last, (front ++ ending).splitOnP property = pieces ++ [last] ∧ ending <:+ last := by
  induction front with
  | nil => exact ⟨[], ending, List.splitOnP_eq_singleton plain, List.suffix_refl ending⟩
  | cons character front induction =>
      obtain ⟨pieces, last, split, suffix⟩ := induction
      rw [List.cons_append, List.splitOnP_cons_eq_if_modifyHead, split]
      cases property character with
      | true => exact ⟨[] :: pieces, last, rfl, suffix⟩
      | false =>
          cases pieces with
          | nil => exact ⟨[], character :: last, rfl, suffix.trans (List.suffix_cons _ _)⟩
          | cons piece pieces => exact ⟨(character :: piece) :: pieces, last, rfl, suffix⟩

theorem isPart_of_long {segment : Text} (long : 2 ≤ segment.length) : isPart segment = true := by
  match segment, long with
  | first :: second :: rest, _ => simp [isPart]

theorem exists_parts_ofText (front : Text) {ending : Text} (plain : '/' ∉ ending)
    (long : 2 ≤ ending.length) :
    ∃ parts last, (ofText (front ++ ending)).parts = parts ++ [last] ∧ ending <:+ last := by
  have apart : ∀ character ∈ ending, (character == '/') = false := by
    intro character member
    rw [beq_eq_false_iff_ne]
    exact fun same => plain (same ▸ member)
  obtain ⟨pieces, last, split, suffix⟩ := exists_splitOnP_append front ending apart
  have counts : isPart last = true := isPart_of_long (Nat.le_trans long suffix.length_le)
  refine ⟨pieces.filter isPart, last, ?_, suffix⟩
  rw [ofText, List.splitOn, split, List.filter_append, List.filter_cons_of_pos counts,
    List.filter_nil]

theorem exists_parts_div (path : Path) {text : Text} {parts : List Text} {last : Text}
    (ends : (ofText text).parts = parts ++ [last]) :
    ∃ front, (path / text).parts = front ++ [last] := by
  change ∃ front, (path.join (ofText text)).parts = _
  rw [join]
  split
  · exact ⟨path.parts ++ parts, by rw [ends, List.append_assoc]⟩
  · exact ⟨parts, ends⟩

theorem anchor_div (path : Path) (text : Text) :
    (path / text).anchor = path.anchor ∨ (path / text).anchor ≠ .relative := by
  change (path.join (ofText text)).anchor = _ ∨ (path.join (ofText text)).anchor ≠ _
  rw [join]
  split
  · exact .inl rfl
  · rename_i isRooted
    exact .inr isRooted

end Path

namespace Layer

/-- The ending of the names of a layer's files. -/
def nameEnding (layer : Layer) : Text :=
  "_" ++ layer.stemEnding ++ ".dart"

theorem exists_parts_path (featuresDir : Path) (route : Route) (layer : Layer) :
    ∃ front name, (layer.path featuresDir route).parts = front ++ [name] ∧
      layer.nameEnding <:+ name := by
  have plain : '/' ∉ layer.nameEnding := by cases layer <;> decide
  have long : 2 ≤ layer.nameEnding.length := by cases layer <;> decide
  obtain ⟨parts, name, ends, suffix⟩ :=
    Path.exists_parts_ofText (Snake.ofClass (stripPageSuffix route.page)) plain long
  have file : layerStem route.page layer.stemEnding ++ ".dart" =
      Snake.ofClass (stripPageSuffix route.page) ++ layer.nameEnding := by
    simp only [layerStem, nameEnding, List.append_assoc]
  rw [← file] at ends
  obtain ⟨front, parts⟩ :=
    Path.exists_parts_div (featuresDir / route.group / layer.directory) ends
  exact ⟨front, name, parts, suffix⟩

theorem anchor_path (featuresDir : Path) (route : Route) (layer : Layer) :
    (layer.path featuresDir route).anchor = featuresDir.anchor ∨
      (layer.path featuresDir route).anchor ≠ .relative := by
  have first := featuresDir.anchor_div route.group
  have second := (featuresDir / route.group).anchor_div layer.directory
  have third := (featuresDir / route.group / layer.directory).anchor_div
    (layerStem route.page layer.stemEnding ++ ".dart")
  rw [Layer.path]
  grind

end Layer

namespace Disk

theorem placeOf_child (disk : Disk) (path : Path) (name : Text) :
    disk.placeOf (path.child name) = enter (disk.placeOf path) name := by
  rw [placeOf, Path.child, List.foldl_append]
  rfl

theorem exists_placeOf_of_parts {path : Path} {parts : List Text} {name : Text} (disk : Disk)
    (ends : path.parts = parts ++ [name]) (isName : name ≠ parentName) :
    ∃ front, disk.placeOf path = front ++ [name] := by
  refine ⟨parts.foldl enter (disk.start path), ?_⟩
  rw [placeOf, ends, List.foldl_append, List.foldl_cons, List.foldl_nil, enter, if_neg isName]

end Disk

theorem Layer.exists_placeOf_path (featuresDir : Path) (route : Route) (layer : Layer)
    (disk : Disk) :
    ∃ front name, disk.placeOf (layer.path featuresDir route) = front ++ [name] ∧
      layer.nameEnding <:+ name := by
  obtain ⟨parts, name, ends, suffix⟩ := layer.exists_parts_path featuresDir route
  have isName : name ≠ Disk.parentName := by
    rintro rfl
    cases layer <;> exact absurd suffix (by decide)
  obtain ⟨front, place⟩ := Disk.exists_placeOf_of_parts disk ends isName
  exact ⟨front, name, place, suffix⟩

/-- A name that runs give to the files that they generate. -/
def IsGeneratedName (name : Text) : Prop :=
  name = "router.g.dart" ∨ name = "r.g.dart" ∨ ∃ layer ∈ Layer.all, layer.nameEnding <:+ name

instance (name : Text) : Decidable (IsGeneratedName name) :=
  inferInstanceAs (Decidable (_ ∨ _ ∨ ∃ layer ∈ Layer.all, _))

/-- The path is one of a file that the runs of a project generate. -/
inductive Settings.Generated (settings : Settings) : Path → Prop where
  | router : Generated settings settings.routerOutputPath
  | manifest : Generated settings settings.manifestOutputPath
  | feature (route : Route) (layer : Layer) :
      Generated settings (layer.path settings.featuresDir route)

/-- A disk has grown by directories and by generated files, and has lost nothing but the content of
such files. -/
structure Generates (settings : Settings) (before after : Disk) : Prop
    extends Disk.Grows before after where
  elsewhere : ∀ place, (∀ path, settings.Generated path → place ≠ before.placeOf path) →
    after.tree.contentAt? place = before.tree.contentAt? place

theorem Settings.Generated.exists_placeOf {settings : Settings} {path : Path}
    (generated : settings.Generated path) (disk : Disk) :
    ∃ front name, disk.placeOf path = front ++ [name] ∧ IsGeneratedName name := by
  cases generated with
  | router =>
      refine ⟨disk.placeOf settings.libDir, "router.g.dart", ?_, .inl rfl⟩
      rw [settings.routerOutputPath_eq, Disk.placeOf_child, Disk.enter, if_neg (by decide)]
  | manifest =>
      refine ⟨disk.placeOf (settings.libDir.child "res"), "r.g.dart", ?_, .inr (.inl rfl)⟩
      rw [settings.manifestOutputPath_eq, Disk.placeOf_child, Disk.enter, if_neg (by decide)]
  | feature route layer =>
      obtain ⟨front, name, place, suffix⟩ :=
        layer.exists_placeOf_path settings.featuresDir route disk
      exact ⟨front, name, place, .inr (.inr ⟨layer, by cases layer <;> decide, suffix⟩)⟩

instance (settings : Settings) : Std.Refl (Generates settings) where
  refl disk := ⟨Std.Refl.refl disk, fun _ _ => rfl⟩

instance (settings : Settings) : IsTrans Disk (Generates settings) where
  trans before middle after first second := by
    refine ⟨IsTrans.trans _ _ _ first.toGrows second.toGrows, fun place apart => ?_⟩
    rw [second.elsewhere place fun path generated => ?_, first.elsewhere place apart]
    rw [Disk.placeOf_of_directory_eq first.directory]
    exact apart path generated

theorem generates_of_writeText {settings : Settings} {path : Path}
    (generated : settings.Generated path) (text : Text) (workspace : Workspace) :
    Generates settings workspace.disk (after (Action.writeText path text) workspace).disk := by
  refine ⟨Action.writeText_grows path text workspace, fun place apart => ?_⟩
  rcases Action.writeText_after path text workspace with same | ⟨_, content, rewritten⟩
  · exact same.content place
  · exact rewritten.elsewhere place (apart path generated)

theorem Scaffold.ensure_generates [Console] {settings : Settings} {packageName : Text}
    (route : Route) (layer : Layer) :
    Keeps (Action.Alike (Generates settings))
      (Scaffold.ensure ⟨settings.featuresDir, packageName⟩ route layer) := by
  refine ensure_keeps (fun reads workspace => ?_) fun workspace _ => ?_
  · have same := reads.keeps workspace
    rw [Action.SameDisk] at same
    rw [Action.Alike, same]
    exact Std.Refl.refl _
  · exact generates_of_writeText (.feature route layer) _ workspace

theorem Scaffold.Visits.generates [Console] {settings : Settings} {packageName : Text}
    {before later : Workspace} {visits : List Visit}
    (visited : Visits ⟨settings.featuresDir, packageName⟩ before visits later) :
    Generates settings before.disk later.disk := by
  induction visited with
  | nil workspace => exact Std.Refl.refl _
  | cons ensured _ induction =>
      exact IsTrans.trans _ _ _ ((ensure_generates _ _).of_ok ensured) induction

theorem Work.Puts.disk {path : Path} {text : Text} {before later : Session} {isWritten : Bool}
    (puts : Puts path text before later isWritten) :
    later.workspace.disk = (after (Action.writeText path text) before.workspace).disk := by
  cases puts with
  | written wrote sameDisk _ => rw [after_of_ok wrote, sameDisk]
  | refused refused _ sameDisk _ => rw [after_of_error refused, sameDisk]

theorem Work.Puts.generates {settings : Settings} {path : Path} {text : Text}
    {before later : Session} {isWritten : Bool} (generated : settings.Generated path)
    (puts : Puts path text before later isWritten) :
    Generates settings before.workspace.disk later.workspace.disk := by
  rw [puts.disk]
  exact generates_of_writeText generated text before.workspace

/-- The project root and the directory of its sources are at these places. -/
structure Settings.LiesAt (settings : Settings) (disk : Disk) (place : Place) : Prop where
  root : disk.locate settings.projectRoot = .ok place
  rootKind : disk.tree.kindAt? place = some true
  lib : disk.locate settings.libDir = .ok (place ++ (["lib"] : Place))
  libKind : disk.tree.kindAt? (place ++ (["lib"] : Place)) = some true

theorem Settings.LiesAt.grow {settings : Settings} {before after : Disk} {place : Place}
    (lies : settings.LiesAt before place) (grows : Disk.Grows before after) :
    settings.LiesAt after place where
  root := grows.locate_of_ok lies.root
  rootKind := grows.kept _ _ lies.rootKind
  lib := grows.locate_of_ok lies.lib
  libKind := grows.kept _ _ lies.libKind

/-- A project with a route table has its directories. -/
theorem TableLoaded.exists_liesAt {disk : Disk} {settings : Settings} {table : RouteTable}
    (loaded : TableLoaded disk settings table) : ∃ place, settings.LiesAt disk place := by
  cases loaded with
  | parsed found _ _ =>
      obtain ⟨file, located, _⟩ := Disk.read_eq_ok_iff.mp found
      rw [settings.routeConfigPath_eq] at located
      obtain ⟨lib, locatedLib, libKind, _⟩ :=
        Disk.locate_parent_of_locate_child located (by decide)
      have locatedChild := locatedLib
      rw [settings.libDir_eq] at locatedChild
      obtain ⟨place, root, rootKind, rfl⟩ :=
        Disk.locate_parent_of_locate_child locatedChild (by decide)
      exact ⟨place, root, rootKind, locatedLib, libKind⟩

namespace Disk

/-- A path that leads somewhere starts at something, and so does every path that starts there. -/
theorem isGrounded_of_locate {disk : Disk} {path other : Path} {place : Place}
    (located : disk.locate path = .ok place) (nonempty : path.parts ≠ [])
    (sameStart : other.anchor = path.anchor ∨ other.anchor ≠ .relative) :
    disk.IsGrounded other := by
  by_cases isRelative : other.anchor = .relative
  · have sameAnchor := sameStart.resolve_right (not_not_intro isRelative)
    obtain ⟨name, rest, parts⟩ := List.exists_cons_of_ne_nil nonempty
    rw [locate, parts] at located
    have followed : (name :: rest).foldlM (step disk.tree) (disk.start path) = .ok place := by
      cases checked : checkPath path with
      | ok _ => simpa [checked, bind, Except.bind] using located
      | error kind => simp [checked, bind, Except.bind] at located
    have start : disk.start other = disk.start path := by rw [start, start, sameAnchor]
    rw [IsGrounded, start]
    cases kind : disk.tree.kindAt? (disk.start path) with
    | some isDirectory => exact ⟨isDirectory, rfl⟩
    | none =>
        rw [List.foldlM_cons, step, slot_eq, kind] at followed
        cases followed
  · refine ⟨disk.tree.isDirectory, ?_⟩
    have start : disk.start other = [] := by
      rw [Disk.start]
      split
      · exact absurd ‹_› isRelative
      · rfl
    rw [start]
    rfl

end Disk

/-- Everything that runs generate starts where the project starts, or at a root. -/
theorem Settings.LiesAt.isGrounded {settings : Settings} {disk : Disk} {place : Place}
    (lies : settings.LiesAt disk place) {path : Path} (generated : settings.Generated path) :
    disk.IsGrounded path := by
  have nonempty : settings.libDir.parts ≠ [] := by
    rw [settings.libDir_eq]
    exact List.append_ne_nil_of_right_ne_nil _ (List.cons_ne_nil _ _)
  refine Disk.isGrounded_of_locate lies.lib nonempty ?_
  cases generated with
  | router => exact .inl rfl
  | manifest => exact .inl rfl
  | feature route layer => exact layer.anchor_path settings.featuresDir route

/-- A file with a name that is never generated keeps its content. -/
theorem Generates.contentAt?_of_name {settings : Settings} {before after : Disk}
    (generates : Generates settings before after) (front : Place) {name : Text}
    (isInput : ¬ IsGeneratedName name) :
    after.tree.contentAt? (front ++ [name]) = before.tree.contentAt? (front ++ [name]) := by
  refine generates.elsewhere _ fun path generated same => ?_
  obtain ⟨other, last, place, isGenerated⟩ := generated.exists_placeOf before
  rw [place] at same
  obtain ⟨_, rfl⟩ := List.append_singleton_inj.mp same
  exact isInput isGenerated

theorem TableLoaded.of_generates {settings : Settings} {before after : Disk} {table : RouteTable}
    (loaded : TableLoaded before settings table) (generates : Generates settings before after) :
    TableLoaded after settings table := by
  cases loaded with
  | parsed found decoded parsed =>
      refine .parsed (Disk.read_eq_ok_iff.mpr ?_) decoded parsed
      obtain ⟨place, located, isFile⟩ := Disk.read_eq_ok_iff.mp found
      have sameContent : after.tree.contentAt? place = before.tree.contentAt? place := by
        rw [settings.routeConfigPath_eq] at located
        obtain ⟨front, _, _, rfl⟩ := Disk.locate_parent_of_locate_child located (by decide)
        exact generates.contentAt?_of_name front (by decide)
      exact ⟨place, generates.locate_of_ok located, sameContent.trans isFile⟩

/-- Two disks say the same of a file, or it is missing on the first one and a directory on the
second. -/
inductive SameUnlessMissing (path : Path) (before after : Disk) : Prop where
  | same : Action.SameFile path before after → SameUnlessMissing path before after
  | missing :
      before.pathExists path = .ok false →
      after.pathExists path = .ok true →
      after.read path = .error ⟨.isDirectory, path⟩ →
      SameUnlessMissing path before after

theorem Disk.sameFile_of_find_eq {path : Path} {before after : Disk}
    (same : after.find path = before.find path) : Action.SameFile path before after := by
  rw [Action.SameFile, pathExists, pathExists, find?, find?, read, read, same]
  exact ⟨rfl, rfl⟩

section Found

variable {disk : Disk} {path : Path}

theorem Disk.answers_of_missing (found : disk.find path = .error .missing) :
    disk.pathExists path = .ok false := by
  rw [pathExists, find?, found]
  rfl

theorem Disk.answers_of_directory {entries : List (Text × FileTree)}
    (found : disk.find path = .ok (.directory entries)) :
    disk.pathExists path = .ok true ∧ disk.read path = .error ⟨.isDirectory, path⟩ := by
  rw [pathExists, find?, read, found]
  exact ⟨rfl, rfl⟩

end Found

/-- What runs generate never stands in the place of an input, unless it is a directory. -/
theorem Generates.sameUnlessMissing {settings : Settings} {before after : Disk} {place : Place}
    {name : Text} (generates : Generates settings before after)
    (lies : settings.LiesAt before place) (plain : Disk.IsPlain name)
    (isInput : ¬ IsGeneratedName name) :
    SameUnlessMissing (settings.projectRoot.child name) before after := by
  cases checked : Disk.checkPath (settings.projectRoot.child name) with
  | error kind =>
      refine .same (Disk.sameFile_of_find_eq ?_)
      rw [Disk.find, Disk.find, Disk.locate_of_refused checked, Disk.locate_of_refused checked]
      rfl
  | ok _ =>
      have liesLater := lies.grow generates.toGrows
      have found := Disk.find_child lies.root lies.rootKind plain checked
      have foundLater := Disk.find_child liesLater.root liesLater.rootKind plain checked
      have sameContent := generates.contentAt?_of_name place isInput
      cases first : before.tree.at? (place ++ [name]) with
      | none =>
          rw [first] at found
          cases second : after.tree.at? (place ++ [name]) with
          | none =>
              rw [second] at foundLater
              exact .same (Disk.sameFile_of_find_eq (foundLater.trans found.symm))
          | some tree =>
              cases tree with
              | file content =>
                  rw [FileTree.contentAt?, FileTree.contentAt?, first, second] at sameContent
                  cases sameContent
              | directory entries =>
                  rw [second] at foundLater
                  obtain ⟨isThere, unread⟩ := Disk.answers_of_directory foundLater
                  exact .missing (Disk.answers_of_missing found) isThere unread
      | some tree =>
          rw [first] at found
          cases tree with
          | file content =>
              have second : after.tree.at? (place ++ [name]) = some (.file content) := by
                rw [← FileTree.contentAt?_eq_some_iff, sameContent,
                  FileTree.contentAt?_eq_some_iff, first]
              rw [second] at foundLater
              exact .same (Disk.sameFile_of_find_eq (foundLater.trans found.symm))
          | directory entries =>
              have kind := generates.kept _ _ (FileTree.kindAt?_eq_true_iff.mpr ⟨entries, first⟩)
              obtain ⟨others, second⟩ := FileTree.kindAt?_eq_true_iff.mp kind
              rw [second] at foundLater
              obtain ⟨isThere, unread⟩ := Disk.answers_of_directory found
              obtain ⟨isThereLater, unreadLater⟩ := Disk.answers_of_directory foundLater
              exact .same ⟨isThere.trans isThereLater.symm, unread.trans unreadLater.symm⟩

section Services

variable [Console] [DocumentLoader]

/-- The options that are loaded for a project from a disk. -/
def LoadsOptions (disk : Disk) (settings : Settings) (options : BuilderOptions) : Prop :=
  ∃ clock log later,
    Action.loadOptions settings.builderConfigPath ⟨disk, clock, log⟩ = .ok options later

/-- The package name that is read for a project from a disk. -/
def NamesPackage (disk : Disk) (settings : Settings) (packageName : Text) : Prop :=
  ∃ clock log later,
    Action.packageName settings ⟨disk, clock, log⟩ = .ok packageName later

section Loading

variable {disk : Disk} {settings : Settings} {workspace : Workspace}

/-- What is loaded from a disk does not depend on the clock and the log. -/
theorem LoadsOptions.exists_ok {options : BuilderOptions}
    (loads : LoadsOptions disk settings options) (same : workspace.disk = disk) :
    ∃ later, Action.loadOptions settings.builderConfigPath workspace = .ok options later := by
  obtain ⟨clock, log, later, loaded⟩ := loads
  have alike : Action.Alike (Action.SameFile settings.builderConfigPath)
      ⟨disk, clock, log⟩ workspace := same ▸ Action.SameFile.rfl _ _
  obtain ⟨last, answered, _⟩ := (Action.loadOptions_parallel _).exists_ok alike loaded
  exact ⟨last, answered⟩

theorem NamesPackage.exists_ok {packageName : Text}
    (names : NamesPackage disk settings packageName) (same : workspace.disk = disk) :
    ∃ later, Action.packageName settings workspace = .ok packageName later := by
  obtain ⟨clock, log, later, named⟩ := names
  have alike : Action.Alike (Action.SameFile settings.pubspecPath)
      ⟨disk, clock, log⟩ workspace := same ▸ Action.SameFile.rfl _ _
  obtain ⟨last, answered, _⟩ := (Action.packageName_parallel _).exists_ok alike named
  exact ⟨last, answered⟩

theorem LoadsOptions.unique {first second : BuilderOptions}
    (loadsFirst : LoadsOptions disk settings first)
    (loadsSecond : LoadsOptions disk settings second) : first = second := by
  obtain ⟨clock, log, later, loaded⟩ := loadsFirst
  have same : (⟨disk, clock, log⟩ : Workspace).disk = disk := rfl
  obtain ⟨last, again⟩ := loadsSecond.exists_ok same
  rw [loaded] at again
  cases again
  rfl

end Loading

section Reading

variable {settings : Settings} {before after : Disk} {place : Place}

omit [Console] in
/-- What a document of the project gives, it still gives when something was generated: it is read
again, or the answer without a document stands in for it. -/
theorem Generates.exists_ok {α : Type} {name : Text} {load : Action α}
    {ofDocument : Value → α} {absent : α}
    (generates : Generates settings before after) (lies : settings.LiesAt before place)
    (plain : Disk.IsPlain name) (isInput : ¬ IsGeneratedName name)
    (parallel : Parallel (Action.Alike (Action.SameFile (settings.projectRoot.child name))) load)
    (loads : Action.Loads (settings.projectRoot.child name) load ofDocument absent)
    {answer : α} {clock : List Seconds} {log : List LogEntry} {later : Workspace}
    (loaded : load ⟨before, clock, log⟩ = .ok answer later) :
    ∃ last, load ⟨after, clock, log⟩ = .ok answer last := by
  cases generates.sameUnlessMissing lies plain isInput with
  | same sameFile =>
      have alike : Action.Alike (Action.SameFile (settings.projectRoot.child name))
          ⟨before, clock, log⟩ ⟨after, clock, log⟩ := sameFile
      obtain ⟨last, answered, _⟩ := parallel.exists_ok alike loaded
      exact ⟨last, answered⟩
  | missing missing isThere unread =>
      have asMissing : ∃ later, load ⟨before, clock, log⟩ = .ok absent later :=
        loads.of_missing missing
      have asDirectory : ∃ later, load ⟨after, clock, log⟩ = .ok absent later :=
        loads.of_directory isThere unread
      obtain ⟨_, asMissing⟩ := asMissing
      rw [asMissing] at loaded
      cases loaded
      exact asDirectory

theorem LoadsOptions.of_generates {options : BuilderOptions}
    (loads : LoadsOptions before settings options) (generates : Generates settings before after)
    (lies : settings.LiesAt before place)
    (isDefault : settings.configFile = Settings.default.configFile) :
    LoadsOptions after settings options := by
  obtain ⟨clock, log, later, loaded⟩ := loads
  rw [LoadsOptions]
  rw [Settings.builderConfigPath_eq isDefault] at loaded ⊢
  have unmarked : IsUnmarked (settings.projectRoot.child "routegen.yaml").name := by
    rw [Path.name, Path.child, List.getLast?_concat]
    decide
  obtain ⟨last, answered⟩ := generates.exists_ok lies ⟨by decide, by decide⟩ (by decide)
    (Action.loadOptions_parallel _) (Action.loadOptions_loads unmarked) loaded
  exact ⟨clock, log, last, answered⟩

theorem NamesPackage.of_generates {packageName : Text}
    (names : NamesPackage before settings packageName) (generates : Generates settings before after)
    (lies : settings.LiesAt before place) : NamesPackage after settings packageName := by
  obtain ⟨clock, log, later, named⟩ := names
  rw [Action.packageName] at named
  split at named
  · rename_i isEmpty
    rw [settings.pubspecPath_eq] at named
    obtain ⟨last, answered⟩ := generates.exists_ok lies ⟨by decide, by decide⟩ (by decide)
      (Action.loadPackageName_parallel _) (Action.loadPackageName_loads _) named
    refine ⟨clock, log, last, ?_⟩
    rw [Action.packageName, if_pos isEmpty, settings.pubspecPath_eq]
    exact answered
  · rename_i isGiven
    cases named
    refine ⟨clock, log, ⟨after, clock, log⟩, ?_⟩
    rw [Action.packageName, if_neg isGiven]
    rfl

end Reading

end Services

end DartRoutes
