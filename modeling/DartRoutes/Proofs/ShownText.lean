import DartRoutes.Pipeline.Run
import DartRoutes.Proofs.ActionReading
import DartRoutes.Proofs.DiskParent
import DartRoutes.Text.TidyMarkup

/-!
# Texts that the console shows

A text without brackets and backslashes is shown, alone or in a style. So are the reports of the
stages, which name the files of a project by constant paths; the paths of the feature files are made
of free texts.
-/

namespace DartRoutes

open Effect

namespace Settings

theorem libDir_eq (settings : Settings) : settings.libDir = settings.projectRoot.child "lib" :=
  Path.div_eq_child _ (by decide)

theorem routeConfigPath_eq (settings : Settings) :
    settings.routeConfigPath = settings.libDir.child "route_config.dart" :=
  Path.div_eq_child _ (by decide)

theorem routerOutputPath_eq (settings : Settings) :
    settings.routerOutputPath = settings.libDir.child "router.g.dart" :=
  Path.div_eq_child _ (by decide)

theorem manifestOutputPath_eq (settings : Settings) :
    settings.manifestOutputPath = (settings.libDir.child "res").child "r.g.dart" := by
  have res : settings.libDir / ("res" : String) = settings.libDir.child "res" :=
    Path.div_eq_child _ (by decide)
  rw [manifestOutputPath, res]
  exact Path.div_eq_child _ (by decide)

theorem assetsDir_eq (settings : Settings) :
    settings.assetsDir = settings.projectRoot.child "assets" :=
  Path.div_eq_child _ (by decide)

theorem pubspecPath_eq (settings : Settings) :
    settings.pubspecPath = settings.projectRoot.child "pubspec.yaml" :=
  Path.div_eq_child _ (by decide)

theorem builderConfigPath_eq {settings : Settings}
    (isDefault : settings.configFile = Settings.default.configFile) :
    settings.builderConfigPath = settings.projectRoot.child "routegen.yaml" := by
  rw [builderConfigPath, isDefault]
  exact Path.div_eq_child _ (by decide)

/-- The files of a project are shown as they lie below its root, whatever the root is. -/
theorem shown_of_below {settings : Settings} {path : Path} (parts : List Text)
    (below : path = ⟨settings.projectRoot.anchor, settings.projectRoot.parts ++ parts⟩) :
    settings.shown path = Path.text ⟨.relative, parts⟩ := by
  have behind := Path.partsBehind?_append settings.projectRoot.parts [] parts
  rw [List.append_nil] at behind
  rw [shown, Path.shownFrom, Path.relativeTo?, below, if_pos rfl, behind]
  rfl

theorem shown_routeConfigPath (settings : Settings) :
    settings.shown settings.routeConfigPath = "lib/route_config.dart" := by
  rw [shown_of_below ["lib", "route_config.dart"]]
  · decide
  · rw [routeConfigPath_eq, libDir_eq]
    simp [Path.child]

theorem shown_routerOutputPath (settings : Settings) :
    settings.shown settings.routerOutputPath = "lib/router.g.dart" := by
  rw [shown_of_below ["lib", "router.g.dart"]]
  · decide
  · rw [routerOutputPath_eq, libDir_eq]
    simp [Path.child]

theorem shown_manifestOutputPath (settings : Settings) :
    settings.shown settings.manifestOutputPath = "lib/res/r.g.dart" := by
  rw [shown_of_below ["lib", "res", "r.g.dart"]]
  · decide
  · rw [manifestOutputPath_eq, libDir_eq]
    simp [Path.child]

end Settings

/-- The text holds nothing that means something in markup. -/
structure IsUnmarked (text : Text) : Prop where
  noBracket : '[' ∉ text
  noSlash : '\\' ∉ text

instance (text : Text) : Decidable (IsUnmarked text) :=
  decidable_of_iff ('[' ∉ text ∧ '\\' ∉ text)
    ⟨fun both => ⟨both.1, both.2⟩, fun unmarked => ⟨unmarked.noBracket, unmarked.noSlash⟩⟩

namespace IsUnmarked

variable {text : Text}

theorem append {left right : Text} (unmarkedLeft : IsUnmarked left)
    (unmarkedRight : IsUnmarked right) : IsUnmarked (left ++ right) where
  noBracket member :=
    (List.mem_append.mp member).elim unmarkedLeft.noBracket unmarkedRight.noBracket
  noSlash member := (List.mem_append.mp member).elim unmarkedLeft.noSlash unmarkedRight.noSlash

theorem ofNat (number : Nat) : IsUnmarked (Text.ofNat number) where
  noBracket member := by
    cases Nat.isDigit_of_mem_toDigits (by decide) (by decide) member
  noSlash member := by
    cases Nat.isDigit_of_mem_toDigits (by decide) (by decide) member

theorem join {separator : Text} (unmarked : IsUnmarked separator) {pieces : List Text}
    (all : ∀ piece ∈ pieces, IsUnmarked piece) : IsUnmarked (Text.join separator pieces) := by
  induction pieces with
  | nil => exact ⟨List.not_mem_nil, List.not_mem_nil⟩
  | cons piece pieces induction =>
      obtain ⟨first, others⟩ := List.forall_mem_cons.mp all
      cases pieces with
      | nil => simpa [Text.join] using first
      | cons next pieces =>
          rw [Text.join, List.intercalate_cons_cons]
          exact (first.append unmarked).append (induction others)

theorem pathText {path : Path} (all : ∀ name ∈ path.parts, IsUnmarked name) :
    IsUnmarked path.text := by
  unfold Path.text
  split
  · decide
  · refine append ?_ (join (by decide) all)
    cases path.anchor <;> decide

theorem isTidy (unmarked : IsUnmarked text) : Markup.IsTidy text :=
  .plain unmarked.noBracket unmarked.noSlash

theorem tagged (unmarked : IsUnmarked text) {style : Text} (known : style ∈ Markup.styles) :
    Markup.IsTidy (Markup.tagged style text) :=
  .tagged known unmarked.noBracket unmarked.noSlash

end IsUnmarked

/-- A path is shown from somewhere without marks if its parts have none. -/
theorem Path.isUnmarked_shownFrom {path : Path} (root : Path)
    (all : ∀ name ∈ path.parts, IsUnmarked name) : IsUnmarked (path.shownFrom root) := by
  rw [shownFrom, relativeTo?]
  split
  · cases behind : partsBehind? root.parts path.parts with
    | none => exact .pathText all
    | some parts =>
        refine .pathText fun name member => all name ?_
        exact (suffix_of_partsBehind? behind).mem member
  · exact .pathText all

theorem Duration.isUnmarked_text (duration : Duration) : IsUnmarked duration.text := by
  cases duration with
  | milliseconds count => exact .append (.ofNat count) (by decide)
  | tenths count =>
      refine .append (.append (.append (.ofNat _) ?_) (.ofNat _)) ?_
      · decide
      · decide
  | minutes count seconds =>
      refine .append (.append (.append (.ofNat count) ?_) (.ofNat seconds)) ?_
      · decide
      · decide

variable [Console]

/-- The console shows what is said of the files of a route's page. -/
structure Scaffold.Shows (scaffold : Scaffold) (route : Route) : Prop where
  missing (layer : Layer) : Console.fault? (scaffold.missingText route layer) = none
  created (layer : Layer) : Console.fault? (scaffold.createdText route layer) = none

theorem Scaffold.shows_of_isUnmarked {scaffold : Scaffold} {route : Route}
    (unmarked : ∀ layer, ∀ name ∈ (scaffold.path route layer).parts, IsUnmarked name) :
    scaffold.Shows route where
  missing layer := by
    have shown := Path.isUnmarked_shownFrom scaffold.featuresDir.parent.parent (unmarked layer)
    refine Console.fault?_of_isTidy (.append ?_ (shown.tagged (by decide)))
    cases layer <;> exact IsUnmarked.isTidy (by decide)
  created layer := by
    have shown := Path.isUnmarked_shownFrom scaffold.featuresDir.parent.parent (unmarked layer)
    refine Console.fault?_of_isTidy (.append (.append (.append (.append (.append ?_ ?_) ?_) ?_) ?_)
      shown.isTidy)
    · exact IsUnmarked.isTidy (by decide)
    · exact IsUnmarked.tagged (by decide) (by decide)
    · exact IsUnmarked.isTidy (by decide)
    · cases layer <;> exact IsUnmarked.isTidy (by decide)
    · exact IsUnmarked.isTidy (by decide)

namespace Settings

/-! What the stages say of the files of a project. -/

theorem fault?_processing (settings : Settings) :
    Console.fault? ("  Processing " ++
      Markup.tagged "bold" (settings.shown settings.routeConfigPath)) = none := by
  rw [shown_routeConfigPath]
  exact Console.fault?_of_isTidy (.append (IsUnmarked.isTidy (by decide))
    (IsUnmarked.tagged (by decide) (by decide)))

theorem fault?_parsed (count : Nat) :
    Console.fault? ("  Parsed " ++ Text.ofNat count ++ " routes") = none := by
  refine Console.fault?_of_isTidy (IsUnmarked.isTidy (.append (.append ?_ (.ofNat count)) ?_))
  · decide
  · decide

theorem fault?_generatedRoutes (settings : Settings) (count : Nat) :
    Console.fault? ("  Generated " ++ settings.shown settings.routerOutputPath ++ " with " ++
      Text.ofNat count ++ " routes") = none := by
  rw [shown_routerOutputPath]
  refine Console.fault?_of_isTidy (IsUnmarked.isTidy (.append (.append ?_ (.ofNat count)) ?_))
  · decide
  · decide

theorem fault?_generatedAssets (settings : Settings) (count : Nat) :
    Console.fault? ("  Generated " ++ settings.shown settings.manifestOutputPath ++ " with " ++
      Text.ofNat count ++ " assets") = none := by
  rw [shown_manifestOutputPath]
  refine Console.fault?_of_isTidy (IsUnmarked.isTidy (.append (.append ?_ (.ofNat count)) ?_))
  · decide
  · decide

end Settings

theorem Stage.fault?_header (stage : Stage) :
    Console.fault? (Markup.tagged ("bold " ++ colorOf stage.name) (" " ++ stage.title ++ " ")) =
      none := by
  refine Console.fault?_of_isTidy (IsUnmarked.tagged ?_ ?_)
  · cases stage <;> decide
  · cases stage <;> decide

/-- The entries that announce a stage. -/
def Stage.headerEntries (stage : Stage) : List LogEntry :=
  [.line [], .header (Markup.tagged ("bold " ++ colorOf stage.name) (" " ++ stage.title ++ " "))]

theorem Action.header_eq (stage : Stage) :
    header (Stage.colorOf stage.name) stage.title = showAll stage.headerEntries := by
  funext workspace
  simp only [header, bind_run, showAll, modify_run, display_run, List.findSome?_singleton,
    stage.fault?_header]
  rw [List.append_assoc]
  rfl

namespace RunRecord

/-- The outputs that a record names. -/
def outputs (record : RunRecord) : List Path :=
  (record.routes?.bind RoutesResult.output?).toList ++
    (record.assets?.bind AssetsResult.output?).toList

/-- The console shows all outputs that a record names. -/
def IsShown (record : RunRecord) : Prop :=
  ∀ path ∈ record.outputs, Console.fault? path.text = none

theorem isShown_empty : empty.IsShown :=
  List.forall_mem_nil _

theorem IsShown.fail {record : RunRecord} (shown : record.IsShown) (stage : Stage)
    (reason : Text) : (record.fail stage reason).IsShown := by
  cases stage <;> exact shown

theorem fault?_shownOutput {output? : Option Path}
    (shown : ∀ path ∈ output?.toList, Console.fault? path.text = none) :
    Console.fault? (shownOutput output?) = none := by
  cases output? with
  | none => exact Console.fault?_of_isTidy (IsUnmarked.isTidy (by decide))
  | some path => exact shown path (List.mem_singleton_self path)

/-- The console shows the rows of a record if it shows the outputs. -/
theorem IsShown.fault?_rows {record : RunRecord} (shown : record.IsShown)
    (measured : ∀ duration ∈ record.duration?, IsUnmarked duration) :
    ∀ row ∈ record.rows, Console.fault? row.1 = none ∧ Console.fault? row.2 = none := by
  have constant : ∀ {text : Text}, IsUnmarked text → Console.fault? text = none :=
    fun unmarked => Console.fault?_of_isTidy unmarked.isTidy
  have count : ∀ number, Console.fault? (Text.ofNat number) = none :=
    fun number => constant (.ofNat number)
  obtain ⟨shownRoutes, shownAssets⟩ := List.forall_mem_append.mp shown
  have duration : IsUnmarked (record.duration?.getD "-") := by
    cases known : record.duration? with
    | none => decide
    | some duration => exact measured duration known
  refine List.forall_mem_append.mpr ⟨List.forall_mem_append.mpr ⟨?_, ?_⟩, ?_⟩
  · cases known : record.routes? with
    | none => exact List.forall_mem_nil _
    | some result =>
        rw [known] at shownRoutes
        simp only [List.forall_mem_cons]
        exact ⟨⟨constant (by decide), count _⟩,
          ⟨constant (by decide), fault?_shownOutput shownRoutes⟩,
          ⟨constant (by decide), count _⟩, List.forall_mem_nil _⟩
  · cases known : record.assets? with
    | none => exact List.forall_mem_nil _
    | some result =>
        rw [known] at shownAssets
        simp only [List.forall_mem_cons]
        exact ⟨⟨constant (by decide), count _⟩,
          ⟨constant (by decide), fault?_shownOutput shownAssets⟩, List.forall_mem_nil _⟩
  · have label : IsUnmarked "Duration" := by decide
    exact List.forall_mem_singleton.mpr ⟨constant label, constant duration⟩

end RunRecord

/-- The console shows a table if it shows its title and its rows. -/
theorem Action.summarize_of_shown {title : Text} {rows : List (Text × Text)}
    (shownTitle : Console.fault? title = none)
    (shown : ∀ row ∈ rows, Console.fault? row.1 = none ∧ Console.fault? row.2 = none) :
    summarize title rows = showAll [.summary title rows, .line []] := by
  have all : ∀ text ∈ rows.map Prod.fst ++ rows.map Prod.snd ++ [title],
      Console.fault? text = none := by
    simp only [List.forall_mem_append, List.forall_mem_map, List.forall_mem_singleton]
    exact ⟨⟨fun row member => (shown row member).1, fun row member => (shown row member).2⟩,
      shownTitle⟩
  funext workspace
  rw [summarize, bind_run, display_run, List.findSome?_eq_none_iff.mpr all]
  simp only [showAll, modify_run, List.append_assoc]
  rfl

/-- The console shows the table of a record whose outputs it shows. -/
theorem Work.showSummary_of_shown {session : Session} (shown : session.pipeline.record.IsShown)
    (measured : ∀ duration ∈ session.pipeline.record.duration?, IsUnmarked duration) :
    ∃ log, showSummary session =
      .ok () { session with workspace := { session.workspace with log } } := by
  have title : Console.fault? programName = none :=
    Console.fault?_of_isTidy (IsUnmarked.isTidy (by decide))
  rw [showSummary, bind_of_ok (get_run session),
    Action.summarize_of_shown title (shown.fault?_rows measured)]
  exact ⟨_, rfl⟩

end DartRoutes
