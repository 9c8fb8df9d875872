import DartRoutes.Proofs.ScaffoldVisit
import DartRoutes.Proofs.SourceEncoding
import DartRoutes.Standard

/-!
# The report of a scaffolding run

A run changes no file but those that it reports as created. These are new files with the text of
their layer, unless the disk denies a path although there is a file at its place: then the file is
written over.
-/

namespace DartRoutes.Scaffold

open Effect

variable {scaffold : Scaffold}

/-- The places of the files that are reported as created. -/
def createdPlaces (disk : Disk) (outcomes : List Outcome) : List Place :=
  (outcomes.filter Outcome.isCreated).map fun outcome => disk.placeOf outcome.path

/-- The created files are distinct and new, and hold what the visits have made of them. -/
structure Accurate (scaffold : Scaffold) (before later : Disk) (visits : List Visit) : Prop where
  distinct : (createdPlaces before (visits.map Visit.outcome)).Nodup
  fresh : ∀ place ∈ createdPlaces before (visits.map Visit.outcome),
    before.tree.contentAt? place = none
  holds : ∀ visit ∈ visits, visit.outcome.isCreated →
    ∃ content, Utf8.encode? (scaffold.source visit.route visit.layer) = .ok content ∧
      later.tree.contentAt? (before.placeOf visit.outcome.path) = some content

/-- No visit has created its file at a path that the disk denied although there was a file. -/
def NeverMisled (visits : List Visit) : Prop :=
  ∀ visit ∈ visits, visit.outcome.isCreated → ¬ visit.before.disk.Misleads visit.outcome.path

theorem createdPlaces_cons_of_created {disk : Disk} {outcome : Outcome} {outcomes : List Outcome}
    (isCreated : outcome.isCreated = true) :
    createdPlaces disk (outcome :: outcomes) =
      disk.placeOf outcome.path :: createdPlaces disk outcomes := by
  simp [createdPlaces, isCreated]

theorem createdPlaces_cons_of_not_created {disk : Disk} {outcome : Outcome}
    {outcomes : List Outcome} (isOld : outcome.isCreated = false) :
    createdPlaces disk (outcome :: outcomes) = createdPlaces disk outcomes := by
  simp [createdPlaces, isOld]

theorem createdPlaces_of_directory_eq {before later : Disk}
    (same : later.directory = before.directory) (outcomes : List Outcome) :
    createdPlaces later outcomes = createdPlaces before outcomes := by
  simp only [createdPlaces, Disk.placeOf_of_directory_eq same]

theorem neverMisled_cons {visit : Visit} {visits : List Visit} :
    NeverMisled (visit :: visits) ↔
      (visit.outcome.isCreated → ¬ visit.before.disk.Misleads visit.outcome.path) ∧
        NeverMisled visits :=
  List.forall_mem_cons

theorem accurate_cons_of_same {before middle later : Disk} {visit : Visit} {visits : List Visit}
    (isOld : visit.outcome.isCreated = false) (same : Disk.SameFiles before middle) :
    Accurate scaffold before later (visit :: visits) ↔ Accurate scaffold middle later visits := by
  have places : createdPlaces before ((visit :: visits).map Visit.outcome) =
      createdPlaces middle (visits.map Visit.outcome) := by
    rw [List.map_cons, createdPlaces_cons_of_not_created isOld,
      createdPlaces_of_directory_eq same.directory]
  constructor
  · rintro ⟨distinct, fresh, holds⟩
    rw [places] at distinct fresh
    refine ⟨distinct, fun place member => ?_, fun other member isCreated => ?_⟩
    · rw [same.content]
      exact fresh place member
    · rw [Disk.placeOf_of_directory_eq same.directory]
      exact holds other (List.mem_cons_of_mem visit member) isCreated
  · rintro ⟨distinct, fresh, holds⟩
    rw [← places] at distinct fresh
    refine ⟨distinct, fun place member => ?_, fun other member isCreated => ?_⟩
    · rw [← same.content]
      exact fresh place member
    · rcases List.mem_cons.mp member with rfl | rest
      · rw [isOld] at isCreated
        cases isCreated
      · rw [← Disk.placeOf_of_directory_eq same.directory]
        exact holds other rest isCreated

/-- A visit that writes a file keeps the report accurate exactly if there was no file before. -/
theorem accurate_cons_of_rewritten {before middle later : Disk} {visit : Visit}
    {visits : List Visit} {content : Bytes} (isCreated : visit.outcome.isCreated = true)
    (encoded : Utf8.encode? (scaffold.source visit.route visit.layer) = .ok content)
    (rewritten : Disk.Rewritten (before.placeOf visit.outcome.path) content before middle)
    (lasts : ∀ place, place ∉ createdPlaces middle (visits.map Visit.outcome) →
      later.tree.contentAt? place = middle.tree.contentAt? place) :
    Accurate scaffold before later (visit :: visits) ↔
      before.tree.contentAt? (before.placeOf visit.outcome.path) = none ∧
        Accurate scaffold middle later visits := by
  have places : createdPlaces before ((visit :: visits).map Visit.outcome) =
      before.placeOf visit.outcome.path :: createdPlaces middle (visits.map Visit.outcome) := by
    rw [List.map_cons, createdPlaces_cons_of_created isCreated,
      createdPlaces_of_directory_eq rewritten.directory]
  have elsewhere : before.placeOf visit.outcome.path ∉
      createdPlaces middle (visits.map Visit.outcome) →
        ∀ place ∈ createdPlaces middle (visits.map Visit.outcome),
          middle.tree.contentAt? place = before.tree.contentAt? place :=
    fun apart place member => rewritten.elsewhere place fun same => apart (same ▸ member)
  constructor
  · rintro ⟨distinct, fresh, holds⟩
    rw [places] at distinct fresh
    obtain ⟨apart, distinctRest⟩ := List.nodup_cons.mp distinct
    refine ⟨fresh _ List.mem_cons_self, distinctRest, fun place member => ?_,
      fun other member otherCreated => ?_⟩
    · rw [elsewhere apart place member]
      exact fresh place (List.mem_cons_of_mem _ member)
    · rw [Disk.placeOf_of_directory_eq rewritten.directory]
      exact holds other (List.mem_cons_of_mem _ member) otherCreated
  · rintro ⟨isFree, distinct, fresh, holds⟩
    -- The file is there after the visit, so no later visit finds its place free.
    have apart : before.placeOf visit.outcome.path ∉
        createdPlaces middle (visits.map Visit.outcome) := by
      intro member
      have absent := fresh _ member
      rw [rewritten.written] at absent
      cases absent
    refine ⟨?_, ?_, ?_⟩
    · rw [places]
      exact List.nodup_cons.mpr ⟨apart, distinct⟩
    · rw [places]
      refine List.forall_mem_cons.mpr ⟨isFree, fun place member => ?_⟩
      rw [← elsewhere apart place member]
      exact fresh place member
    · refine List.forall_mem_cons.mpr ⟨fun _ => ⟨content, encoded, ?_⟩,
        fun other member otherCreated => ?_⟩
      · rw [lasts _ apart, rewritten.written]
      · rw [← Disk.placeOf_of_directory_eq rewritten.directory]
        exact holds other member otherCreated

theorem isFeature_of_mem_covers {routes : List Route} {blocks : List (List Visit)} {visit : Visit}
    (shapes : List.Forall₂ (Covers scaffold) routes blocks) (member : visit ∈ blocks.flatten) :
    visit.route ∈ routes ∧ visit.route.isFeature = true := by
  induction shapes with
  | nil => cases member
  | @cons route block routes blocks shape _ induction =>
      rcases List.mem_append.mp member with here | there
      · have found : visit.route = route ∧ route.isFeature = true := by
          cases shape with
          | other _ => cases here
          | kept isFeature view controller _ =>
              rcases List.mem_pair.mp here with rfl | rfl
              · exact ⟨view.ofRoute, isFeature⟩
              · exact ⟨controller.ofRoute, isFeature⟩
          | extended isFeature view controller _ state repository =>
              simp only [List.mem_cons, List.not_mem_nil, or_false] at here
              rcases here with rfl | rfl | rfl | rfl
              · exact ⟨view.ofRoute, isFeature⟩
              · exact ⟨controller.ofRoute, isFeature⟩
              · exact ⟨state.ofRoute, isFeature⟩
              · exact ⟨repository.ofRoute, isFeature⟩
        rw [found.1]
        exact ⟨List.mem_cons_self, found.2⟩
      · obtain ⟨isRoute, isFeature⟩ := induction there
        exact ⟨List.mem_cons_of_mem route isRoute, isFeature⟩

/-- The paths of a route's files never go up. -/
def Descends (scaffold : Scaffold) (route : Route) : Prop :=
  ∀ layer, Disk.parentName ∉ (scaffold.path route layer).parts

/-- The scaffolder of a project in the working directory. -/
def ownScaffold : Scaffold :=
  ⟨.ofText "lib/features", "app"⟩

/-- The landing page of a shop. -/
def shopRoute : Route :=
  ⟨"shop", "/", "ShopPage", false⟩

/-- A page whose group leads through a directory that is not there, and back. -/
def ghostRoute : Route :=
  ⟨"ghost/..", "/", "CartPage", false⟩

/-- The disk of a project with a page of its own and other sources. -/
def ownDisk (others : List (Text × FileTree)) : Disk :=
  ⟨.directory [("lib", .directory (("features", .directory
    [("cart_page.dart", .file (Utf8.encode "// my own page\n"))]) :: others))], []⟩

theorem shopRoute_descends : ownScaffold.Descends shopRoute := by
  intro layer
  cases layer <;> decide +kernel

section Runs

variable [Console]

/-- A visit creates its file or changes no file. -/
theorem ensure_created_or_same {route : Route} {layer : Layer} {before later : Workspace}
    {outcome : Outcome} (ensured : scaffold.ensure route layer before = .ok outcome later) :
    (outcome.isCreated = true ∧ before.disk.pathExists outcome.path = .ok false ∧
        Disk.checkPath outcome.path = .ok () ∧
        ∃ content, Utf8.encode? (scaffold.source route layer) = .ok content ∧
          Disk.Rewritten (before.disk.placeOf outcome.path) content before.disk later.disk) ∨
      outcome.isCreated = false ∧ Disk.SameFiles before.disk later.disk := by
  obtain ⟨name, path, result⟩ := outcome
  obtain ⟨_, placed, effect⟩ := ensure_eq_ok ensured
  dsimp only at placed effect ⊢
  subst placed
  cases effect with
  | skipped _ same =>
      right
      rw [same]
      exact ⟨rfl, Std.Refl.refl _⟩
  | created denied checked encoded rewritten =>
      exact .inl ⟨rfl, denied, checked, _, encoded, rewritten⟩
  | failed _ same => exact .inr ⟨rfl, same⟩

theorem Visits.contentAt?_of_not_mem {before later : Workspace} {visits : List Visit}
    {place : Place} (visited : Visits scaffold before visits later)
    (apart : place ∉ createdPlaces before.disk (visits.map Visit.outcome)) :
    later.disk.tree.contentAt? place = before.disk.tree.contentAt? place := by
  induction visited with
  | nil workspace => rfl
  | @cons before middle later route layer outcome visits ensured _ induction =>
      rw [List.map_cons] at apart
      rcases ensure_created_or_same ensured with
        ⟨isCreated, _, _, content, _, rewritten⟩ | ⟨isOld, same⟩
      · rw [createdPlaces_cons_of_created isCreated, List.mem_cons, not_or] at apart
        rw [← createdPlaces_of_directory_eq rewritten.directory] at apart
        rw [induction apart.2, rewritten.elsewhere place apart.1]
      · rw [createdPlaces_cons_of_not_created isOld] at apart
        rw [← createdPlaces_of_directory_eq same.directory] at apart
        rw [induction apart, same.content place]

theorem ensure_keeps_directory {route : Route} {layer : Layer} {before later : Workspace}
    {outcome : Outcome} (ensured : scaffold.ensure route layer before = .ok outcome later) :
    later.disk.directory = before.disk.directory := by
  rcases ensure_created_or_same ensured with ⟨_, _, _, _, _, rewritten⟩ | ⟨_, same⟩
  · exact rewritten.directory
  · exact same.directory

theorem ensure_keeps_file {route : Route} {layer : Layer} {before later : Workspace}
    {outcome : Outcome} {place : Place}
    (ensured : scaffold.ensure route layer before = .ok outcome later)
    (isFile : (before.disk.tree.contentAt? place).isSome) :
    (later.disk.tree.contentAt? place).isSome := by
  rcases ensure_created_or_same ensured with ⟨_, _, _, content, _, rewritten⟩ | ⟨_, same⟩
  · by_cases here : place = before.disk.placeOf outcome.path
    · rw [here, rewritten.written]
      rfl
    · rw [rewritten.elsewhere place here]
      exact isFile
  · rw [same.content]
    exact isFile

theorem Visits.keeps_directory {before later : Workspace} {visits : List Visit}
    (visited : Visits scaffold before visits later) :
    later.disk.directory = before.disk.directory := by
  induction visited with
  | nil workspace => rfl
  | cons ensured _ induction => exact induction.trans (ensure_keeps_directory ensured)

theorem Visits.keeps_file {before later : Workspace} {visits : List Visit} {place : Place}
    (visited : Visits scaffold before visits later)
    (isFile : (before.disk.tree.contentAt? place).isSome) :
    (later.disk.tree.contentAt? place).isSome := by
  induction visited with
  | nil workspace => exact isFile
  | cons ensured _ induction => exact induction (ensure_keeps_file ensured isFile)

/-- A visit that creates its file where there has been a file from the start is misled. -/
theorem Visits.misleads_of_isSome {before later : Workspace} {visits : List Visit} {visit : Visit}
    (visited : Visits scaffold before visits later) (member : visit ∈ visits)
    (isCreated : visit.outcome.isCreated = true)
    (wasFile : (before.disk.tree.contentAt? (before.disk.placeOf visit.outcome.path)).isSome) :
    visit.before.disk.Misleads visit.outcome.path := by
  induction visited with
  | nil workspace => cases member
  | @cons before middle later route layer outcome visits ensured _ induction =>
      rcases List.mem_cons.mp member with rfl | rest
      · rcases ensure_created_or_same ensured with ⟨_, denied, _⟩ | ⟨isOld, _⟩
        · exact ⟨denied, wasFile⟩
        · rw [isCreated] at isOld
          cases isOld
      · refine induction rest ?_
        rw [Disk.placeOf_of_directory_eq (ensure_keeps_directory ensured)]
        exact ensure_keeps_file ensured wasFile

/-- A report is accurate exactly if the disk never denies a path to a file that is there. -/
theorem Visits.accurate_iff {before later : Workspace} {visits : List Visit}
    (visited : Visits scaffold before visits later) :
    Accurate scaffold before.disk later.disk visits ↔ NeverMisled visits := by
  induction visited with
  | nil workspace => exact ⟨fun _ => nofun, fun _ => ⟨List.nodup_nil, nofun, nofun⟩⟩
  | @cons before middle later route layer outcome visits ensured visited induction =>
      rw [neverMisled_cons, ← induction]
      rcases ensure_created_or_same ensured with
        ⟨isCreated, denied, _, content, encoded, rewritten⟩ | ⟨isOld, same⟩
      · rw [accurate_cons_of_rewritten isCreated encoded rewritten
          fun place => visited.contentAt?_of_not_mem, ← Option.not_isSome_iff_eq_none]
        refine and_congr_left fun _ => ⟨fun isFree _ misleads => isFree misleads.2, ?_⟩
        exact fun notMisled isFile => notMisled isCreated ⟨denied, isFile⟩
      · rw [accurate_cons_of_same isOld same]
        simp [isOld]

theorem Visits.ensure_of_mem {before later : Workspace} {visits : List Visit} {visit : Visit}
    (visited : Visits scaffold before visits later) (member : visit ∈ visits) :
    ∃ after, scaffold.ensure visit.route visit.layer visit.before = .ok visit.outcome after := by
  induction visited with
  | nil workspace => cases member
  | @cons before middle later route layer outcome visits ensured _ induction =>
      rcases List.mem_cons.mp member with rfl | rest
      · exact ⟨middle, ensured⟩
      · exact induction rest

theorem neverMisled_of_descends {before later : Workspace} {routes : List Route}
    {blocks : List (List Visit)} (visited : Visits scaffold before blocks.flatten later)
    (shapes : List.Forall₂ (Covers scaffold) routes blocks)
    (descends : ∀ route ∈ routes, route.isFeature → scaffold.Descends route) :
    NeverMisled blocks.flatten := by
  intro visit member isCreated
  obtain ⟨after, ensured⟩ := visited.ensure_of_mem member
  obtain ⟨isRoute, isFeature⟩ := isFeature_of_mem_covers shapes member
  have placed := (ensure_eq_ok ensured).2.1
  rcases ensure_created_or_same ensured with ⟨_, _, checked, _⟩ | ⟨isOld, _⟩
  · refine Disk.not_misleads_of_not_mem ?_ checked
    rw [placed]
    exact descends visit.route isRoute isFeature visit.layer
  · rw [isCreated] at isOld
    cases isOld

/-- The files of a route's page can be named, written and shown: the disk admits their paths, the
names in their texts have encodings, and the console shows what is said of them. -/
structure Writable (scaffold : Scaffold) (route : Route) : Prop where
  admits : ∀ layer, Disk.Admits (scaffold.path route layer)
  encodable : (FeatureView.ofRoute scaffold.packageName route).IsEncodable
  shows : scaffold.Shows route

theorem Writable.encode? {route : Route} (writable : scaffold.Writable route) (layer : Layer) :
    Utf8.encode? (scaffold.source route layer) =
      .ok (Utf8.encode (scaffold.source route layer)) :=
  (layer.source_isEncodable writable.encodable).encode?

/-- The files of a page can be written if the disk admits their paths and the names on these are
plain. -/
theorem writable_of_isUnmarked {route : Route}
    (encodable : (FeatureView.ofRoute scaffold.packageName route).IsEncodable)
    (paths : ∀ layer ∈ Layer.all, Disk.Admits (scaffold.path route layer) ∧
      ∀ name ∈ (scaffold.path route layer).parts, IsUnmarked name) :
    scaffold.Writable route := by
  have each : ∀ layer : Layer, layer ∈ Layer.all := fun layer => by cases layer <;> decide
  exact ⟨fun layer => (paths layer (each layer)).1, encodable,
    shows_of_isUnmarked fun layer => (paths layer (each layer)).2⟩

/-- Whatever is in the way of writable files, a run gets through all of them. -/
theorem run_confined_of_writable {routes : List Route}
    (writable : ∀ route ∈ routes, route.isFeature → scaffold.Writable route) :
    Confined (fun _ => False) (scaffold.run routes) := by
  refine run_confined fun route member isFeature layer => ?_
  have isWritable := writable route member isFeature
  refine ensure_confined (fun disk fault refused => ?_) ?_ fun reason refused => ?_
  · obtain ⟨isThere, answered⟩ := (isWritable.admits layer).pathExists_eq_ok disk
    rw [answered] at refused
    cases refused
  · intro workspace failure later failed
    exact .inl (Action.writeText_confined (isWritable.encode? layer) (isWritable.admits layer)
      workspace failure later failed)
  · rcases refused with refused | refused
    · cases (isWritable.shows.missing layer).symm.trans refused
    · cases (isWritable.shows.created layer).symm.trans refused

/-- A writable file that the disk denies is created if the disk lets it be written. -/
theorem ensure_of_denied {route : Route} {layer : Layer} {before : Workspace}
    (writable : scaffold.Writable route)
    (denied : before.disk.pathExists (scaffold.path route layer) = .ok false)
    (written : ∀ content, ∃ later,
      Disk.writeDeepFile (scaffold.path route layer) content before.disk = .ok () later) :
    ∃ later, scaffold.ensure route layer before =
      .ok ⟨layer, scaffold.path route layer, .created⟩ later := by
  obtain ⟨disk, wrote⟩ := written (Utf8.encode (scaffold.source route layer))
  have wroteText : ∀ clock log, Action.attempt Failure.isFromDisk
      (Action.writeText (scaffold.path route layer) (scaffold.source route layer))
        ⟨before.disk, clock, log⟩ = .ok (.ok ()) ⟨disk, clock, log⟩ := by
    intro clock log
    rw [Action.attempt_run, Action.writeText, writable.encode? layer]
    simp only [Action.change, wrote]
  have asked : Action.ask (·.pathExists (scaffold.path route layer)) before =
      .ok false before := by
    rw [Action.ask_run, denied]
  rw [ensure, bind_of_ok asked]
  simp only [Bool.false_eq_true, if_false]
  rw [bind_of_ok (Action.say_of_shown (writable.shows.missing layer) _), bind_of_ok (wroteText _ _)]
  dsimp only
  rw [bind_of_ok (Action.say_of_shown (writable.shows.created layer) _)]
  exact ⟨_, rfl⟩

/-- The visits to a feature page start with the page's view and never come back to it. -/
theorem Visits.starts_with_view {route : Route} {before later : Workspace} {visits : List Visit}
    (visited : Visits scaffold before visits later) (shape : Covers scaffold route visits)
    (isFeature : route.isFeature = true) :
    ∃ outcome middle rest, scaffold.ensure route .view before = .ok outcome middle ∧
      Visits scaffold middle rest later ∧ visits = ⟨before, route, .view, outcome⟩ :: rest ∧
      ∀ visit ∈ rest, ∃ layer, layer ≠ .view ∧
        visit.outcome.path = scaffold.path route layer := by
  cases shape with
  | other isOther =>
      rw [isFeature] at isOther
      cases isOther
  | kept _ view controller _ =>
      obtain _ | ⟨ensured, visited⟩ := visited
      obtain ⟨rfl, rfl, _, _⟩ := view
      refine ⟨_, _, _, ensured, visited, rfl, fun visit member => ?_⟩
      obtain rfl := List.mem_singleton.mp member
      exact ⟨.controller, by decide, controller.placed⟩
  | extended _ view controller _ state repository =>
      obtain _ | ⟨ensured, visited⟩ := visited
      obtain ⟨rfl, rfl, _, _⟩ := view
      refine ⟨_, _, _, ensured, visited, rfl, fun visit member => ?_⟩
      simp only [List.mem_cons, List.not_mem_nil, or_false] at member
      rcases member with rfl | rfl | rfl
      · exact ⟨.controller, by decide, controller.placed⟩
      · exact ⟨.state, by decide, state.placed⟩
      · exact ⟨.repository, by decide, repository.placed⟩

/-- A view that the disk denies is written over with its source if the disk lets it be written, and
keeps this source if the other files of the page have other places. -/
theorem Visits.overwrite_view {route : Route} {before later : Workspace} {visits : List Visit}
    (visited : Visits scaffold before visits later) (shape : Covers scaffold route visits)
    (isFeature : route.isFeature = true) (writable : scaffold.Writable route)
    (denied : before.disk.pathExists (scaffold.path route .view) = .ok false)
    (written : ∀ content, ∃ later,
      Disk.writeDeepFile (scaffold.path route .view) content before.disk = .ok () later)
    (apart : ∀ layer, layer ≠ .view →
      before.disk.placeOf (scaffold.path route layer) ≠
        before.disk.placeOf (scaffold.path route .view)) :
    before.disk.placeOf (scaffold.path route .view) ∈
        createdPlaces before.disk (visits.map Visit.outcome) ∧
      later.disk.tree.contentAt? (before.disk.placeOf (scaffold.path route .view)) =
        some (Utf8.encode (scaffold.source route .view)) := by
  obtain ⟨outcome, middle, rest, ensured, visitedRest, rfl, others⟩ :=
    visited.starts_with_view shape isFeature
  obtain ⟨_, created⟩ := ensure_of_denied writable denied written
  rw [created] at ensured
  cases ensured
  rcases ensure_created_or_same created with
    ⟨isCreated, _, _, content, encoded, rewritten⟩ | ⟨isOld, _⟩
  · rw [writable.encode?] at encoded
    cases encoded
    rw [List.map_cons, createdPlaces_cons_of_created isCreated]
    refine ⟨List.mem_cons_self, ?_⟩
    rw [visitedRest.contentAt?_of_not_mem, rewritten.written]
    intro member
    obtain ⟨outcome, reported, placed⟩ := List.mem_map.mp member
    obtain ⟨visit, visitMember, rfl⟩ := List.mem_map.mp (List.mem_filter.mp reported).1
    obtain ⟨layer, notView, path⟩ := others visit visitMember
    rw [Disk.placeOf_of_directory_eq rewritten.directory, path] at placed
    exact apart layer notView placed
  · cases isOld

theorem shopRoute_writable : ownScaffold.Writable shopRoute :=
  writable_of_isUnmarked ⟨.ofList (by decide), .ofList (by decide), .ofList (by decide)⟩
    (by decide +kernel)

theorem ghostRoute_writable : ownScaffold.Writable ghostRoute :=
  writable_of_isUnmarked ⟨.ofList (by decide), .ofList (by decide), .ofList (by decide)⟩
    (by decide +kernel)

/-- The view of the page behind the missing directory is written over wherever the disk is that of
the project. -/
theorem overwrite_ghost {others : List (Text × FileTree)} {before later : Workspace}
    {visits : List Visit} (visited : Visits ownScaffold before visits later)
    (shape : Covers ownScaffold ghostRoute visits) (start : before.disk = ownDisk others)
    (denied : (ownDisk others).pathExists (ownScaffold.path ghostRoute .view) = .ok false)
    (checked : passes (Disk.makeDirectories (ownScaffold.path ghostRoute .view).parent)
      (ownDisk others) (fun _ middle => middle.isOpen (ownScaffold.path ghostRoute .view)) = true) :
    (ownDisk others).placeOf (ownScaffold.path ghostRoute .view) ∈
        createdPlaces (ownDisk others) (visits.map Visit.outcome) ∧
      later.disk.tree.contentAt? ((ownDisk others).placeOf (ownScaffold.path ghostRoute .view)) =
        some (Utf8.encode (ownScaffold.source ghostRoute .view)) := by
  obtain ⟨_, middle, made, opened⟩ := exists_ok_of_passes checked
  have apart : ∀ layer, layer ≠ .view →
      (ownDisk []).placeOf (ownScaffold.path ghostRoute layer) ≠
        (ownDisk []).placeOf (ownScaffold.path ghostRoute .view) := by
    intro layer
    cases layer <;> decide +kernel
  rw [← start] at denied made ⊢
  refine visited.overwrite_view shape (by decide) ghostRoute_writable denied
    (fun content => Disk.writeDeepFile_of_isOpen content made opened) ?_
  rw [start]
  exact apart

/--
A run with writable files gets to its end. Its outcomes are those of its visits: two for every
feature page, two more where the controller is new, and none for other pages. No file changes but
those that are reported as created. Exactly if no path is denied to a file that is there, these are
distinct and new and hold the texts of their layers; paths that never go up are not denied.
-/
theorem run_report (scaffold : Scaffold) (routes : List Route) (before : Workspace) :
    ((∀ route ∈ routes, route.isFeature → scaffold.Writable route) →
      ∃ outcomes later, scaffold.run routes before = .ok outcomes later) ∧
    ∀ outcomes later, scaffold.run routes before = .ok outcomes later →
      ∃ blocks : List (List Visit),
        Visits scaffold before blocks.flatten later ∧
        blocks.flatten.map Visit.outcome = outcomes ∧
        List.Forall₂ (Covers scaffold) routes blocks ∧
        (∀ place, place ∉ createdPlaces before.disk outcomes →
          later.disk.tree.contentAt? place = before.disk.tree.contentAt? place) ∧
        (Accurate scaffold before.disk later.disk blocks.flatten ↔ NeverMisled blocks.flatten) ∧
        ((∀ route ∈ routes, route.isFeature → scaffold.Descends route) →
          NeverMisled blocks.flatten) := by
  constructor
  · intro writable
    exact exists_ok_of_confined (run_confined_of_writable writable) before
  · intro outcomes later run
    obtain ⟨blocks, visited, reports, shapes⟩ := run_visits run
    refine ⟨blocks, visited, reports, shapes, fun place apart => ?_, visited.accurate_iff,
      neverMisled_of_descends visited shapes⟩
    rw [← reports] at apart
    exact visited.contentAt?_of_not_mem apart

end Runs

/-- The files of a shop's landing page are created as they are reported. -/
theorem run_report_shop :
    (∀ route ∈ [shopRoute], route.isFeature →
      Writable ownScaffold route ∧ Descends ownScaffold route) ∧
    ∃ outcomes later, ∃ blocks : List (List Visit),
      run ownScaffold [shopRoute] ⟨ownDisk [], [], []⟩ = .ok outcomes later ∧
      blocks.flatten.map Visit.outcome = outcomes ∧
      Accurate ownScaffold (ownDisk []) later.disk blocks.flatten := by
  have each : ∀ route ∈ [shopRoute], route.isFeature →
      Writable ownScaffold route ∧ Descends ownScaffold route := by
    intro route member _
    obtain rfl := List.mem_singleton.mp member
    exact ⟨shopRoute_writable, shopRoute_descends⟩
  have report := run_report ownScaffold [shopRoute] ⟨ownDisk [], [], []⟩
  obtain ⟨outcomes, later, run⟩ := report.1 fun route member isFeature =>
    (each route member isFeature).1
  obtain ⟨blocks, _, reports, _, _, accurate, neverMisled⟩ := report.2 outcomes later run
  exact ⟨each, outcomes, later, blocks, run, reports, accurate.mpr <| neverMisled
    fun route member isFeature => (each route member isFeature).2⟩

/-- A page is reported as created although there is a file, if its path leads through a directory
that is missing and back. -/
theorem not_forall_created_is_new :
    ¬ ∀ (scaffold : Scaffold) (routes : List Route) (before : Workspace)
      (outcomes : List Outcome) (later : Workspace),
      scaffold.run routes before = .ok outcomes later →
        ∀ place ∈ createdPlaces before.disk outcomes,
          before.disk.tree.contentAt? place = none := by
  intro claim
  obtain ⟨outcomes, later, run⟩ := exists_ok_of_confined
    (run_confined_of_writable (List.forall_mem_singleton.mpr fun _ => ghostRoute_writable))
    ⟨ownDisk [], [], []⟩
  obtain ⟨_, visited, rfl, _ | ⟨shape, ⟨⟩⟩⟩ := run_visits run
  rw [List.flatten_cons, List.flatten_nil, List.append_nil] at visited run
  have created := (overwrite_ghost visited shape rfl (by decide +kernel) (by decide +kernel)).1
  have isNew := claim _ _ _ _ later run _ created
  have isOld : (ownDisk []).tree.contentAt?
      ((ownDisk []).placeOf (ownScaffold.path ghostRoute .view)) ≠ none := by
    decide +kernel
  exact isOld isNew

end DartRoutes.Scaffold
