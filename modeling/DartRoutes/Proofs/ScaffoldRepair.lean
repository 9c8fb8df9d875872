import DartRoutes.Proofs.FeaturePath
import DartRoutes.Proofs.ScaffoldRepeat
import DartRoutes.Proofs.ScaffoldReport
import DartRoutes.Proofs.TreeFiles
import Mathlib.Data.List.Perm.Subperm

/-!
# Repairing a project

A file that cannot be created has a file in its way. When this one is deleted, the next run creates
the missing file if it looks at it: views and controllers are looked at in every run, the states and
the repositories only when their controllers are new. Repairs come to an end where no file of a
feature page is in the way of another one.
-/

namespace DartRoutes

open Effect

namespace Scaffold

variable {scaffold : Scaffold} {routes : List Route}

/-- A file of a feature page of the routes. -/
def Makes (scaffold : Scaffold) (routes : List Route) (path : Path) : Prop :=
  ∃ route ∈ routes, route.isFeature = true ∧ ∃ layer, path = scaffold.path route layer

/-- The place is not that of a file of a feature page. -/
def Foreign (scaffold : Scaffold) (routes : List Route) (disk : Disk) (place : Place) : Prop :=
  ∀ path, scaffold.Makes routes path → disk.placeOf path ≠ place

/-- No file of a feature page lies where another one needs a directory. -/
def Apart (scaffold : Scaffold) (routes : List Route) (disk : Disk) : Prop :=
  ∀ path place, scaffold.Makes routes path → disk.Crosses path.parent place →
    scaffold.Foreign routes disk place

/-- The files that every feature page is checked for are there. -/
def HasLeading (scaffold : Scaffold) (routes : List Route) (disk : Disk) : Prop :=
  ∀ route ∈ routes, route.isFeature = true → ∀ layer ∈ Layer.leading,
    disk.pathExists (scaffold.path route layer) = .ok true

theorem Foreign.of_directory_eq {before after : Disk} {place : Place}
    (foreign : scaffold.Foreign routes before place) (same : after.directory = before.directory) :
    scaffold.Foreign routes after place := by
  intro path makes
  rw [Disk.placeOf_of_directory_eq same]
  exact foreign path makes

theorem Apart.of_directory_eq {before after : Disk} (apart : scaffold.Apart routes before)
    (same : after.directory = before.directory) : scaffold.Apart routes after := by
  intro path place makes crosses
  rw [Disk.crosses_of_directory_eq same] at crosses
  exact (apart path place makes crosses).of_directory_eq same

/-- The files of feature pages whose groups and pages are named by identifiers are never in the way
of one another. -/
theorem apart_of_isName (descends : Disk.parentName ∉ scaffold.featuresDir.parts)
    (named : ∀ route ∈ routes, route.isFeature = true → IsGroup route.group ∧ IsName route.page)
    (disk : Disk) : scaffold.Apart routes disk := by
  rintro _ place ⟨route, member, isFeature, layer, rfl⟩ crosses
    _ ⟨other, otherMember, otherIsFeature, otherLayer, rfl⟩ rfl
  obtain ⟨isGroup, isName⟩ := named route member isFeature
  obtain ⟨otherIsGroup, otherIsName⟩ := named other otherMember otherIsFeature
  exact layer.placeOf_ne_of_crosses scaffold.featuresDir otherLayer isGroup isName otherIsGroup
    otherIsName descends crosses rfl

section Repairing

variable [Console]

theorem ensure_makesAlong {route : Route} {layer : Layer} {before later : Workspace}
    {outcome : Outcome} (ensured : scaffold.ensure route layer before = .ok outcome later) :
    Disk.MakesAlong (scaffold.path route layer).parent before.disk later.disk := by
  obtain ⟨log, run⟩ := ensure_run scaffold route layer before
  have makes := Disk.writeDeepFile_makesAlong (scaffold.path route layer)
    (Action.writtenBytes (scaffold.source route layer)) before.disk
  rw [← Action.writeText_disk] at makes
  rw [run] at ensured
  split at ensured
  · cases ensured
  · cases ensured
    exact Std.Refl.refl before.disk
  · split at ensured
    · cases ensured
    · split at ensured
      · rename_i wrote
        rw [after_of_ok wrote] at makes
        split at ensured
        · cases ensured
        · cases ensured
          exact makes
      · rename_i refused
        rw [after_of_error refused] at makes
        split at ensured
        · cases ensured
          exact makes
        · cases ensured

/-- The paths of the files that are visited lead over all directories that are new. -/
theorem Visits.crosses_of_new {before later : Workspace} {visits : List Visit} {place : Place}
    (visited : Visits scaffold before visits later)
    (isDirectory : later.disk.tree.kindAt? place = some true) :
    before.disk.tree.kindAt? place = some true ∨
      ∃ visit ∈ visits, before.disk.Crosses visit.outcome.path.parent place := by
  induction visited with
  | nil _ => exact .inl isDirectory
  | @cons before middle later route layer outcome visits ensured _ induction =>
      have makes := ensure_makesAlong ensured
      rcases induction isDirectory with old | ⟨visit, member, crosses⟩
      · refine (makes.along place old).imp_right fun crosses => ?_
        refine ⟨_, List.mem_cons_self, ?_⟩
        rw [(ensure_eq_ok ensured).2.1]
        exact crosses
      · exact .inr ⟨visit, List.mem_cons_of_mem _ member,
          (Disk.crosses_of_directory_eq makes.directory).mp crosses⟩

/-- Runs, and between any two of them a repair: a file in the way of a file of a feature page is
deleted. The places are those of the deleted files. -/
inductive Repairs (scaffold : Scaffold) (routes : List Route) :
    Workspace → List Place → Workspace → Prop where
  | done {before later : Workspace} {outcomes : List Outcome} :
      scaffold.run routes before = .ok outcomes later →
      Repairs scaffold routes before [] later
  | repaired {before middle later : Workspace} {outcomes : List Outcome} {path obstacle : Path}
      {disk : Disk} {places : List Place} :
      scaffold.run routes before = .ok outcomes middle →
      scaffold.Makes routes path →
      middle.disk.Obstructs (middle.disk.placeOf obstacle) path →
      Disk.delete obstacle middle.disk = .ok () disk →
      Repairs scaffold routes { middle with disk } places later →
      Repairs scaffold routes before (middle.disk.placeOf obstacle :: places) later

/-- The visits of a run, and what the disk says of their files afterwards. -/
structure Settles (scaffold : Scaffold) (routes : List Route) (before later : Workspace)
    (outcomes : List Outcome) (blocks : List (List Visit)) : Prop where
  visited : Visits scaffold before blocks.flatten later
  reports : blocks.flatten.map Visit.outcome = outcomes
  covers : List.Forall₂ (Covers scaffold) routes blocks
  grows : Disk.Grows before.disk later.disk
  makes : ∀ outcome ∈ outcomes, scaffold.Makes routes outcome.path
  settled : ∀ outcome ∈ outcomes, later.disk.pathExists outcome.path = .ok true ∨
    ∃ place, later.disk.Obstructs place outcome.path

variable (writable : ∀ route ∈ routes, route.isFeature = true → scaffold.Writable route)

include writable

theorem run_settles {before later : Workspace} {outcomes : List Outcome}
    (has : before.disk.HasDirectory) (run : scaffold.run routes before = .ok outcomes later) :
    ∃ blocks, Settles scaffold routes before later outcomes blocks := by
  obtain ⟨blocks, visited, reports, covers⟩ := run_visits run
  obtain ⟨grows, settled⟩ := visited.settles fun route layer => has.isGrounded _
  have each : ∀ outcome ∈ outcomes, ∃ route ∈ routes, route.isFeature = true ∧
      ∃ layer, outcome.path = scaffold.path route layer ∧
        later.disk.Settled (scaffold.path route layer) := by
    intro outcome member
    rw [← reports] at member
    obtain ⟨visit, inside, rfl⟩ := List.mem_map.mp member
    obtain ⟨isRoute, isFeature⟩ := isFeature_of_mem_covers covers inside
    obtain ⟨after, ensured⟩ := visited.ensure_of_mem inside
    exact ⟨visit.route, isRoute, isFeature, visit.layer, (ensure_eq_ok ensured).2.1,
      (settled visit inside).settled⟩
  refine ⟨blocks, visited, reports, covers, grows, fun outcome member => ?_,
    fun outcome member => ?_⟩
  · obtain ⟨route, isRoute, isFeature, layer, isPath, _⟩ := each outcome member
    exact ⟨route, isRoute, isFeature, layer, isPath⟩
  · obtain ⟨route, isRoute, isFeature, layer, isPath, settled⟩ := each outcome member
    rw [isPath]
    exact settled.exists_or_obstructs ((writable route isRoute isFeature).admits layer)
      (layer.isNamed_path scaffold.featuresDir route)

omit writable

section Settles

variable {before later : Workspace} {outcomes : List Outcome} {blocks : List (List Visit)}
  (settles : Settles scaffold routes before later outcomes blocks)

include settles

theorem Settles.exists_outcome {route : Route} (member : route ∈ routes)
    (isFeature : route.isFeature = true) {layer : Layer} (leads : layer ∈ Layer.leading) :
    ∃ outcome ∈ outcomes, outcome.path = scaffold.path route layer := by
  obtain ⟨visit, inside, visits⟩ := exists_visit_of_mem settles.covers member isFeature leads
  refine ⟨visit.outcome, ?_, visits.placed⟩
  rw [← settles.reports]
  exact List.mem_map_of_mem inside

/-- A file that is there after a run was there before, or the run has created it. -/
theorem Settles.old_or_created {place : Place}
    (isFile : (later.disk.tree.contentAt? place).isSome) :
    (before.disk.tree.contentAt? place).isSome ∨
      ∃ outcome ∈ outcomes, outcome.isCreated = true ∧ later.disk.placeOf outcome.path = place := by
  by_cases created : place ∈ createdPlaces before.disk outcomes
  · obtain ⟨outcome, kept, placed⟩ := List.mem_map.mp created
    obtain ⟨member, isCreated⟩ := List.mem_filter.mp kept
    refine .inr ⟨outcome, member, isCreated, ?_⟩
    rw [Disk.placeOf_of_directory_eq settles.grows.directory, placed]
  · rw [← settles.reports] at created
    rw [← settles.visited.contentAt?_of_not_mem created]
    exact .inl isFile

theorem Settles.old_of_foreign {place : Place} (foreign : scaffold.Foreign routes before.disk place)
    (isFile : (later.disk.tree.contentAt? place).isSome) :
    (before.disk.tree.contentAt? place).isSome := by
  rcases settles.old_or_created isFile with old | ⟨outcome, member, _, placed⟩
  · exact old
  · rw [Disk.placeOf_of_directory_eq settles.grows.directory] at placed
    exact absurd placed (foreign outcome.path (settles.makes outcome member))

/-- A file whose obstacle was deleted before the run is there after it, unless the run has put a
new file in its way. -/
theorem Settles.exists_of_cleared {disk : Disk} {place : Place} {outcome : Outcome}
    (cleared : Disk.Cleared place disk before.disk)
    (obstructed : disk.Obstructs place outcome.path)
    (descends : Disk.parentName ∉ outcome.path.parts) (member : outcome ∈ outcomes) :
    later.disk.pathExists outcome.path = .ok true ∨
      ∃ created ∈ outcomes, created.isCreated = true ∧
        later.disk.Obstructs (later.disk.placeOf created.path) outcome.path := by
  rcases settles.settled outcome member with isThere | ⟨other, obstructs⟩
  · exact .inl isThere
  right
  rcases settles.old_or_created (FileTree.isSome_contentAt?_iff.mpr obstructs.isFile) with
    old | ⟨created, reported, isCreated, placed⟩
  · -- An obstacle that has been there all along is a second file on the way of the same path.
    have same : later.disk.directory = disk.directory :=
      settles.grows.directory.trans cleared.directory
    have below : Disk.parentName ∉ outcome.path.parent.parts :=
      fun inside => descends (List.dropLast_subset _ inside)
    obtain ⟨wasFile, isOther⟩ := cleared.wasOther old
    exact absurd (Disk.eq_of_crosses below
      ((Disk.crosses_of_directory_eq same).mp obstructs.crosses) obstructed.crosses
      (FileTree.isSome_contentAt?_iff.mp wasFile) cleared.wasFile) isOther
  · exact ⟨created, reported, isCreated, placed ▸ obstructs⟩

end Settles

section Repairs

variable {before later : Workspace} {places : List Place}
  (repairs : Repairs scaffold routes before places later) (has : before.disk.HasDirectory)

include writable repairs has

/-- Where no file of a feature page is in the way of another one, repairs delete distinct files that
have been there from the start. -/
theorem Repairs.deleted (apart : scaffold.Apart routes before.disk) :
    places.Nodup ∧ ∀ place ∈ places,
      (before.disk.tree.contentAt? place).isSome ∧ scaffold.Foreign routes before.disk place := by
  induction repairs with
  | done _ => exact ⟨List.nodup_nil, List.forall_mem_nil _⟩
  | @repaired before middle later outcomes path obstacle disk places run makes obstructs deleted
      _ induction =>
      obtain ⟨blocks, settles⟩ := run_settles writable has run
      have same := settles.grows.directory
      have hasMiddle := has.grow settles.grows
      have cleared := hasMiddle.cleared_of_delete obstructs.isFile deleted
      obtain ⟨distinct, each⟩ := induction (cleared.hasDirectory hasMiddle)
        (apart.of_directory_eq (cleared.directory.trans same))
      have foreign := apart path _ makes
        ((Disk.crosses_of_directory_eq same).mp obstructs.crosses)
      have wasFile := FileTree.isSome_contentAt?_iff.mpr obstructs.isFile
      refine ⟨List.nodup_cons.mpr ⟨fun again => ?_, distinct⟩,
        List.forall_mem_cons.mpr ⟨⟨settles.old_of_foreign foreign wasFile, foreign⟩, ?_⟩⟩
      · exact (cleared.wasOther (each _ again).1).2 rfl
      · intro place member
        obtain ⟨isFile, foreignLater⟩ := each place member
        have foreign := foreignLater.of_directory_eq (cleared.directory.trans same).symm
        exact ⟨settles.old_of_foreign foreign (cleared.wasOther isFile).1, foreign⟩

theorem Repairs.length_le (apart : scaffold.Apart routes before.disk) :
    places.length ≤ before.disk.tree.files.length := by
  obtain ⟨distinct, each⟩ := repairs.deleted writable has apart
  have inside : places ⊆ before.disk.tree.files.map Prod.fst :=
    fun place member => FileTree.mem_files_of_isSome (each place member).1
  have bounded := (List.subperm_of_subset distinct inside).length_le
  rwa [List.length_map] at bounded

/-- As long as a file that every feature page is checked for is missing, repairs can go on. -/
theorem Repairs.leads_on :
    scaffold.HasLeading routes later.disk ∨
      ∃ place next, Repairs scaffold routes before (places ++ [place]) next := by
  induction repairs with
  | @done before later outcomes run =>
      obtain ⟨blocks, settles⟩ := run_settles writable has run
      by_cases complete : scaffold.HasLeading routes later.disk
      · exact .inl complete
      right
      obtain ⟨route, member, isFeature, layer, leads, isMissing⟩ :
          ∃ route ∈ routes, route.isFeature = true ∧ ∃ layer ∈ Layer.leading,
            later.disk.pathExists (scaffold.path route layer) ≠ .ok true := by
        simpa [HasLeading] using complete
      obtain ⟨outcome, reported, isPath⟩ := settles.exists_outcome member isFeature leads
      rcases settles.settled outcome reported with isThere | ⟨place, obstructs⟩
      · exact absurd (isPath ▸ isThere) isMissing
      rw [isPath] at obstructs
      have admits := (writable route member isFeature).admits layer
      obtain ⟨obstacle, disk, rfl, deleted⟩ := obstructs.exists_delete admits.checkPath
      obtain ⟨_, next, rerun⟩ :=
        exists_ok_of_confined (run_confined_of_writable writable) { later with disk }
      exact ⟨_, next, .repaired run ⟨route, member, isFeature, layer, rfl⟩ obstructs deleted
        (.done rerun)⟩
  | @repaired before middle later outcomes path obstacle disk places run makes obstructs deleted
      _ induction =>
      obtain ⟨blocks, settles⟩ := run_settles writable has run
      have hasMiddle := has.grow settles.grows
      have cleared := hasMiddle.cleared_of_delete obstructs.isFile deleted
      refine (induction (cleared.hasDirectory hasMiddle)).imp_right ?_
      rintro ⟨place, next, further⟩
      exact ⟨place, next, .repaired run makes obstructs deleted further⟩

end Repairs

omit writable

/-- Where no file of a feature page is in the way of another one, repairs can always go on to the end:
until all files are back that every feature page is checked for. -/
theorem Repairs.completes {before later : Workspace} {places : List Place}
    (writable : ∀ route ∈ routes, route.isFeature = true → scaffold.Writable route)
    (repairs : Repairs scaffold routes before places later) (has : before.disk.HasDirectory)
    (apart : scaffold.Apart routes before.disk) :
    ∃ more last, Repairs scaffold routes before (places ++ more) last ∧
      scaffold.HasLeading routes last.disk := by
  -- Every repair deletes one more of the files that have been there from the start.
  induction remaining : before.disk.tree.files.length - places.length using
    Nat.strong_induction_on generalizing places later with
  | _ remaining induction =>
      subst remaining
      rcases repairs.leads_on writable has with complete | ⟨place, next, further⟩
      · exact ⟨[], later, (List.append_nil places).symm ▸ repairs, complete⟩
      · have bounded := further.length_le writable has apart
        rw [List.length_append, List.length_singleton] at bounded
        obtain ⟨more, last, repaired, complete⟩ := induction _ (by
          rw [List.length_append, List.length_singleton]
          omega) further rfl
        rw [List.append_assoc] at repaired
        exact ⟨_, last, repaired, complete⟩

/--
A run with writable files gets to its end. Each file that it looks at is there afterwards, or there
is a file in its way that can be deleted. A run behind that creates the missing file unless it is
there, if the run looks at it and puts no new file in its way; it looks at all views and
controllers, and at the states and the repositories of the controllers that it creates. As long as a
view or a controller is missing, a repair can follow. Where no file of a feature page is in the way
of another one, repairs delete distinct files that have been there from the start, and whatever they
were, more of them bring back all views and controllers.
-/
theorem repairs_complete (scaffold : Scaffold) {routes : List Route} {before : Workspace}
    (writable : ∀ route ∈ routes, route.isFeature = true → scaffold.Writable route)
    (has : before.disk.HasDirectory) :
    (∀ workspace, ∃ outcomes later, scaffold.run routes workspace = .ok outcomes later) ∧
    (∀ outcomes middle, scaffold.run routes before = .ok outcomes middle →
      (∃ blocks : List (List Visit),
        Visits scaffold before blocks.flatten middle ∧
        blocks.flatten.map Visit.outcome = outcomes ∧
        List.Forall₂ (Covers scaffold) routes blocks) ∧
      (∀ outcome ∈ outcomes, middle.disk.pathExists outcome.path = .ok true ∨
        ∃ obstacle disk, middle.disk.Obstructs (middle.disk.placeOf obstacle) outcome.path ∧
          Disk.delete obstacle middle.disk = .ok () disk) ∧
      ∀ obstacle disk again later, Disk.delete obstacle middle.disk = .ok () disk →
        scaffold.run routes { middle with disk } = .ok again later →
        ∀ route ∈ routes, route.isFeature = true → ∀ layer,
          middle.disk.Obstructs (middle.disk.placeOf obstacle) (scaffold.path route layer) →
          Disk.parentName ∉ (scaffold.path route layer).parts →
          (layer ∈ Layer.leading ∨ ∃ outcome ∈ again, outcome.path = scaffold.path route layer) →
          later.disk.pathExists (scaffold.path route layer) = .ok true ∨
            ∃ created ∈ again, created.isCreated = true ∧
              later.disk.Obstructs (later.disk.placeOf created.path) (scaffold.path route layer)) ∧
    ∀ places later, Repairs scaffold routes before places later →
      (scaffold.HasLeading routes later.disk ∨
        ∃ place next, Repairs scaffold routes before (places ++ [place]) next) ∧
      (scaffold.Apart routes before.disk →
        places.Nodup ∧ (∀ place ∈ places, (before.disk.tree.contentAt? place).isSome) ∧
        ∃ more last, Repairs scaffold routes before (places ++ more) last ∧
          scaffold.HasLeading routes last.disk) := by
  refine ⟨exists_ok_of_confined (run_confined_of_writable writable),
    fun outcomes middle run => ?_, fun places later repairs =>
      ⟨repairs.leads_on writable has, fun apart => ?_⟩⟩
  · obtain ⟨blocks, settles⟩ := run_settles writable has run
    have hasMiddle := has.grow settles.grows
    refine ⟨⟨blocks, settles.visited, settles.reports, settles.covers⟩,
      fun outcome member => ?_, ?_⟩
    · refine (settles.settled outcome member).imp_right ?_
      rintro ⟨place, obstructs⟩
      obtain ⟨route, isRoute, isFeature, layer, isPath⟩ := settles.makes outcome member
      have admits := (writable route isRoute isFeature).admits layer
      rw [isPath] at obstructs ⊢
      obtain ⟨obstacle, disk, rfl, deleted⟩ := obstructs.exists_delete admits.checkPath
      exact ⟨obstacle, disk, obstructs, deleted⟩
    · intro obstacle disk again later deleted rerun route isRoute isFeature layer obstructs descends
        isVisited
      have cleared := hasMiddle.cleared_of_delete obstructs.isFile deleted
      obtain ⟨_, resettles⟩ := run_settles writable (cleared.hasDirectory hasMiddle) rerun
      obtain ⟨outcome, member, isPath⟩ := isVisited.elim
        (fun leads => resettles.exists_outcome isRoute isFeature leads) id
      rw [← isPath] at obstructs descends ⊢
      exact resettles.exists_of_cleared cleared obstructs descends member
  · obtain ⟨distinct, each⟩ := repairs.deleted writable has apart
    exact ⟨distinct, fun place member => (each place member).1,
      repairs.completes writable has apart⟩

section Nested

variable {route : Route} {rest : List Route} {before later : Workspace}
  (allWritable : ∀ page ∈ route :: rest, page.isFeature = true → scaffold.Writable page)
  (isFeature : route.isFeature = true) (has : before.disk.HasDirectory)
  (descends : Disk.parentName ∉ (scaffold.path route .view).parts)
  (noDirectory :
    before.disk.tree.kindAt? (before.disk.placeOf (scaffold.path route .view)) ≠ some true)

include has descends noDirectory in
/-- After a visit to a view there is a file at its path or in its way, unless there has been a
directory. -/
theorem ensure_stops (admits : Disk.Admits (scaffold.path route .view)) {outcome : Outcome}
    (ensured : scaffold.ensure route .view before = .ok outcome later) :
    later.disk.Stops (scaffold.path route .view) := by
  have settled := (ensure_settles (has.isGrounded _) ensured).2.settled
  have isNamed := Layer.view.isNamed_path scaffold.featuresDir route
  rcases settled.exists_or_obstructs admits isNamed with isThere | ⟨place, obstructs⟩
  · obtain ⟨place, kind, located, found⟩ := Disk.pathExists_eq_true_iff.mp isThere
    cases kind with
    | false =>
        rw [Disk.locate_of_checkPath admits.checkPath] at located
        exact ⟨place, _, List.prefix_rfl, located, found⟩
    | true =>
        have makes := ensure_makesAlong ensured
        obtain rfl := Disk.locate_eq_placeOf located
        rw [Disk.placeOf_of_directory_eq makes.directory] at found
        rcases makes.along _ found with old | crosses
        · exact absurd old noDirectory
        · exact absurd crosses (Disk.not_crosses_parent descends isNamed)
  · exact obstructs.stops

include isFeature has descends noDirectory in
theorem run_stops (admits : Disk.Admits (scaffold.path route .view)) {outcomes : List Outcome}
    (run : scaffold.run (route :: rest) before = .ok outcomes later) :
    later.disk.Stops (scaffold.path route .view) := by
  obtain ⟨_, visited, _, _ | ⟨shape, _⟩⟩ := run_visits run
  obtain ⟨middle, first, others⟩ := visited.of_append
  obtain ⟨outcome, second, visits, ensured, visited, _⟩ := first.starts_with_view shape isFeature
  have grows := (ensure_settles (has.isGrounded _) ensured).1
  have growsFirst := (visited.settles fun _ _ => (has.grow grows).isGrounded _).1
  have growsOthers :=
    (others.settles fun _ _ => ((has.grow grows).grow growsFirst).isGrounded _).1
  exact ((ensure_stops has descends noDirectory admits ensured).grow growsFirst).grow growsOthers

include allWritable isFeature has descends noDirectory in
/-- Whatever repairs delete, the view of the first page ends in a file or behind one. -/
theorem Repairs.stops {places : List Place}
    (repairs : Repairs scaffold (route :: rest) before places later) :
    later.disk.Stops (scaffold.path route .view) := by
  have admits := (allWritable route List.mem_cons_self isFeature).admits .view
  induction repairs with
  | done run => exact run_stops isFeature has descends noDirectory admits run
  | @repaired before middle later outcomes path obstacle disk places run _ obstructs deleted _
      induction =>
      obtain ⟨_, settles⟩ := run_settles allWritable has run
      have stops := run_stops isFeature has descends noDirectory admits run
      have hasMiddle := has.grow settles.grows
      have cleared := hasMiddle.cleared_of_delete obstructs.isFile deleted
      refine induction (cleared.hasDirectory hasMiddle) ?_
      rw [Disk.placeOf_of_directory_eq cleared.directory, cleared.kind]
      split
      · exact (Option.some_ne_none true).symm
      · exact stops.not_isDirectory descends

end Nested

end Repairing

/-- The disk of a project with a file where a shop needs a directory. -/
def hamperedDisk (name : Text) : Disk :=
  ⟨.directory [("lib", .directory [("features", .directory
    [("shop", .directory [(name, .file [])])])])], []⟩

/-- The controller of a shop comes with the repair that deletes the file in its way. -/
theorem repairs_complete_shop :
    (∀ route ∈ [shopRoute], route.isFeature = true → Writable ownScaffold route) ∧
    (hamperedDisk "controllers").HasDirectory ∧
    Apart ownScaffold [shopRoute] (hamperedDisk "controllers") ∧
    ∃ places later,
      Repairs ownScaffold [shopRoute] ⟨hamperedDisk "controllers", [], []⟩ places later ∧
      HasLeading ownScaffold [shopRoute] later.disk := by
  have writable : ∀ route ∈ [shopRoute], route.isFeature = true → Writable ownScaffold route :=
    List.forall_mem_singleton.mpr fun _ => shopRoute_writable
  have has : (hamperedDisk "controllers").HasDirectory := rfl
  have apart : Apart ownScaffold [shopRoute] (hamperedDisk "controllers") :=
    apart_of_isName (by decide) (List.forall_mem_singleton.mpr fun _ =>
      ⟨by decide, List.all_eq_true.mp (by decide)⟩) _
  have start : Workspace.disk ⟨hamperedDisk "controllers", [], []⟩ = hamperedDisk "controllers" := rfl
  obtain ⟨ends, _, repaired⟩ := repairs_complete ownScaffold writable (start ▸ has)
  obtain ⟨_, later, run⟩ := ends ⟨hamperedDisk "controllers", [], []⟩
  obtain ⟨_, _, more, last, repairs, complete⟩ := (repaired [] later (.done run)).2 apart
  exact ⟨writable, has, apart, more, last, repairs, complete⟩

/-- A file that a run could not create is there when the file in its way is deleted and the run is
repeated, whether this second run gets to its end or not. -/
def IsRepaired (scaffold : Scaffold) (routes : List Route) (before : Workspace) (path : Path) :
    Prop :=
  ∀ outcomes middle obstacle disk,
    scaffold.run routes before = .ok outcomes middle →
    (∃ outcome ∈ outcomes, outcome.reason?.isSome = true ∧ outcome.path = path) →
    middle.disk.Obstructs (middle.disk.placeOf obstacle) path →
    Disk.delete obstacle middle.disk = .ok () disk →
    (after (scaffold.run routes) { middle with disk }).disk.pathExists path = .ok true

/-- Is a file that could not be created still missing after its obstacle is deleted and the run is
repeated? -/
def staysAway (routes : List Route) (start : Disk) (obstacle path : Path) : Bool :=
  passes (run ownScaffold routes) ⟨start, [], []⟩ fun outcomes middle =>
    outcomes.any (fun outcome => outcome.reason?.isSome && outcome.path == path) &&
    decide (middle.disk.tree.kindAt? (middle.disk.placeOf obstacle) = some false) &&
    decide (obstacle.parts.foldlM (Disk.step middle.disk.tree) (middle.disk.start obstacle) =
      .ok (middle.disk.placeOf obstacle)) &&
    passes (Disk.delete obstacle) middle.disk fun _ disk =>
      decide ((after (run ownScaffold routes) { middle with disk }).disk.pathExists path =
        .ok false)

theorem not_isRepaired {routes : List Route} {start : Disk} {obstacle path : Path}
    (stays : staysAway routes start obstacle path = true)
    (sameAnchor : path.anchor = obstacle.anchor) (above : obstacle.parts <+: path.parent.parts) :
    ¬ IsRepaired ownScaffold routes ⟨start, [], []⟩ path := by
  intro repaired
  obtain ⟨outcomes, middle, first, checked⟩ := exists_ok_of_passes stays
  simp only [Bool.and_eq_true, List.any_eq_true, decide_eq_true_eq, beq_iff_eq] at checked
  obtain ⟨⟨⟨failed, isFile⟩, reached⟩, repeated⟩ := checked
  obtain ⟨_, disk, deleted, isMissing⟩ := exists_ok_of_passes repeated
  rw [Disk.start, ← sameAnchor] at reached
  have isThere := repaired outcomes middle obstacle disk first failed
    ⟨isFile, obstacle.parts, above, reached⟩ deleted
  rw [of_decide_eq_true isMissing] at isThere
  cases isThere

/-- A page whose group leads through one directory to another. -/
def windingRoute : Route :=
  ⟨"cart/../shop", "/", "CartPage", false⟩

/-- A page whose group is the view of another one. -/
def nestedRoute : Route :=
  ⟨"shop/shop_page.dart", "/", "CartPage", false⟩

/-- A page whose group has tags that match inside a tag only. -/
def taggedRoute (page : Text) : Route :=
  ⟨"x[/bold]y[bold]z", "/", page, false⟩

/-- The disk of a project with some files beside its features. -/
def featuresDisk (files : List Text) : Disk :=
  ⟨.directory [("lib", .directory [("features", .directory
    (files.map fun name => (name, .file [])))])], []⟩

theorem nestedRoute_writable : ownScaffold.Writable nestedRoute :=
  writable_of_isUnmarked ⟨.ofList (by decide), .ofList (by decide), .ofList (by decide)⟩
    (by decide +kernel)

/-- Whatever is deleted, a page has no view if its group is the view of the page before it. -/
theorem not_hasLeading_nested {places : List Place} {later : Workspace}
    (repairs : Repairs ownScaffold [shopRoute, nestedRoute] ⟨featuresDisk [], [], []⟩ places later) :
    ¬ HasLeading ownScaffold [shopRoute, nestedRoute] later.disk := by
  intro complete
  have writable : ∀ page ∈ [shopRoute, nestedRoute], page.isFeature = true →
      Writable ownScaffold page :=
    List.forall_mem_cons.mpr ⟨fun _ => shopRoute_writable,
      List.forall_mem_singleton.mpr fun _ => nestedRoute_writable⟩
  have has : (featuresDisk []).HasDirectory := rfl
  have stops := repairs.stops writable (by decide) has (by decide +kernel) (by decide +kernel)
  have below : (ownScaffold.path nestedRoute .view).IsBelow (ownScaffold.path shopRoute .view) := by
    constructor <;> decide +kernel
  obtain ⟨place, obstructs⟩ := stops.obstructs below
  exact obstructs.not_pathExists (Layer.view.isNamed_path ownScaffold.featuresDir nestedRoute)
    (complete nestedRoute (List.mem_cons_of_mem _ List.mem_cons_self) (by decide) .view (by decide))

theorem staysAway_state : staysAway [shopRoute] (hamperedDisk "models")
    (.ofText "lib/features/shop/models") (ownScaffold.path shopRoute .state) = true := by
  decide +kernel

theorem staysAway_winding : staysAway [windingRoute] (featuresDisk ["cart", "shop"])
    (.ofText "lib/features/cart") (ownScaffold.path windingRoute .view) = true := by
  decide +kernel

theorem staysAway_tagged : staysAway [taggedRoute "CartPage", taggedRoute "ShopPage"]
    (featuresDisk ["x["]) (.ofText "lib/features/x[")
      (ownScaffold.path (taggedRoute "ShopPage") .view) = true := by
  decide +kernel

/--
A file in the way is deleted, but the next run does not bring what has failed: a state whose
controller is there, a page whose path is stopped by a second file, and a page behind one that is
created but cannot be shown. A page whose group is the view of the page before it never gets a view,
whatever is deleted.
-/
theorem not_forall_repaired :
    ¬ IsRepaired ownScaffold [shopRoute] ⟨hamperedDisk "models", [], []⟩
        (ownScaffold.path shopRoute .state) ∧
    ¬ IsRepaired ownScaffold [windingRoute] ⟨featuresDisk ["cart", "shop"], [], []⟩
        (ownScaffold.path windingRoute .view) ∧
    ¬ IsRepaired ownScaffold [taggedRoute "CartPage", taggedRoute "ShopPage"]
        ⟨featuresDisk ["x["], [], []⟩ (ownScaffold.path (taggedRoute "ShopPage") .view) ∧
    ∀ places later,
      Repairs ownScaffold [shopRoute, nestedRoute] ⟨featuresDisk [], [], []⟩ places later →
        ¬ HasLeading ownScaffold [shopRoute, nestedRoute] later.disk :=
  ⟨not_isRepaired staysAway_state (by decide +kernel) (by decide +kernel),
    not_isRepaired staysAway_winding (by decide +kernel) (by decide +kernel),
    not_isRepaired staysAway_tagged (by decide +kernel) (by decide +kernel),
    fun _ _ => not_hasLeading_nested⟩

end Scaffold

end DartRoutes
