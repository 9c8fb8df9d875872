import DartRoutes.Proofs.ShownText
import Mathlib.Data.List.Forall2

/-!
# Visits of a scaffolding run

A run visits one file after the other. Each visit finds the disk as the visits before it have left
it, and creates its file, skips it, or reports that it cannot be created. A visit whose path the
console does not show stops the run.
-/

namespace DartRoutes

open Effect

/-- A file that is looked at: the workspace in which it is looked at, the route and the layer whose
file it is, and what has become of it. -/
structure Visit where
  before : Workspace
  route : Route
  layer : Layer
  outcome : Outcome

namespace Scaffold

variable [Console] {scaffold : Scaffold}

/-- The visits that follow one another from one workspace to another. -/
inductive Visits (scaffold : Scaffold) : Workspace → List Visit → Workspace → Prop where
  | nil (workspace : Workspace) : Visits scaffold workspace [] workspace
  | cons {before middle later : Workspace} {route : Route} {layer : Layer} {outcome : Outcome}
      {visits : List Visit} :
      scaffold.ensure route layer before = .ok outcome middle →
      Visits scaffold middle visits later →
      Visits scaffold before (⟨before, route, layer, outcome⟩ :: visits) later

/-- What a visit does to the disk. -/
inductive Ensured (scaffold : Scaffold) (route : Route) (layer : Layer) (before after : Disk) :
    Outcome.Result → Prop where
  | skipped :
      before.pathExists (scaffold.path route layer) = .ok true →
      after = before →
      Ensured scaffold route layer before after .skipped
  | created {content : Bytes} :
      before.pathExists (scaffold.path route layer) = .ok false →
      Disk.checkPath (scaffold.path route layer) = .ok () →
      Utf8.encode? (scaffold.source route layer) = .ok content →
      Disk.Rewritten (before.placeOf (scaffold.path route layer)) content before after →
      Ensured scaffold route layer before after .created
  | failed {reason : Text} :
      before.pathExists (scaffold.path route layer) = .ok false →
      Disk.SameFiles before after →
      Ensured scaffold route layer before after (.failed reason)

/-- A visit asks for its file, and writes it if the disk denies it. What it says before that and
behind it may not be shown. -/
theorem ensure_run (scaffold : Scaffold) (route : Route) (layer : Layer) (workspace : Workspace) :
    ∃ log, scaffold.ensure route layer workspace =
      match workspace.disk.pathExists (scaffold.path route layer) with
      | .error fault => .error (.file fault) workspace
      | .ok true => .ok ⟨layer, scaffold.path route layer, .skipped⟩ workspace
      | .ok false =>
          match Console.fault? (scaffold.missingText route layer) with
          | some reason => .error (.markup reason) workspace
          | none =>
              match Action.writeText (scaffold.path route layer) (scaffold.source route layer)
                workspace with
              | .ok _ later =>
                  match Console.fault? (scaffold.createdText route layer) with
                  | some reason => .error (.markup reason) { later with log }
                  | none => .ok ⟨layer, scaffold.path route layer, .created⟩ { later with log }
              | .error failure later =>
                  if failure.isFromDisk then
                    .ok ⟨layer, scaffold.path route layer, .failed failure.message⟩
                      { later with log }
                  else .error failure { later with log } := by
  rw [ensure, bind_run, Action.ask_run, Action.writeText_run]
  cases workspace.disk.pathExists (scaffold.path route layer) with
  | error fault => exact ⟨[], rfl⟩
  | ok isThere =>
      cases isThere with
      | true => exact ⟨[], rfl⟩
      | false =>
          simp only [Bool.false_eq_true, if_false, bind_run, Action.say_run]
          cases Console.fault? (scaffold.missingText route layer) with
          | some reason => exact ⟨[], rfl⟩
          | none =>
              simp only [Action.attempt_run, Action.writeText_run]
              cases Disk.writeDeepFile (scaffold.path route layer)
                (Action.writtenBytes (scaffold.source route layer)) workspace.disk with
              | error fault disk =>
                  dsimp only
                  cases (Failure.file fault).isFromDisk with
                  | true => exact ⟨_, bind_of_ok (Action.report_run _ _ _)⟩
                  | false => exact ⟨_, rfl⟩
              | ok _ disk =>
                  dsimp only
                  cases Utf8.encode? (scaffold.source route layer) with
                  | error fault => exact ⟨_, rfl⟩
                  | ok content =>
                      dsimp only
                      rw [bind_run, Action.say_run]
                      cases Console.fault? (scaffold.createdText route layer) with
                      | some reason => exact ⟨_, rfl⟩
                      | none => exact ⟨_, rfl⟩

theorem ensure_eq_ok {route : Route} {layer : Layer} {before later : Workspace}
    {outcome : Outcome} (ensured : scaffold.ensure route layer before = .ok outcome later) :
    outcome.layer = layer ∧ outcome.path = scaffold.path route layer ∧
      Ensured scaffold route layer before.disk later.disk outcome.result := by
  obtain ⟨log, run⟩ := ensure_run scaffold route layer before
  rw [run] at ensured
  split at ensured
  · cases ensured
  · rename_i found
    cases ensured
    exact ⟨rfl, rfl, .skipped found rfl⟩
  · rename_i denied
    split at ensured
    · cases ensured
    · split at ensured
      · rename_i wrote
        split at ensured
        · cases ensured
        · cases ensured
          obtain ⟨content, encoded, checked, rewritten⟩ := Action.writeText_of_ok wrote
          exact ⟨rfl, rfl, .created denied checked encoded rewritten⟩
      · rename_i refused
        split at ensured
        · rename_i isFromDisk
          have same := Action.writeText_of_error refused isFromDisk
          cases ensured
          exact ⟨rfl, rfl, .failed denied same⟩
        · cases ensured

theorem Visits.single {route : Route} {layer : Layer} {before later : Workspace}
    {outcome : Outcome} (ensured : scaffold.ensure route layer before = .ok outcome later) :
    Visits scaffold before [⟨before, route, layer, outcome⟩] later :=
  .cons ensured (.nil later)

theorem Visits.append {before middle later : Workspace} {first second : List Visit}
    (visitsFirst : Visits scaffold before first middle)
    (visitsSecond : Visits scaffold middle second later) :
    Visits scaffold before (first ++ second) later := by
  induction visitsFirst with
  | nil _ => exact visitsSecond
  | cons ensured _ induction => exact .cons ensured (induction visitsSecond)

theorem Visits.of_append {before later : Workspace} {first second : List Visit}
    (visited : Visits scaffold before (first ++ second) later) :
    ∃ middle, Visits scaffold before first middle ∧ Visits scaffold middle second later := by
  induction first generalizing before with
  | nil => exact ⟨before, .nil before, visited⟩
  | cons visit first induction =>
      cases visited with
      | cons ensured visited =>
          obtain ⟨middle, visitsFirst, visitsSecond⟩ := induction visited
          exact ⟨middle, .cons ensured visitsFirst, visitsSecond⟩

/-- The visit is one to the file of a layer of a route's page, and its outcome says so. -/
structure IsVisitTo (scaffold : Scaffold) (route : Route) (layer : Layer) (visit : Visit) :
    Prop where
  ofRoute : visit.route = route
  ofLayer : visit.layer = layer
  named : visit.outcome.layer = layer
  placed : visit.outcome.path = scaffold.path route layer

theorem IsVisitTo.ofEnsure {route : Route} {layer : Layer} {before later : Workspace}
    {outcome : Outcome} (ensured : scaffold.ensure route layer before = .ok outcome later) :
    IsVisitTo scaffold route layer ⟨before, route, layer, outcome⟩ := by
  obtain ⟨named, placed, _⟩ := ensure_eq_ok ensured
  exact ⟨rfl, rfl, named, placed⟩

/-- The visits to the files of a route's page: none unless it is a feature page, and those to the
state and the repository only if the controller is new. -/
inductive Covers (scaffold : Scaffold) (route : Route) : List Visit → Prop where
  | other : route.isFeature = false → Covers scaffold route []
  | kept {view controller : Visit} :
      route.isFeature = true →
      IsVisitTo scaffold route .view view →
      IsVisitTo scaffold route .controller controller →
      controller.outcome.isCreated = false →
      Covers scaffold route [view, controller]
  | extended {view controller state repository : Visit} :
      route.isFeature = true →
      IsVisitTo scaffold route .view view →
      IsVisitTo scaffold route .controller controller →
      controller.outcome.isCreated = true →
      IsVisitTo scaffold route .state state →
      IsVisitTo scaffold route .repository repository →
      Covers scaffold route [view, controller, state, repository]

/-- Effects on one item after the other make the visits that each of them makes. -/
theorem visits_of_mapM {α β : Type} (effect : α → Action β) (reported : β → List Outcome)
    (covers : α → List Visit → Prop)
    (each : ∀ item before answer later, effect item before = .ok answer later →
      ∃ visits, Visits scaffold before visits later ∧
        visits.map Visit.outcome = reported answer ∧ covers item visits)
    {items : List α} {before later : Workspace} {answers : List β}
    (run : items.mapM effect before = .ok answers later) :
    ∃ blocks, Visits scaffold before blocks.flatten later ∧
      blocks.flatten.map Visit.outcome = answers.flatMap reported ∧
      List.Forall₂ covers items blocks := by
  induction items generalizing before answers with
  | nil =>
      cases run
      exact ⟨[], .nil _, rfl, .nil⟩
  | cons item items induction =>
      rw [List.mapM_cons] at run
      obtain ⟨answer, middle, first, run⟩ := bind_eq_ok_iff.mp run
      obtain ⟨others, _, rest, run⟩ := bind_eq_ok_iff.mp run
      cases run
      obtain ⟨visits, visitsFirst, reports, shape⟩ := each item before answer middle first
      obtain ⟨blocks, visitsRest, reportsRest, shapes⟩ := induction rest
      refine ⟨visits :: blocks, visitsFirst.append visitsRest, ?_, .cons shape shapes⟩
      rw [List.flatten_cons, List.map_append, reports, reportsRest, List.flatMap_cons]

/-- The visit to a file that comes with another one. -/
def CoversCompanion (scaffold : Scaffold) (route : Route) (layer : Layer) (visits : List Visit) :
    Prop :=
  ∃ visit, visits = [visit] ∧ IsVisitTo scaffold route layer visit

/-- The visits to a file and to those that come with it. -/
def CoversLayer (scaffold : Scaffold) (route : Route) (layer : Layer) (visits : List Visit) :
    Prop :=
  ∃ visit blocks, visits = visit :: blocks.flatten ∧ IsVisitTo scaffold route layer visit ∧
    List.Forall₂ (CoversCompanion scaffold route)
      (if visit.outcome.isCreated then layer.companions else []) blocks

theorem ensureAll_visits {route : Route} {layer : Layer} {before later : Workspace}
    {outcomes : List Outcome}
    (run : scaffold.ensureAll route layer before = .ok outcomes later) :
    ∃ visits, Visits scaffold before visits later ∧ visits.map Visit.outcome = outcomes ∧
      CoversLayer scaffold route layer visits := by
  obtain ⟨outcome, middle, ensured, run⟩ := bind_eq_ok_iff.mp run
  have visited := IsVisitTo.ofEnsure ensured
  dsimp only at run
  split at run
  · rename_i isCreated
    obtain ⟨companions, _, mapped, returned⟩ := bind_eq_ok_iff.mp run
    cases returned
    obtain ⟨blocks, visits, reports, shapes⟩ :=
      visits_of_mapM (scaffold.ensure route) (fun outcome => [outcome])
        (CoversCompanion scaffold route)
        (fun _ _ _ _ ensured => ⟨_, .single ensured, rfl, _, rfl, .ofEnsure ensured⟩) mapped
    refine ⟨_, .cons ensured visits, ?_, _, blocks, rfl, visited, ?_⟩
    · rw [List.map_cons, reports, List.flatMap_singleton']
    · rw [if_pos isCreated]
      exact shapes
  · rename_i isOld
    cases run
    refine ⟨_, .single ensured, rfl, _, [], rfl, visited, ?_⟩
    rw [if_neg isOld]
    exact .nil

omit [Console] in
/-- The visits to the view and to the controller, with what comes with it, cover a feature page. -/
theorem CoversLayer.covers {route : Route} {first second : List Visit}
    (isFeature : route.isFeature = true) (shapeView : CoversLayer scaffold route .view first)
    (shapeController : CoversLayer scaffold route .controller second) :
    Covers scaffold route (first ++ second) := by
  obtain ⟨view, viewBlocks, rfl, visitedView, noCompanions⟩ := shapeView
  have isEmpty : viewBlocks = [] := by
    rw [show Layer.view.companions = [] from rfl, ite_self] at noCompanions
    exact List.forall₂_nil_left_iff.mp noCompanions
  subst isEmpty
  obtain ⟨controller, blocks, rfl, visited, companions⟩ := shapeController
  cases isCreated : controller.outcome.isCreated with
  | false =>
      rw [isCreated] at companions
      cases companions
      exact .kept isFeature visitedView visited isCreated
  | true =>
      rw [isCreated, if_pos rfl, Layer.companions] at companions
      obtain _ | ⟨⟨state, rfl, visitedState⟩, _ | ⟨⟨repository, rfl, visitedRepository⟩, ⟨⟩⟩⟩ :=
        companions
      exact .extended isFeature visitedView visited isCreated visitedState visitedRepository

theorem ofRoute_visits {route : Route} {before later : Workspace} {outcomes : List Outcome}
    (run : scaffold.ofRoute route before = .ok outcomes later) :
    ∃ visits, Visits scaffold before visits later ∧ visits.map Visit.outcome = outcomes ∧
      Covers scaffold route visits := by
  rw [ofRoute] at run
  split at run
  · rename_i isFeature
    obtain ⟨answers, _, mapped, returned⟩ := bind_eq_ok_iff.mp run
    cases returned
    obtain ⟨blocks, visits, reports, shapes⟩ :=
      visits_of_mapM (scaffold.ensureAll route) id (CoversLayer scaffold route)
        (fun _ _ _ _ => ensureAll_visits) mapped
    rw [List.flatMap_id] at reports
    refine ⟨_, visits, reports, ?_⟩
    obtain _ | ⟨shapeView, _ | ⟨shapeController, ⟨⟩⟩⟩ := shapes
    rw [List.flatten_cons, List.flatten_cons, List.flatten_nil, List.append_nil]
    exact shapeView.covers isFeature shapeController
  · rename_i isOther
    cases run
    exact ⟨[], .nil before, rfl, .other (Bool.eq_false_iff.mpr isOther)⟩

/-- The outcomes of a run are those of its visits, which cover one route after the other. -/
theorem run_visits {routes : List Route} {before later : Workspace} {outcomes : List Outcome}
    (run : scaffold.run routes before = .ok outcomes later) :
    ∃ blocks, Visits scaffold before blocks.flatten later ∧
      blocks.flatten.map Visit.outcome = outcomes ∧
      List.Forall₂ (Covers scaffold) routes blocks := by
  obtain ⟨answers, _, mapped, returned⟩ := bind_eq_ok_iff.mp run
  cases returned
  rw [← List.flatMap_id]
  exact visits_of_mapM scaffold.ofRoute id (Covers scaffold) (fun _ _ _ _ => ofRoute_visits) mapped

theorem ensure_confined {allowed : Failure → Prop} {route : Route} {layer : Layer}
    (refusals : ∀ disk fault, Disk.pathExists disk (scaffold.path route layer) = .error fault →
      allowed (.file fault))
    (writing : Confined (fun failure => failure.isFromDisk ∨ allowed failure)
      (Action.writeText (scaffold.path route layer) (scaffold.source route layer)))
    (saying : ∀ reason, Console.fault? (scaffold.missingText route layer) = some reason ∨
      Console.fault? (scaffold.createdText route layer) = some reason →
        allowed (.markup reason)) :
    Confined allowed (scaffold.ensure route layer) := by
  refine (Action.ask_confined refusals).bind fun isThere => ?_
  split
  · exact .pure _
  · refine (Action.say_confined fun reason refused => saying reason (.inl refused)).bind
      fun _ => ?_
    refine (Action.attempt_confined writing).bind fun result => ?_
    cases result with
    | ok _ =>
        refine (Action.say_confined fun reason refused => ?_).bind fun _ => .pure _
        exact saying reason (.inr refused)
    | error failure => exact (Action.report_confined _ _).bind fun _ => .pure _

theorem run_confined {allowed : Failure → Prop} {routes : List Route}
    (confined : ∀ route ∈ routes, route.isFeature → ∀ layer,
      Confined allowed (scaffold.ensure route layer)) :
    Confined allowed (scaffold.run routes) := by
  refine (Confined.mapM fun route member => ?_).bind fun _ => .pure _
  rw [ofRoute]
  split
  · rename_i isFeature
    have visit := confined route member isFeature
    refine (Confined.mapM fun layer _ => ?_).bind fun _ => .pure _
    refine (visit layer).bind fun outcome => ?_
    dsimp only
    split
    · exact (Confined.mapM fun companion _ => visit companion).bind fun _ => .pure _
    · exact (Confined.pure []).bind fun _ => .pure _
  · exact .pure []

section Keeping

variable {relation : Workspace → Workspace → Prop} [Std.Refl relation]
  [IsTrans Workspace relation]

/-- What the visits to the files of a feature page keep, creating its missing files keeps. -/
theorem ofRoute_keeps {route : Route}
    (keeps : route.isFeature → ∀ layer, Keeps relation (scaffold.ensure route layer)) :
    Keeps relation (scaffold.ofRoute route) := by
  rw [ofRoute]
  split
  · rename_i isFeature
    have visit := keeps isFeature
    refine (Keeps.mapM fun layer _ => ?_).bind fun _ => .pure _
    refine (visit layer).bind fun outcome => ?_
    dsimp only
    split
    · exact (Keeps.mapM fun companion _ => visit companion).bind fun _ => .pure _
    · exact (Keeps.pure []).bind fun _ => .pure _
  · exact .pure []

/-- What the visits to the files of all feature pages keep, a scaffolding run keeps. -/
theorem run_keeps (routes : List Route)
    (keeps : ∀ route ∈ routes, route.isFeature → ∀ layer,
      Keeps relation (scaffold.ensure route layer)) :
    Keeps relation (scaffold.run routes) :=
  (Keeps.mapM fun route member => ofRoute_keeps (keeps route member)).bind fun _ => .pure _

/-- A visit keeps what reading keeps, and what writing its file keeps where the disk denies it. -/
theorem ensure_keeps {route : Route} {layer : Layer}
    (reads : ∀ {α : Type} {action : Action α}, action.Reads → Keeps relation action)
    (writes : ∀ workspace,
      workspace.disk.pathExists (scaffold.path route layer) = .ok false →
        relation workspace (after
          (Action.writeText (scaffold.path route layer) (scaffold.source route layer)) workspace)) :
    Keeps relation (scaffold.ensure route layer) := by
  intro workspace
  refine after_bind (reads (Action.ask_reads _) workspace) fun isThere middle asked => ?_
  cases isThere with
  | true => exact Keeps.pure _ middle
  | false =>
      have denied : middle.disk.pathExists (scaffold.path route layer) = .ok false := by
        rw [Action.ask_run] at asked
        split at asked
        · rename_i answered
          cases asked
          exact answered
        · cases asked
      refine after_bind (reads (Action.say_reads _) middle) fun _ said shown => ?_
      have same : said.disk = middle.disk := (Action.say_reads _).keeps.of_ok shown
      rw [← same] at denied
      refine after_bind ?_ fun result written _ => ?_
      · rw [Action.attempt_after]
        exact writes _ denied
      · cases result with
        | ok _ => exact (reads (Action.say_reads _)).bind (fun _ => .pure _) written
        | error failure => exact (reads (Action.report_reads _ _)).bind (fun _ => .pure _) written

end Keeping

end Scaffold

end DartRoutes
