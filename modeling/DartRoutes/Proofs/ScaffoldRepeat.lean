import DartRoutes.Proofs.DiskRefusal
import DartRoutes.Proofs.ScaffoldVisit

/-!
# Visiting feature files again

A visit settles its file: from then on there is something at its path, or no file can be written
there. Visits to settled files leave the disk alone and create nothing. They come to an end exactly
if the disk says of every path whether there is anything.
-/

namespace DartRoutes

open Effect

namespace Disk

/-- The disk says whether there is anything at a path. -/
def Answers (disk : Disk) (path : Path) : Prop :=
  ∃ isThere, disk.pathExists path = .ok isThere

/-- The disk says of every file that a feature page is checked for whether it is there. -/
def AnswersLeading (disk : Disk) (featuresDir : Path) (routes : List Route) : Prop :=
  ∀ route ∈ routes, route.isFeature = true → ∀ layer ∈ Layer.leading,
    disk.Answers (layer.path featuresDir route)

theorem Barred.writeText {path : Path} (text : Text) {workspace : Workspace}
    (barred : Barred workspace.disk path) :
    ∃ fault, Action.writeText path text workspace = .error (.file fault) workspace ∧
      fault.isFromDisk = true := by
  obtain ⟨fault, failed, ofDisk⟩ := barred.writeDeepFile (Action.writtenBytes text)
  refine ⟨fault, ?_, ofDisk.isFromDisk⟩
  rw [Action.writeText_run, failed]

theorem Holds.writeText {path : Path} {text : Text} {content : Bytes} {workspace : Workspace}
    (encoded : Utf8.encode? text = .ok content) (holds : Holds workspace.disk path content) :
    Action.writeText path text workspace = .ok () workspace := by
  rw [Action.writeText_run, Action.writtenBytes_of_encode? encoded, holds.writeDeepFile, encoded]

end Disk

/-- The disk that is left depends on the file that is written only. -/
theorem Action.writeText_disk (path : Path) (text : Text) (workspace : Workspace) :
    (after (writeText path text) workspace).disk =
      after (Disk.writeDeepFile path (writtenBytes text)) workspace.disk := by
  rw [after, after, writeText_run]
  cases Disk.writeDeepFile path (writtenBytes text) workspace.disk with
  | error fault disk => rfl
  | ok _ disk => cases Utf8.encode? text <;> rfl

theorem Action.writeText_grows (path : Path) (text : Text) (workspace : Workspace) :
    Disk.Grows workspace.disk (after (writeText path text) workspace).disk := by
  rw [writeText_disk]
  exact Disk.writeDeepFile_grows path _ workspace.disk

namespace Scaffold

variable {scaffold : Scaffold}

theorem exists_visit_of_covers {route : Route} {visits : List Visit} {layer : Layer}
    (covers : Covers scaffold route visits) (isFeature : route.isFeature = true)
    (leads : layer ∈ Layer.leading) : ∃ visit ∈ visits, IsVisitTo scaffold route layer visit := by
  have isLeading : layer = .view ∨ layer = .controller := by simpa [Layer.leading] using leads
  cases covers with
  | other isOther =>
      rw [isFeature] at isOther
      cases isOther
  | @kept view controller _ visitView visitController _ =>
      obtain rfl | rfl := isLeading
      · exact ⟨view, by simp, visitView⟩
      · exact ⟨controller, by simp, visitController⟩
  | @extended view controller _ _ _ visitView visitController _ _ _ =>
      obtain rfl | rfl := isLeading
      · exact ⟨view, by simp, visitView⟩
      · exact ⟨controller, by simp, visitController⟩

theorem exists_visit_of_mem {routes : List Route} {blocks : List (List Visit)} {route : Route}
    {layer : Layer} (covers : List.Forall₂ (Covers scaffold) routes blocks)
    (member : route ∈ routes) (isFeature : route.isFeature = true)
    (leads : layer ∈ Layer.leading) :
    ∃ visit ∈ blocks.flatten, IsVisitTo scaffold route layer visit := by
  induction covers with
  | nil => cases member
  | cons coversFirst _ induction =>
      rw [List.flatten_cons]
      cases member with
      | head =>
          obtain ⟨visit, inside, visits⟩ := exists_visit_of_covers coversFirst isFeature leads
          exact ⟨visit, List.mem_append_left _ inside, visits⟩
      | tail _ member =>
          obtain ⟨visit, inside, visits⟩ := induction member
          exact ⟨visit, List.mem_append_right _ inside, visits⟩

theorem forall_mem_flatten_isOld {blocks : List (List Outcome)}
    (areOld : ∀ outcomes ∈ blocks, ∀ outcome ∈ outcomes, outcome.isCreated = false) :
    ∀ outcome ∈ blocks.flatten, outcome.isCreated = false := by
  intro outcome member
  obtain ⟨outcomes, block, inside⟩ := List.mem_flatten.mp member
  exact areOld outcomes block outcome inside

/-- The disk has been left alone, and refuses to answer although the answer was needed. -/
def Refuses (disk : Disk) (isPossible : Prop) (failure : Failure) (later : Workspace) : Prop :=
  later.disk = disk ∧ (∃ fault, failure = .file fault) ∧ ¬ isPossible

variable [Console]

/-- There is something at the path of a file, or none can be written there, and the console shows
that it is missing. -/
inductive IsSettled (scaffold : Scaffold) (disk : Disk) (route : Route) (layer : Layer) : Prop where
  | found : disk.pathExists (scaffold.path route layer) = .ok true →
      IsSettled scaffold disk route layer
  | barred : disk.Barred (scaffold.path route layer) →
      Console.fault? (scaffold.missingText route layer) = none →
      IsSettled scaffold disk route layer

/-- The files that feature pages are checked for are settled. -/
def SettledLeading (scaffold : Scaffold) (disk : Disk) (routes : List Route) : Prop :=
  ∀ route ∈ routes, route.isFeature = true → ∀ layer ∈ Layer.leading,
    scaffold.IsSettled disk route layer

theorem IsSettled.settled {disk : Disk} {route : Route} {layer : Layer}
    (settled : scaffold.IsSettled disk route layer) :
    disk.Settled (scaffold.path route layer) := by
  cases settled with
  | found found => exact .inl found
  | barred barred _ => exact .inr barred

theorem IsSettled.grow {before after : Disk} {route : Route} {layer : Layer}
    (settled : scaffold.IsSettled before route layer) (grows : Disk.Grows before after) :
    scaffold.IsSettled after route layer := by
  cases settled with
  | found found => exact .found (grows.pathExists found)
  | barred barred shown => exact .barred (barred.grow grows) shown

theorem ensure_settles {route : Route} {layer : Layer} {before later : Workspace}
    {outcome : Outcome} (grounded : before.disk.IsGrounded (scaffold.path route layer))
    (ensured : scaffold.ensure route layer before = .ok outcome later) :
    Disk.Grows before.disk later.disk ∧ scaffold.IsSettled later.disk route layer := by
  obtain ⟨log, run⟩ := ensure_run scaffold route layer before
  rw [run] at ensured
  split at ensured
  · cases ensured
  · rename_i found
    cases ensured
    exact ⟨Std.Refl.refl _, .found found⟩
  · split at ensured
    · cases ensured
    · rename_i shown
      split at ensured
      · rename_i wrote
        split at ensured
        · cases ensured
        · cases ensured
          obtain ⟨content, _, written⟩ := Action.writeText_eq_ok wrote
          exact ⟨(Disk.writeDeepFile_grows _ _).of_ok written,
            .found (Disk.holds_of_writeDeepFile written).pathExists⟩
      · rename_i refused
        split at ensured
        · rename_i isFromDisk
          obtain ⟨fault, failed, ofDisk⟩ := Action.writeText_eq_refused refused isFromDisk
          cases ensured
          exact ⟨(Disk.writeDeepFile_grows _ _).of_error failed,
            .barred (Disk.barred_of_writeDeepFile grounded failed ofDisk) shown⟩
        · cases ensured

/-- Visits settle their files, and no visit behind them unsettles one. -/
theorem Visits.settles {before later : Workspace} {visits : List Visit}
    (visited : Visits scaffold before visits later)
    (grounded : ∀ route layer, before.disk.IsGrounded (scaffold.path route layer)) :
    Disk.Grows before.disk later.disk ∧
      ∀ visit ∈ visits, scaffold.IsSettled later.disk visit.route visit.layer := by
  induction visited with
  | nil workspace => exact ⟨Std.Refl.refl _, List.forall_mem_nil _⟩
  | cons ensured _ induction =>
      obtain ⟨grows, settled⟩ := ensure_settles (grounded _ _) ensured
      obtain ⟨growsRest, settledRest⟩ :=
        induction fun route layer => (grounded route layer).grow grows
      exact ⟨IsTrans.trans _ _ _ grows growsRest,
        List.forall_mem_cons.mpr ⟨settled.grow growsRest, settledRest⟩⟩

/-- A run that comes to its end has settled the leading files of all feature pages. -/
theorem Visits.settledLeading {before later : Workspace} {routes : List Route}
    {blocks : List (List Visit)} (visited : Visits scaffold before blocks.flatten later)
    (covers : List.Forall₂ (Covers scaffold) routes blocks)
    (grounded : ∀ route layer, before.disk.IsGrounded (scaffold.path route layer)) :
    scaffold.SettledLeading later.disk routes := by
  intro route member isFeature layer leads
  obtain ⟨visit, inside, visits⟩ := exists_visit_of_mem covers member isFeature leads
  have settled := (visited.settles grounded).2 visit inside
  rw [visits.ofRoute, visits.ofLayer] at settled
  exact settled

section Again

variable {disk : Disk} {isPossible : Prop} {route : Route} {workspace : Workspace}

/-- A visit to a settled file leaves the disk alone and creates nothing, if the disk says whether
the file is there. -/
theorem ensure_again {layer : Layer} (same : workspace.disk = disk)
    (settled : scaffold.IsSettled disk route layer)
    (needed : isPossible → disk.Answers (scaffold.path route layer)) :
    Meets
      (fun outcome later => outcome.isCreated = false ∧
        disk.Answers (scaffold.path route layer) ∧ later.disk = disk)
      (Refuses disk isPossible) (scaffold.ensure route layer workspace) := by
  subst same
  obtain ⟨log, run⟩ := ensure_run scaffold route layer workspace
  rw [run]
  split
  · rename_i fault refused
    refine ⟨rfl, ⟨fault, rfl⟩, fun possible => ?_⟩
    obtain ⟨isThere, answered⟩ := needed possible
    rw [refused] at answered
    cases answered
  · rename_i found
    exact ⟨rfl, ⟨true, found⟩, rfl⟩
  · rename_i denied
    cases settled with
    | found found =>
      rw [found] at denied
      cases denied
    | barred barred shown =>
      obtain ⟨fault, failed, isFromDisk⟩ := barred.writeText (scaffold.source route layer)
      have expected : (Failure.file fault).isFromDisk = true := isFromDisk
      rw [shown, failed]
      dsimp only
      rw [if_pos expected]
      exact ⟨rfl, ⟨false, denied⟩, rfl⟩

theorem ensureAll_again {layer : Layer} (same : workspace.disk = disk)
    (settled : scaffold.IsSettled disk route layer)
    (needed : isPossible → disk.Answers (scaffold.path route layer)) :
    Meets
      (fun outcomes later => (∀ outcome ∈ outcomes, outcome.isCreated = false) ∧
        disk.Answers (scaffold.path route layer) ∧ later.disk = disk)
      (Refuses disk isPossible) (scaffold.ensureAll route layer workspace) := by
  refine (ensure_again same settled needed).bind fun outcome middle visited => ?_
  obtain ⟨isOld, answered, unchanged⟩ := visited
  rw [isOld]
  exact ⟨List.forall_mem_singleton.mpr isOld, answered, unchanged⟩

theorem ofRoute_again (same : workspace.disk = disk)
    (settled : route.isFeature = true → ∀ layer ∈ Layer.leading,
      scaffold.IsSettled disk route layer)
    (needed : isPossible → route.isFeature = true → ∀ layer ∈ Layer.leading,
      disk.Answers (scaffold.path route layer)) :
    Meets
      (fun outcomes later => (∀ outcome ∈ outcomes, outcome.isCreated = false) ∧
        (route.isFeature = true → ∀ layer ∈ Layer.leading,
          disk.Answers (scaffold.path route layer)) ∧ later.disk = disk)
      (Refuses disk isPossible) (scaffold.ofRoute route workspace) := by
  rw [ofRoute]
  cases isFeature : route.isFeature with
  | false => exact ⟨List.forall_mem_nil _, fun isOf => absurd isOf Bool.false_ne_true, same⟩
  | true =>
      have each := fun layer leads (workspace : Workspace) (same : workspace.disk = disk) =>
        ensureAll_again same (settled isFeature layer leads)
          fun possible => needed possible isFeature layer leads
      refine (Meets.mapM each same).bind fun blocks later visited => ?_
      obtain ⟨areOld, answered, unchanged⟩ := visited
      exact ⟨forall_mem_flatten_isOld areOld, fun _ => answered, unchanged⟩

/-- A run over settled files leaves the disk alone and creates nothing; it comes to its end exactly
if the disk says of every file whether it is there. -/
theorem run_again {routes : List Route} (same : workspace.disk = disk)
    (settled : scaffold.SettledLeading disk routes) :
    Meets
      (fun outcomes later => (∀ outcome ∈ outcomes, outcome.isCreated = false) ∧
        disk.AnswersLeading scaffold.featuresDir routes ∧ later.disk = disk)
      (Refuses disk (disk.AnswersLeading scaffold.featuresDir routes))
      (scaffold.run routes workspace) := by
  have each : ∀ route ∈ routes, ∀ workspace : Workspace, workspace.disk = disk →
      Meets _ (Refuses disk (disk.AnswersLeading scaffold.featuresDir routes))
        (scaffold.ofRoute route workspace) := fun route member _ same =>
    ofRoute_again same (settled route member) fun possible => possible route member
  refine (Meets.mapM each same).bind fun blocks later visited => ?_
  obtain ⟨areOld, answered, unchanged⟩ := visited
  exact ⟨forall_mem_flatten_isOld areOld, answered, unchanged⟩

end Again

end Scaffold

end DartRoutes
