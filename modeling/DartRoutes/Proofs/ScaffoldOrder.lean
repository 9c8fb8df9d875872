import DartRoutes.Proofs.DiskImitation
import DartRoutes.Proofs.ViewOwnership

/-!
# Routes next to one another

What becomes of the files of a route's page does not depend on the other routes of a run: as no file
of one page is a file of another one or lies where another one needs a directory, each page fares as
if it was the only one. So the order of the routes does not matter, and any of them can be left out.
A run can be refused, though, at a name that is too long, as the disk answers the question for such
a file only as long as the directory of the file is missing.
-/

namespace DartRoutes

open Effect

namespace Effect

variable {ε σ α β : Type} {relation : σ → σ → Prop} {exceptional : ε → Prop}

/-- In related states an effect ends in the same way and leaves related states, unless it fails in
the second state in an exceptional way. -/
def ParallelUnless (exceptional : ε → Prop) (relation : σ → σ → Prop) (effect : EStateM ε σ α) :
    Prop :=
  ∀ first second, relation first second →
    (∃ failure later, effect second = .error failure later ∧ exceptional failure) ∨
      Agree relation (effect first) (effect second)

theorem passes_of_ok {effect : EStateM ε σ α} {state later : σ} {result : α}
    {check : α → σ → Bool} (answered : effect state = .ok result later) :
    passes effect state check = check result later := by
  rw [passes, answered]

namespace ParallelUnless

theorem pure (answer : α) :
    ParallelUnless exceptional relation (Pure.pure answer : EStateM ε σ α) :=
  fun _ _ related => .inr (.ok related)

theorem bind {first : EStateM ε σ α} {second : α → EStateM ε σ β}
    (parallelFirst : ParallelUnless exceptional relation first)
    (parallelSecond : ∀ answer, ParallelUnless exceptional relation (second answer)) :
    ParallelUnless exceptional relation (first >>= second) := by
  intro left right related
  rcases parallelFirst left right related with ⟨failure, later, failed, isExceptional⟩ | agree
  · exact .inl ⟨failure, later, bind_of_error failed, isExceptional⟩
  · rcases agree.ok_or_error with
      ⟨answer, _, _, runLeft, runRight, middle⟩ | ⟨failure, _, _, runLeft, runRight, last⟩
    · rw [bind_of_ok runLeft, bind_of_ok runRight]
      exact parallelSecond answer _ _ middle
    · rw [bind_of_error runLeft, bind_of_error runRight]
      exact .inr (.error last)

theorem mapM {items : List α} {effect : α → EStateM ε σ β}
    (parallel : ∀ item ∈ items, ParallelUnless exceptional relation (effect item)) :
    ParallelUnless exceptional relation (items.mapM effect) := by
  induction items with
  | nil => exact .pure []
  | cons item items induction =>
      rw [List.mapM_cons]
      refine (parallel item List.mem_cons_self).bind fun _ => .bind ?_ fun _ => .pure _
      exact induction fun other member => parallel other (List.mem_cons_of_mem item member)

end ParallelUnless

end Effect

namespace Scaffold

variable {scaffold : Scaffold} {foreign : Path → Prop}

/-- The disk cannot tell whether there is anything at a file of the routes, as a name is too
long. -/
def IsRefusal (scaffold : Scaffold) (routes : List Route) (failure : Failure) : Prop :=
  ∃ path, scaffold.Makes routes path ∧ failure = .file ⟨.nameTooLong, path⟩

/-- A file of a route's page. -/
def IsFileOf (scaffold : Scaffold) (route : Route) (path : Path) : Prop :=
  ∃ layer, path = scaffold.path route layer

/-- A file of the page of another one of the routes. -/
def MakesBeside (scaffold : Scaffold) (routes : List Route) (route : Route) (path : Path) : Prop :=
  ∃ other ∈ routes, other ≠ route ∧ scaffold.IsFileOf other path

/-- Feature pages whose groups and pages are named by identifiers, and of which no two share the
group and the file stem. -/
structure AreApart (routes : List Route) : Prop where
  isFeature : ∀ route ∈ routes, route.isFeature = true
  isGroup : ∀ route ∈ routes, IsGroup route.group
  isName : ∀ route ∈ routes, IsName route.page
  distinct : (routes.map fun route => (route.group, toSnake route.page)).Nodup

variable {routes : List Route}

theorem AreApart.nodup (areApart : AreApart routes) : routes.Nodup :=
  areApart.distinct.of_map

theorem AreApart.perm (areApart : AreApart routes) {others : List Route}
    (permuted : others.Perm routes) : AreApart others where
  isFeature route member := areApart.isFeature route (permuted.subset member)
  isGroup route member := areApart.isGroup route (permuted.subset member)
  isName route member := areApart.isName route (permuted.subset member)
  distinct := (permuted.map _).nodup_iff.mpr areApart.distinct

theorem AreApart.sublist (areApart : AreApart routes) {others : List Route}
    (fewer : others.Sublist routes) : AreApart others where
  isFeature route member := areApart.isFeature route (fewer.subset member)
  isGroup route member := areApart.isGroup route (fewer.subset member)
  isName route member := areApart.isName route (fewer.subset member)
  distinct := areApart.distinct.sublist (fewer.map _)

theorem AreApart.fileName_ne (areApart : AreApart routes) {route other : Route}
    (member : route ∈ routes) (otherMember : other ∈ routes) (different : other ≠ route)
    (sameGroup : other.group = route.group) (layer : Layer) :
    layer.fileName other ≠ layer.fileName route := by
  intro sameFile
  refine different (List.inj_on_of_nodup_map areApart.distinct otherMember member ?_)
  have sameStem : layerStem other.page layer.stemEnding = layerStem route.page layer.stemEnding :=
    List.append_cancel_right sameFile
  have sameWords := List.append_cancel_right (List.append_cancel_right sameStem)
  exact Prod.ext sameGroup (congrArg (· ++ ("_" : Text) ++ ("page" : Text)) sameWords)

theorem AreApart.isApart (areApart : AreApart routes)
    (descends : Disk.parentName ∉ scaffold.featuresDir.parts) {route : Route}
    (member : route ∈ routes) (layer : Layer) :
    Disk.IsApart (scaffold.MakesBeside routes route) (scaffold.path route layer) := by
  have isGroup := areApart.isGroup route member
  have isName := areApart.isName route member
  have below := layer.not_mem_path scaffold.featuresDir isGroup isName descends
  refine ⟨below, ⟨fun inside => below (List.dropLast_subset _ inside), ?_⟩, ?_, ?_⟩
  · rintro disk _ ⟨other, otherMember, _, otherLayer, rfl⟩ place crosses
    exact layer.placeOf_ne_of_crosses scaffold.featuresDir otherLayer isGroup isName
      (areApart.isGroup other otherMember) (areApart.isName other otherMember) descends crosses
  · rintro disk _ ⟨other, otherMember, different, otherLayer, rfl⟩ samePlace
    obtain ⟨rfl, sameGroup, sameFile⟩ := (otherLayer.placeOf_eq_iff scaffold.featuresDir layer
      (areApart.isGroup other otherMember) (areApart.isName other otherMember) isGroup isName
      descends disk).mp samePlace
    exact areApart.fileName_ne member otherMember different sameGroup otherLayer sameFile
  · rintro disk _ ⟨other, otherMember, _, otherLayer, rfl⟩ crosses
    exact otherLayer.placeOf_ne_of_crosses scaffold.featuresDir layer
      (areApart.isGroup other otherMember) (areApart.isName other otherMember) isGroup isName
      descends crosses rfl

theorem checkPath_parent_of_isName {route : Route} (isGroup : IsGroup route.group)
    (isName : IsName route.page) (layer : Layer)
    (refused : Disk.checkPath (scaffold.path route layer) = .error .nullCharacter) :
    Disk.checkPath (scaffold.path route layer).parent = .error .nullCharacter := by
  have stem : IsName (layerStem route.page layer.stemEnding) :=
    caseClosed_isNamePart.layerStem isName layer.isName_stemEnding
  have clean : '\x00' ∉ layer.fileName route := List.not_mem_append (stem.not_mem rfl) (by decide)
  have isChild : scaffold.path route layer =
      (scaffold.path route layer).parent.child (layer.fileName route) := by
    rw [path, layer.parent_path_eq scaffold.featuresDir isGroup isName,
      layer.path_eq scaffold.featuresDir isGroup isName, Path.child]
    simp only [List.append_assoc]
  rw [isChild] at refused
  exact Disk.checkPath_parent_of_nullCharacter clean refused

section Runs

variable [Console]

/-- A visit to a file that is apart from the foreign ones ends in the same way next to them, unless
the disk cannot tell whether the file is there. -/
theorem ensure_parallel {route : Route} {layer : Layer}
    (apart : Disk.IsApart foreign (scaffold.path route layer))
    (visible : Disk.checkPath (scaffold.path route layer) = .error .nullCharacter →
      Disk.checkPath (scaffold.path route layer).parent = .error .nullCharacter) :
    ParallelUnless (fun failure => failure = .file ⟨.nameTooLong, scaffold.path route layer⟩)
      (Action.Alike (Disk.Alongside foreign)) (scaffold.ensure route layer) := by
  intro small large alongside
  obtain ⟨smallLog, smallRun⟩ := ensure_run scaffold route layer small
  obtain ⟨largeLog, largeRun⟩ := ensure_run scaffold route layer large
  rw [smallRun, largeRun]
  cases answered : large.disk.pathExists (scaffold.path route layer) with
  | error fault =>
      obtain ⟨_, rfl⟩ := Disk.pathExists_eq_error_iff.mp answered
      exact .inl ⟨_, large, rfl, rfl⟩
  | ok isThere =>
      right
      rw [Disk.Alongside.pathExists_of_ok alongside apart answered]
      cases isThere with
      | true => exact .ok alongside
      | false =>
          dsimp only
          cases Console.fault? (scaffold.missingText route layer) with
          | some reason => exact .error alongside
          | none =>
              dsimp only
              rw [Action.writeText_run, Action.writeText_run]
              have writes := Disk.Alongside.writeDeepFile alongside apart visible
                (Action.writtenBytes (scaffold.source route layer)) answered
              rcases writes.ok_or_error with
                ⟨_, _, _, wrote, largeWrote, later⟩ | ⟨fault, _, _, refused, largeRefused, later⟩
              · rw [wrote, largeWrote]
                dsimp only
                cases Utf8.encode? (scaffold.source route layer) with
                | error fault => exact .error later
                | ok content =>
                    dsimp only
                    cases Console.fault? (scaffold.createdText route layer) with
                    | some reason => exact .error later
                    | none => exact .ok later
              · rw [refused, largeRefused]
                dsimp only
                split
                · exact .ok later
                · exact .error later

/-- What creating the files of a foreign page changes, it brings as something foreign. -/
def Extends (foreign : Path → Prop) (before after : Workspace) : Prop :=
  ∀ small, Disk.Alongside foreign small before.disk → Disk.Alongside foreign small after.disk

instance : Std.Refl (Extends foreign) where
  refl _ _ := id

instance : IsTrans Workspace (Extends foreign) where
  trans _ _ _ first second small alongside := second small (first small alongside)

theorem ensure_extends {route : Route} {layer : Layer}
    (isForeign : foreign (scaffold.path route layer)) :
    Keeps (Extends foreign) (scaffold.ensure route layer) := by
  refine ensure_keeps (fun reads workspace small alongside => ?_)
    fun workspace _ small alongside => ?_
  · have same : (after _ workspace).disk = workspace.disk := reads.keeps workspace
    rw [same]
    exact alongside
  · rw [Action.writeText_disk]
    exact alongside.writeForeign isForeign _

theorem ofRoute_extends {route : Route}
    (isForeign : ∀ layer, foreign (scaffold.path route layer)) :
    Keeps (Extends foreign) (scaffold.ofRoute route) :=
  ofRoute_keeps fun _ layer => ensure_extends (isForeign layer)

/-- The files of a page that are apart from the foreign ones fare in the same way next to them,
unless the disk cannot tell whether one of them is there. -/
theorem ofRoute_parallel {route : Route} (member : route ∈ routes) (areApart : AreApart routes)
    (apart : ∀ layer, Disk.IsApart foreign (scaffold.path route layer)) :
    ParallelUnless (scaffold.IsRefusal routes) (Action.Alike (Disk.Alongside foreign))
      (scaffold.ofRoute route) := by
  have isFeature := areApart.isFeature route member
  have visit : ∀ layer, ParallelUnless (scaffold.IsRefusal routes)
      (Action.Alike (Disk.Alongside foreign)) (scaffold.ensure route layer) := by
    intro layer small large alongside
    refine (ensure_parallel (apart layer) (checkPath_parent_of_isName
      (areApart.isGroup route member) (areApart.isName route member) layer) small large
        alongside).imp_left ?_
    rintro ⟨failure, later, failed, rfl⟩
    exact ⟨_, later, failed, _, ⟨route, member, isFeature, layer, rfl⟩, rfl⟩
  rw [ofRoute, if_pos isFeature]
  refine (ParallelUnless.mapM fun layer _ => ?_).bind fun _ => .pure _
  refine (visit layer).bind fun outcome => ?_
  dsimp only
  split
  · exact (ParallelUnless.mapM fun companion _ => visit companion).bind fun _ => .pure _
  · exact (ParallelUnless.pure []).bind fun _ => .pure _

/-- What a run answers about a route, it answers if the route is the only one, and what it leaves
differs from that by the files of the other routes only. -/
def Fares (scaffold : Scaffold) (routes : List Route) (before later : Workspace) (route : Route)
    (outcomes : List Outcome) : Prop :=
  ∃ alone, scaffold.ofRoute route before = .ok outcomes alone ∧
    Disk.Alongside (scaffold.MakesBeside routes route) alone.disk later.disk

section Apart

variable (areApart : AreApart routes) {before : Workspace} {route : Route} {chosen : List Route}
  (fewer : (route :: chosen).Sublist routes)

include areApart fewer in
/-- The first one of some routes brings nothing to the files of the others. -/
theorem AreApart.alongside_of_ok {state middle : Workspace} {outcomes : List Outcome}
    (alongside : ∀ other ∈ route :: chosen,
      Disk.Alongside (scaffold.MakesBeside routes other) before.disk state.disk)
    (first : scaffold.ofRoute route state = .ok outcomes middle) :
    ∀ other ∈ chosen,
      Disk.Alongside (scaffold.MakesBeside routes other) before.disk middle.disk := by
  intro other inside
  have different : route ≠ other := by
    rintro rfl
    exact (List.nodup_cons.mp (areApart.nodup.sublist fewer)).1 inside
  have brings : Keeps (Extends (scaffold.MakesBeside routes other)) (scaffold.ofRoute route) :=
    ofRoute_extends fun layer => ⟨route, fewer.subset List.mem_cons_self, different, layer, rfl⟩
  exact brings.of_ok first before.disk (alongside other (List.mem_cons_of_mem route inside))

include areApart fewer in
/-- The others of some routes bring nothing to the files of the first one. -/
theorem AreApart.mapM_extends :
    Keeps (Extends (scaffold.MakesBeside routes route)) (chosen.mapM scaffold.ofRoute) := by
  apply Keeps.mapM
  intro other inside
  apply ofRoute_extends
  intro layer
  refine ⟨other, fewer.subset (List.mem_cons_of_mem route inside), ?_, layer, rfl⟩
  rintro rfl
  exact (List.nodup_cons.mp (areApart.nodup.sublist fewer)).1 inside

variable (descends : Disk.parentName ∉ scaffold.featuresDir.parts)

omit fewer

include areApart descends

/-- The routes of a run that comes to its end fare as each of them does alone. -/
theorem fares_of_mapM (fewer : chosen.Sublist routes) {state later : Workspace}
    {answers : List (List Outcome)}
    (alongside : ∀ route ∈ chosen,
      Disk.Alongside (scaffold.MakesBeside routes route) before.disk state.disk)
    (run : chosen.mapM scaffold.ofRoute state = .ok answers later) :
    List.Forall₂ (Fares scaffold routes before later) chosen answers := by
  induction chosen generalizing state answers with
  | nil =>
      cases run
      exact .nil
  | cons route chosen induction =>
      have member : route ∈ routes := fewer.subset List.mem_cons_self
      rw [List.mapM_cons] at run
      obtain ⟨answer, middle, first, run⟩ := bind_eq_ok_iff.mp run
      obtain ⟨rest, _, mapped, run⟩ := bind_eq_ok_iff.mp run
      cases run
      have others := induction ((List.sublist_cons_self _ _).trans fewer)
        (areApart.alongside_of_ok fewer alongside first) mapped
      refine .cons ?_ others
      rcases ofRoute_parallel member areApart (areApart.isApart descends member) before state
        (alongside route List.mem_cons_self) with ⟨failure, last, failed, _⟩ | agree
      · rw [first] at failed
        cases failed
      · rcases agree.ok_or_error with
          ⟨_, alone, _, runAlone, again, related⟩ | ⟨_, _, _, _, failed, _⟩
        · rw [first] at again
          cases again
          exact ⟨alone, runAlone, (areApart.mapM_extends fewer).of_ok mapped alone.disk related⟩
        · rw [first] at failed
          cases failed

/-- Routes that come to their end alone come to it one after the other, unless the disk cannot tell
whether a file of theirs is there. -/
theorem mapM_ends (fewer : chosen.Sublist routes)
    (ends : ∀ route ∈ chosen, ∃ outcomes alone,
      scaffold.ofRoute route before = .ok outcomes alone)
    {state : Workspace}
    (alongside : ∀ route ∈ chosen,
      Disk.Alongside (scaffold.MakesBeside routes route) before.disk state.disk) :
    (∃ failure later, chosen.mapM scaffold.ofRoute state = .error failure later ∧
        scaffold.IsRefusal routes failure) ∨
      ∃ answers later, chosen.mapM scaffold.ofRoute state = .ok answers later := by
  induction chosen generalizing state with
  | nil => exact .inr ⟨[], state, rfl⟩
  | cons route chosen induction =>
      have member : route ∈ routes := fewer.subset List.mem_cons_self
      rw [List.mapM_cons]
      rcases ofRoute_parallel member areApart (areApart.isApart descends member) before state
        (alongside route List.mem_cons_self) with ⟨failure, last, failed, refusal⟩ | agree
      · exact .inl ⟨failure, last, bind_of_error failed, refusal⟩
      · obtain ⟨outcomes, alone, runAlone⟩ := ends route List.mem_cons_self
        rcases agree.ok_or_error with ⟨_, _, middle, _, first, _⟩ | ⟨_, _, _, failed, _, _⟩
        · rw [bind_of_ok first]
          rcases induction ((List.sublist_cons_self _ _).trans fewer)
            (fun other inside => ends other (List.mem_cons_of_mem _ inside))
            (areApart.alongside_of_ok fewer alongside first) with
            ⟨failure, last, failed, refusal⟩ | ⟨rest, last, mapped⟩
          · exact .inl ⟨failure, last, bind_of_error failed, refusal⟩
          · exact .inr ⟨_, last, bind_of_ok mapped⟩
        · rw [runAlone] at failed
          cases failed

end Apart

/-- What becomes of the files of a route's page if it is the only one. -/
def outcomesAlone (scaffold : Scaffold) (before : Workspace) (route : Route) : List Outcome :=
  match scaffold.run [route] before with
  | .ok outcomes _ => outcomes
  | .error _ _ => []

theorem run_singleton (route : Route) : scaffold.run [route] = scaffold.ofRoute route := by
  funext workspace
  rw [run, List.mapM_cons, List.mapM_nil]
  simp only [bind_run, pure_run]
  cases scaffold.ofRoute route workspace with
  | ok outcomes later => simp
  | error failure later => rfl

theorem Fares.eq_outcomesAlone {before later : Workspace} {route : Route} {outcomes : List Outcome}
    (fares : Fares scaffold routes before later route outcomes) :
    outcomes = scaffold.outcomesAlone before route := by
  obtain ⟨alone, runAlone, _⟩ := fares
  rw [outcomesAlone, run_singleton, runAlone]

theorem flatten_of_fares {before later : Workspace} {chosen : List Route}
    {answers : List (List Outcome)}
    (fares : List.Forall₂ (Fares scaffold routes before later) chosen answers) :
    answers.flatten = chosen.flatMap (scaffold.outcomesAlone before) ∧
      ∀ route ∈ chosen,
        Fares scaffold routes before later route (scaffold.outcomesAlone before route) := by
  induction fares with
  | nil => exact ⟨rfl, List.forall_mem_nil _⟩
  | cons first _ induction =>
      obtain ⟨flattened, others⟩ := induction
      have answer := first.eq_outcomesAlone
      subst answer
      rw [List.flatten_cons, List.flatMap_cons, flattened]
      exact ⟨rfl, List.forall_mem_cons.mpr ⟨first, others⟩⟩

theorem run_alongside {before later : Workspace} {outcomes : List Outcome}
    (has : before.disk.HasDirectory) (run : scaffold.run routes before = .ok outcomes later) :
    Disk.Alongside (scaffold.Makes routes) before.disk later.disk := by
  have brings : Keeps (Extends (scaffold.Makes routes)) (scaffold.run routes) :=
    run_keeps routes fun route member isFeature layer =>
      ensure_extends ⟨route, member, isFeature, layer, rfl⟩
  exact brings.of_ok run before.disk (.refl _ has)

section Run

variable (areApart : AreApart routes) (descends : Disk.parentName ∉ scaffold.featuresDir.parts)
  {before : Workspace} (has : before.disk.HasDirectory)

include areApart descends has

theorem fares_of_run {later : Workspace} {outcomes : List Outcome}
    (run : scaffold.run routes before = .ok outcomes later) :
    outcomes = routes.flatMap (scaffold.outcomesAlone before) ∧
      ∀ route ∈ routes,
        Fares scaffold routes before later route (scaffold.outcomesAlone before route) := by
  obtain ⟨answers, _, mapped, returned⟩ := bind_eq_ok_iff.mp run
  cases returned
  exact flatten_of_fares (fares_of_mapM areApart descends (List.Sublist.refl routes)
    (fun _ _ => .refl _ has) mapped)

theorem run_ends
    (ends : ∀ route ∈ routes, ∃ outcomes alone,
      scaffold.ofRoute route before = .ok outcomes alone) :
    (∃ failure later, scaffold.run routes before = .error failure later ∧
        scaffold.IsRefusal routes failure) ∨
      ∃ outcomes later, scaffold.run routes before = .ok outcomes later := by
  rcases mapM_ends areApart descends (List.Sublist.refl routes) ends (fun _ _ => .refl _ has) with
    ⟨failure, later, failed, refusal⟩ | ⟨answers, later, mapped⟩
  · exact .inl ⟨failure, later, bind_of_error failed, refusal⟩
  · exact .inr ⟨_, later, bind_of_ok mapped⟩

theorem sameFiles_of_perm {others : List Route} (permuted : others.Perm routes)
    {later otherLater : Workspace} {outcomes otherOutcomes : List Outcome}
    (run : scaffold.run routes before = .ok outcomes later)
    (otherRun : scaffold.run others before = .ok otherOutcomes otherLater) :
    Disk.SameFiles later.disk otherLater.disk := by
  have alongside := run_alongside has run
  have otherAlongside := run_alongside has otherRun
  refine ⟨otherAlongside.grows.directory.trans alongside.grows.directory.symm, fun place => ?_⟩
  by_cases made : ∃ path, scaffold.Makes routes path ∧ before.disk.placeOf path = place
  · obtain ⟨_, ⟨route, member, _, layer, rfl⟩, rfl⟩ := made
    obtain ⟨alone, runAlone, fares⟩ := (fares_of_run areApart descends has run).2 route member
    obtain ⟨_, again, otherFares⟩ :=
      (fares_of_run (areApart.perm permuted) descends has otherRun).2 route
        (permuted.mem_iff.mpr member)
    rw [runAlone] at again
    cases again
    have directory : alone.disk.directory = before.disk.directory :=
      fares.grows.directory.symm.trans alongside.grows.directory
    rw [← Disk.placeOf_of_directory_eq directory]
    rw [fares.content _ fun path isOther =>
        (areApart.isApart descends member layer).unshared alone.disk path isOther,
      otherFares.content _ fun path isOther =>
        ((areApart.perm permuted).isApart descends (permuted.mem_iff.mpr member) layer).unshared
          alone.disk path isOther]
  · have apart : ∀ path, scaffold.Makes routes path → before.disk.placeOf path ≠ place :=
      fun path makes here => made ⟨path, makes, here⟩
    rw [alongside.content place apart, otherAlongside.content place]
    rintro path ⟨route, member, rest⟩
    exact apart path ⟨route, permuted.subset member, rest⟩

end Run

/-- A run that comes to its end comes to it without one of its routes, too, and what it leaves then
differs by the files of this route only. -/
theorem run_without {front back : List Route} {route : Route}
    (areApart : AreApart (front ++ route :: back))
    (descends : Disk.parentName ∉ scaffold.featuresDir.parts) {before later : Workspace}
    (has : before.disk.HasDirectory) {outcomes : List Outcome}
    (run : scaffold.run (front ++ route :: back) before = .ok outcomes later) :
    ∃ fewer earlier, scaffold.run (front ++ back) before = .ok fewer earlier ∧
      Disk.Alongside (scaffold.IsFileOf route) earlier.disk later.disk := by
  obtain ⟨answers, _, mapped, returned⟩ := bind_eq_ok_iff.mp run
  cases returned
  rw [List.mapM_append] at mapped
  obtain ⟨firsts, middle, ranFront, mapped⟩ := bind_eq_ok_iff.mp mapped
  obtain ⟨lasts, _, ranBack, returned⟩ := bind_eq_ok_iff.mp mapped
  cases returned
  rw [List.mapM_cons] at ranBack
  obtain ⟨own, state, ranOwn, ranBack⟩ := bind_eq_ok_iff.mp ranBack
  obtain ⟨rest, _, ranBack, returned⟩ := bind_eq_ok_iff.mp ranBack
  cases returned
  have runFront : scaffold.run front before = .ok firsts.flatten middle := bind_of_ok ranFront
  have hasMiddle := has.grow (run_alongside has runFront).grows
  have brings : Keeps (Extends (scaffold.IsFileOf route)) (scaffold.ofRoute route) :=
    ofRoute_extends fun layer => ⟨layer, rfl⟩
  have alongside := brings.of_ok ranOwn middle.disk (.refl _ hasMiddle)
  have parallel : ParallelUnless (scaffold.IsRefusal (front ++ route :: back))
      (Action.Alike (Disk.Alongside (scaffold.IsFileOf route))) (back.mapM scaffold.ofRoute) := by
    apply ParallelUnless.mapM
    intro other inside
    have member : other ∈ front ++ route :: back :=
      List.mem_append_right _ (List.mem_cons_of_mem route inside)
    apply ofRoute_parallel member areApart
    intro layer
    apply (areApart.isApart descends member layer).mono
    intro path isFile
    refine ⟨route, List.mem_append_right _ List.mem_cons_self, ?_, isFile⟩
    rintro rfl
    have nodup := (List.nodup_append.mp areApart.nodup).2.1
    exact (List.nodup_cons.mp nodup).1 inside
  rcases parallel middle state alongside with ⟨failure, last, failed, _⟩ | agree
  · rw [ranBack] at failed
    cases failed
  · rcases agree.ok_or_error with
      ⟨_, earlier, _, ranFewer, again, related⟩ | ⟨_, _, _, _, failed, _⟩
    · rw [ranBack] at again
      cases again
      have ran : (front ++ back).mapM scaffold.ofRoute before = .ok (firsts ++ rest) earlier := by
        rw [List.mapM_append, bind_of_ok ranFront, bind_of_ok ranFewer]
        rfl
      exact ⟨_, earlier, bind_of_ok ran, related⟩
    · rw [ranBack] at failed
      cases failed

/--
Next to one another the pages of a run fare as each of them does alone. If the pages can be named
and written, the run comes to its end in every order of the routes. Whenever a run comes to its end,
what becomes of the files of each page is what becomes of them if it is the only one. In every other
order of the routes the run has the same outcomes and leaves the same files, unless the disk cannot
tell whether some file of a page is there. Without any one of the routes the run comes to its end,
too, and the outcomes of the other routes and all files but those of the route's page are the same.
-/
theorem run_independent (scaffold : Scaffold) {routes : List Route} {before : Workspace}
    (has : before.disk.HasDirectory) (descends : Disk.parentName ∉ scaffold.featuresDir.parts)
    (areApart : AreApart routes) :
    ((∀ route ∈ routes, scaffold.Writable route) → ∀ others, others.Perm routes →
      ∃ outcomes later, scaffold.run others before = .ok outcomes later) ∧
    ∀ outcomes later, scaffold.run routes before = .ok outcomes later →
      outcomes = routes.flatMap (scaffold.outcomesAlone before) ∧
      (∀ others, others.Perm routes →
        (∃ failure refused, scaffold.run others before = .error failure refused ∧
          scaffold.IsRefusal routes failure) ∨
        ∃ otherLater, scaffold.run others before =
            .ok (others.flatMap (scaffold.outcomesAlone before)) otherLater ∧
          Disk.SameFiles later.disk otherLater.disk) ∧
      ∀ front route back, routes = front ++ route :: back →
        ∃ earlier, scaffold.run (front ++ back) before =
            .ok ((front ++ back).flatMap (scaffold.outcomesAlone before)) earlier ∧
          ∀ place, (∀ layer, before.disk.placeOf (scaffold.path route layer) ≠ place) →
            later.disk.tree.contentAt? place = earlier.disk.tree.contentAt? place := by
  refine ⟨fun writable others permuted => ?_, fun outcomes later run => ⟨?_, ?_, ?_⟩⟩
  · exact exists_ok_of_confined (run_confined_of_writable fun route member _ =>
      writable route (permuted.subset member)) before
  · exact (fares_of_run areApart descends has run).1
  · intro others permuted
    have ends : ∀ route ∈ others, ∃ outcomes alone,
        scaffold.ofRoute route before = .ok outcomes alone := by
      intro route member
      obtain ⟨alone, runAlone, _⟩ :=
        (fares_of_run areApart descends has run).2 route (permuted.subset member)
      exact ⟨_, alone, runAlone⟩
    rcases run_ends (areApart.perm permuted) descends has ends with
      ⟨failure, refused, failed, path, ⟨route, member, makes⟩, isRefusal⟩ |
        ⟨otherOutcomes, otherLater, otherRun⟩
    · exact .inl ⟨failure, refused, failed, path, ⟨route, permuted.subset member, makes⟩, isRefusal⟩
    · have sameFiles := sameFiles_of_perm areApart descends has permuted run otherRun
      obtain ⟨rfl, _⟩ := fares_of_run (areApart.perm permuted) descends has otherRun
      exact .inr ⟨otherLater, otherRun, sameFiles⟩
  · rintro front route back rfl
    obtain ⟨fewer, earlier, runFewer, alongside⟩ := run_without areApart descends has run
    have shorter : (front ++ back).Sublist (front ++ route :: back) :=
      (List.sublist_cons_self route back).append_left front
    obtain ⟨rfl, _⟩ := fares_of_run (areApart.sublist shorter) descends has runFewer
    refine ⟨earlier, runFewer, fun place apart => alongside.content place ?_⟩
    rintro _ ⟨layer, rfl⟩
    rw [Disk.placeOf_of_directory_eq (run_alongside has runFewer).grows.directory]
    exact apart layer

end Runs

/-- Two pages of a shop fare in both orders of their routes as each of them does alone, also with a
file where their controllers need a directory. -/
theorem run_independent_shop :
    (hamperedDisk "controllers").HasDirectory ∧
    Disk.parentName ∉ ownScaffold.featuresDir.parts ∧
    AreApart [shopRoute, wordRoute] ∧
    ∃ later swapped,
      run ownScaffold [shopRoute, wordRoute] ⟨hamperedDisk "controllers", [], []⟩ =
        .ok ([shopRoute, wordRoute].flatMap
          (outcomesAlone ownScaffold ⟨hamperedDisk "controllers", [], []⟩)) later ∧
      run ownScaffold [wordRoute, shopRoute] ⟨hamperedDisk "controllers", [], []⟩ =
        .ok ([wordRoute, shopRoute].flatMap
          (outcomesAlone ownScaffold ⟨hamperedDisk "controllers", [], []⟩)) swapped ∧
      Disk.SameFiles later.disk swapped.disk := by
  have has : (hamperedDisk "controllers").HasDirectory := rfl
  have descends : Disk.parentName ∉ ownScaffold.featuresDir.parts := by decide
  have areApart : AreApart [shopRoute, wordRoute] := by
    have wellNamed : ∀ route ∈ [shopRoute, wordRoute], route.IsWellNamed :=
      List.forall_mem_cons.mpr ⟨shopRoute_wellNamed,
        List.forall_mem_singleton.mpr wordRoute_wellNamed⟩
    exact ⟨fun route member => (wellNamed route member).isFeature,
      fun route member => (wellNamed route member).isGroup,
      fun route member => (wellNamed route member).isName, by decide +kernel⟩
  have writable : ∀ route ∈ [shopRoute, wordRoute], Writable ownScaffold route :=
    List.forall_mem_cons.mpr ⟨shopRoute_writable,
      List.forall_mem_singleton.mpr wordRoute_writable⟩
  obtain ⟨ends, independent⟩ := @run_independent _ ownScaffold [shopRoute, wordRoute]
    ⟨hamperedDisk "controllers", [], []⟩ has descends areApart
  obtain ⟨outcomes, later, run⟩ := ends writable _ (.refl _)
  obtain ⟨_, _, swappedRun⟩ := ends writable [wordRoute, shopRoute] (.swap _ _ _)
  obtain ⟨rfl, permuted, _⟩ := independent outcomes later run
  rcases permuted [wordRoute, shopRoute] (.swap _ _ _) with
    ⟨_, _, failed, _⟩ | ⟨swapped, swappedAgain, sameFiles⟩
  · rw [swappedRun] at failed
    cases failed
  · exact ⟨has, descends, areApart, later, swapped, run, swappedAgain, sameFiles⟩

/-- A page of a shop whose files have names that are too long. -/
def longRoute : Route :=
  ⟨"shop", "/all", "Sh" ++ List.replicate 250 'o' ++ "pPage", false⟩

/-- Before the other page of a shop a page with too long a name is passed over. -/
theorem run_long_shop :
    passes (run ownScaffold [longRoute, shopRoute]) ⟨blankDisk, [], []⟩ (fun _ _ => true) =
      true := by
  decide +kernel

/-- Behind the other page the run does not come to its end. -/
theorem run_shop_long :
    passes (run ownScaffold [shopRoute, longRoute]) ⟨blankDisk, [], []⟩ (fun _ _ => true) =
      false := by
  decide +kernel

/-- The order of the routes can decide whether a run comes to its end. -/
theorem not_forall_run_independent :
    ¬ ∀ (scaffold : Scaffold) (routes others : List Route) (before later : Workspace)
      (outcomes : List Outcome),
      before.disk.HasDirectory → Disk.parentName ∉ scaffold.featuresDir.parts → AreApart routes →
      others.Perm routes →
      scaffold.run routes before = .ok outcomes later →
      ∃ otherOutcomes otherLater, scaffold.run others before = .ok otherOutcomes otherLater ∧
        otherOutcomes.Perm outcomes ∧ Disk.SameFiles later.disk otherLater.disk := by
  intro claim
  obtain ⟨outcomes, later, run, _⟩ := exists_ok_of_passes run_long_shop
  have areApart : AreApart [longRoute, shopRoute] :=
    ⟨by decide +kernel, by decide +kernel, by decide +kernel, by decide +kernel⟩
  obtain ⟨_, _, swapped, _⟩ := claim ownScaffold _ [shopRoute, longRoute] ⟨blankDisk, [], []⟩ later
    outcomes rfl (by decide) areApart (.swap _ _ _) run
  have refused := run_shop_long
  rw [passes_of_ok swapped] at refused
  cases refused

end Scaffold

end DartRoutes
