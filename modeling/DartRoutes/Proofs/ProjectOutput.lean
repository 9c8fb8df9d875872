import DartRoutes.Proofs.ProjectInput

/-!
# Outputs that are there to stay

A stage that has come to an end has put its output: the file holds the text, or the disk refuses it
for good. Putting the same output again changes nothing and ends in the same way. The constants of
the resource files are written apart from these files and from the router.
-/

namespace DartRoutes

open Effect

namespace Disk

/-- What has become of a text that was to be written: the file holds it, or there can never be such
a file. -/
inductive IsPut (disk : Disk) (path : Path) (text : Text) : Bool → Prop where
  | written {content : Bytes} :
      Utf8.encode? text = .ok content →
      Holds disk path content →
      IsPut disk path text true
  | barred : Barred disk path → IsPut disk path text false

theorem IsPut.grow {before after : Disk} {path : Path} {text : Text} {isWritten : Bool}
    (put : IsPut before path text isWritten) (grows : Grows before after)
    (same : after.tree.contentAt? (before.placeOf path) =
      before.tree.contentAt? (before.placeOf path)) : IsPut after path text isWritten := by
  cases put with
  | written encoded holds => exact .written encoded (holds.grow grows same)
  | barred barred => exact .barred (barred.grow grows)

/-- Nothing has changed at a place but if it is above or below that of a path. -/
structure Beside (path : Path) (other : Place) (before after : Disk) : Prop where
  directory : after.directory = before.directory
  same : ¬ before.placeOf path <+: other → ¬ other <+: before.placeOf path →
    after.tree.at? other = before.tree.at? other

instance (path : Path) (other : Place) : Std.Refl (Beside path other) where
  refl _ := ⟨rfl, fun _ _ => rfl⟩

instance (path : Path) (other : Place) : IsTrans Disk (Beside path other) where
  trans before middle after first second := by
    refine ⟨second.directory.trans first.directory, fun above below => ?_⟩
    have samePlace := placeOf_of_directory_eq first.directory path
    rw [← samePlace] at above below
    rw [second.same above below]
    rw [samePlace] at above below
    exact first.same above below

theorem makeDirectory_beside (path : Path) (other : Place) :
    Keeps (Beside path other) (makeDirectory path) := by
  intro disk
  rw [after, makeDirectory_run]
  cases targeted : disk.target path with
  | error kind => exact Std.Refl.refl disk
  | ok place? =>
      cases place? with
      | none => exact Std.Refl.refl disk
      | some place =>
          obtain ⟨rfl, _⟩ := target_eq_some targeted
          cases isThere : (disk.tree.at? (disk.placeOf path)).isSome with
          | true => simpa [isThere] using Std.Refl.refl (r := Beside path other) disk
          | false =>
              simp only [isThere, Bool.false_eq_true, if_false]
              exact ⟨rfl, FileTree.at?_put_of_apart _ _⟩

theorem writeFile_beside (path : Path) (content : Bytes) (other : Place) :
    Keeps (Beside path other) (writeFile path content) := by
  intro disk
  rw [after, writeFile_run]
  cases targeted : disk.target path with
  | error kind => exact Std.Refl.refl disk
  | ok place? =>
      cases place? with
      | none => exact Std.Refl.refl disk
      | some place =>
          obtain ⟨rfl, _⟩ := target_eq_some targeted
          cases blocked : (disk.tree.at? (disk.placeOf path)).any FileTree.isDirectory with
          | true => simpa [blocked] using Std.Refl.refl (r := Beside path other) disk
          | false =>
              simp only [blocked, Bool.false_eq_true, if_false]
              exact ⟨rfl, FileTree.at?_put_of_apart _ _⟩

theorem Beside.of_child {path : Path} {name : Text} {other : Place} {before after : Disk}
    (beside : Beside (path.child name) other before after) (isName : name ≠ parentName) :
    Beside path other before after := by
  refine ⟨beside.directory, fun above below => ?_⟩
  have place : before.placeOf (path.child name) = before.placeOf path ++ [name] := by
    rw [placeOf_child, enter, if_neg isName]
  refine beside.same ?_ ?_
  · rw [place]
    exact fun shorter => above ((List.prefix_append _ _).trans shorter)
  · rw [place, List.prefix_concat_iff]
    rintro (rfl | shorter)
    · exact above (List.prefix_append _ _)
    · exact below shorter

theorem makeDirectories_of_isDirectory_parent {disk : Disk} {path : Path}
    (inside : disk.isDirectory path.parent = .ok true) :
    makeDirectories path disk = attemptDirectory path disk := by
  rw [makeDirectories]
  cases path.parts.length with
  | zero => rfl
  | succ depth =>
      cases tried : makeDirectory path disk with
      | ok _ middle =>
          rw [makeDirectoriesWithin, attemptDirectory, tryCatch_of_ok tried, tryCatch_of_ok tried]
      | error fault middle =>
          obtain ⟨rfl, missing, _⟩ := makeDirectory_of_missing tried
          rw [makeDirectoriesWithin, attemptDirectory, tryCatch_of_error tried,
            tryCatch_of_error tried, if_neg]
          exact fun isMissing => target_of_isDirectory_parent inside (missing isMissing)

/-- Writing a file into a new directory changes nothing beside this directory. -/
theorem writeDeepFile_beside {disk : Disk} {path : Path} {name : Text} (content : Bytes)
    (other : Place) (inside : disk.isDirectory path.parent = .ok true)
    (isName : name ≠ parentName) :
    Beside path other disk (after (writeDeepFile (path.child name) content) disk) := by
  have makes : Keeps (Beside path other) (attemptDirectory path) :=
    (makeDirectory_beside path other).tryCatch (unlessDirectory_keeps path)
  refine after_bind ?_ fun _ middle _ => ?_
  · rw [Path.parent_child, after, makeDirectories_of_isDirectory_parent inside]
    exact makes disk
  · exact (writeFile_beside _ content other middle).of_child isName

end Disk

namespace Work

variable {path : Path} {text : Text} {isWritten : Bool}

theorem Puts.isPut {before after : Session} (puts : Puts path text before after isWritten)
    (grounded : before.workspace.disk.IsGrounded path) :
    after.workspace.disk.IsPut path text isWritten := by
  cases puts with
  | written wrote sameDisk _ =>
      obtain ⟨content, encoded, written⟩ := Action.writeText_eq_ok wrote
      rw [sameDisk]
      exact .written encoded (Disk.holds_of_writeDeepFile written)
  | refused refused isFromDisk sameDisk _ =>
      obtain ⟨fault, failed, ofDisk⟩ := Action.writeText_eq_refused refused isFromDisk
      rw [sameDisk]
      exact .barred (Disk.barred_of_writeDeepFile grounded failed ofDisk)

variable [Console]

/-- An output that is there is written again, and nothing changes. -/
theorem writeOutput_of_written {stage : Stage} {session : Session}
    (put : session.workspace.disk.IsPut path text true) :
    writeOutput stage path text session = .ok () session := by
  cases put with
  | written encoded holds => rw [writeOutput_run, holds.writeText encoded]

theorem writeOutput_of_barred {stage : Stage} {session : Session}
    (put : session.workspace.disk.IsPut path text false) :
    ∃ reason log,
      writeOutput stage path text session = .error (.stage stage reason) (session.showing log) := by
  cases put with
  | barred barred =>
      obtain ⟨fault, failed, isFromDisk⟩ := barred.writeText text
      have expected : (Failure.file fault).isFromDisk = true := isFromDisk
      rw [writeOutput_run, failed]
      dsimp only
      rw [if_pos expected]
      exact ⟨_, _, rfl⟩

end Work

namespace Settings.LiesAt

variable {settings : Settings} {disk : Disk} {place : Place}

theorem placeOf_router (lies : settings.LiesAt disk place) :
    disk.placeOf settings.routerOutputPath = place ++ (["lib", "router.g.dart"] : Place) := by
  rw [settings.routerOutputPath_eq, Disk.placeOf_child, ← Disk.locate_eq_placeOf lies.lib,
    Disk.enter, if_neg (by decide), List.append_assoc]
  rfl

theorem placeOf_resources (lies : settings.LiesAt disk place) :
    disk.placeOf (settings.libDir.child "res") = place ++ (["lib", "res"] : Place) := by
  rw [Disk.placeOf_child, ← Disk.locate_eq_placeOf lies.lib, Disk.enter, if_neg (by decide),
    List.append_assoc]
  rfl

theorem placeOf_manifest (lies : settings.LiesAt disk place) :
    disk.placeOf settings.manifestOutputPath = place ++ (["lib", "res", "r.g.dart"] : Place) := by
  rw [settings.manifestOutputPath_eq, Disk.placeOf_child, lies.placeOf_resources, Disk.enter,
    if_neg (by decide), List.append_assoc]
  rfl

end Settings.LiesAt

section Manifest

variable {settings : Settings} {text : Text} {before later : Session} {place : Place}
  {isWritten : Bool}

/-- The router stays when the resource constants are put. -/
theorem Work.Puts.contentAt?_router
    (puts : Puts settings.manifestOutputPath text before later isWritten)
    (lies : settings.LiesAt before.workspace.disk place) :
    later.workspace.disk.tree.contentAt?
        (before.workspace.disk.placeOf settings.routerOutputPath) =
      before.workspace.disk.tree.contentAt?
        (before.workspace.disk.placeOf settings.routerOutputPath) := by
  have apart : before.workspace.disk.placeOf settings.routerOutputPath ≠
      before.workspace.disk.placeOf settings.manifestOutputPath := by
    rw [lies.placeOf_router, lies.placeOf_manifest]
    intro same
    have lengths := congrArg List.length same
    simp at lengths
  rw [puts.disk]
  rcases Action.writeText_after settings.manifestOutputPath text before.workspace with
    same | ⟨_, content, rewritten⟩
  · exact same.content _
  · exact rewritten.elsewhere _ apart

/-- The resource files stay when the resource constants are put. -/
theorem Work.Puts.find_assets
    (puts : Puts settings.manifestOutputPath text before later isWritten)
    (lies : settings.LiesAt before.workspace.disk place) :
    later.workspace.disk.find settings.assetsDir =
      before.workspace.disk.find settings.assetsDir := by
  have grows := (puts.generates .manifest).toGrows
  have liesLater := lies.grow grows
  have beside : Disk.Beside (settings.libDir.child "res") (place ++ (["assets"] : Place))
      before.workspace.disk later.workspace.disk := by
    rw [puts.disk, Action.writeText_disk, settings.manifestOutputPath_eq]
    refine Disk.writeDeepFile_beside _ _ ?_ (by decide)
    rw [Path.parent_child]
    exact Disk.isDirectory_eq_true_iff.mpr ⟨_, lies.lib, lies.libKind⟩
  have same : later.workspace.disk.tree.at? (place ++ (["assets"] : Place)) =
      before.workspace.disk.tree.at? (place ++ (["assets"] : Place)) := by
    refine beside.same ?_ ?_
    · rw [lies.placeOf_resources, List.prefix_append_right_inj]
      decide
    · rw [lies.placeOf_resources, List.prefix_append_right_inj]
      decide
  rw [settings.assetsDir_eq]
  cases checked : Disk.checkPath (settings.projectRoot.child "assets") with
  | error kind =>
      rw [Disk.find, Disk.find, Disk.locate_of_refused checked, Disk.locate_of_refused checked]
      rfl
  | ok _ =>
      have plain : Disk.IsPlain "assets" := ⟨by decide, by decide⟩
      rw [Disk.find_child lies.root lies.rootKind plain checked,
        Disk.find_child liesLater.root liesLater.rootKind plain checked, same]

end Manifest

end DartRoutes
