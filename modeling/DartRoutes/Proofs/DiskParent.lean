import DartRoutes.Proofs.DiskPlace

/-!
# Following a path behind its parent

A path that has parts leads to its parent first, and then takes one more step. A path that the disk
does not refuse for its text has a parent that it does not refuse either.
-/

namespace DartRoutes

/-- The path of a name in the directory of another path. -/
def Path.child (path : Path) (name : Text) : Path :=
  { path with parts := path.parts ++ [name] }

namespace Path

@[simp]
theorem parent_child (path : Path) (name : Text) : (path.child name).parent = path := by
  rw [parent, child, List.dropLast_concat]

theorem parts_eq_nil_or_child (path : Path) :
    path.parts = [] ∨ ∃ name, path = path.parent.child name := by
  obtain ⟨anchor, parts⟩ := path
  rcases List.eq_nil_or_concat parts with empty | ⟨front, name, rfl⟩
  · exact .inl empty
  · exact .inr ⟨name, by rw [parent, List.concat_eq_append, List.dropLast_concat, child]⟩

theorem div_eq_child (path : Path) {text name : Text} (isName : ofText text = ⟨.relative, [name]⟩) :
    path / text = path.child name := by
  change path.join (ofText text) = _
  rw [isName]
  rfl

theorem partsBehind?_append (start parts more : List Text) :
    partsBehind? (start ++ parts) (start ++ more) = partsBehind? parts more := by
  induction start with
  | nil => rfl
  | cons first start induction => exact (if_pos rfl).trans induction

theorem suffix_of_partsBehind? {start parts behind : List Text}
    (found : partsBehind? start parts = some behind) : behind <:+ parts := by
  induction start generalizing parts with
  | nil =>
      cases found
      exact List.suffix_refl _
  | cons first start induction =>
      cases parts with
      | nil => cases found
      | cons part parts =>
          rw [partsBehind?] at found
          split at found
          · exact (induction found).trans (List.suffix_cons _ _)
          · cases found

theorem join_concat (separator name : Text) {front : List Text} (nonempty : front ≠ []) :
    Text.join separator (front ++ [name]) = Text.join separator front ++ (separator ++ name) := by
  induction front with
  | nil => exact absurd rfl nonempty
  | cons head front induction =>
      cases front with
      | nil => simp [Text.join]
      | cons next front =>
          have rest := induction (List.cons_ne_nil _ _)
          simp only [Text.join, List.cons_append, List.intercalate_cons_cons] at rest ⊢
          rw [rest, List.append_assoc, List.append_assoc, List.append_assoc]

/-- The text of a path starts with that of its parent, which can be a dot, though. -/
theorem text_child (path : Path) (name : Text) :
    path.text = "." ∨ ∃ rest, (path.child name).text = path.text ++ rest := by
  obtain ⟨anchor, parts⟩ := path
  by_cases empty : parts = []
  · subst empty
    cases anchor with
    | relative => exact .inl rfl
    | root => exact .inr ⟨name, by simp [child, text, Text.join]⟩
    | doubleRoot => exact .inr ⟨name, by simp [child, text, Text.join]⟩
  · obtain ⟨head, parts, rfl⟩ := List.exists_cons_of_ne_nil empty
    right
    refine ⟨"/" ++ name, ?_⟩
    simp only [child, text, List.cons_append]
    rw [← List.cons_append, join_concat _ _ empty, List.append_assoc]

end Path

namespace Disk

theorem checkPath_of_child {path : Path} {name : Text}
    (checked : checkPath (path.child name) = .ok ()) : checkPath path = .ok () := by
  rcases path.text_child name with dot | ⟨rest, text⟩
  · rw [checkPath, dot]
    rfl
  · rw [checkPath, text, Utf8.encode, List.flatMap_append, ← Utf8.encode, ← Utf8.encode] at checked
    rw [checkPath]
    split at checked
    · cases checked
    · rename_i absent
      split at checked
      · cases checked
      · rename_i bounded
        rw [List.length_append] at bounded
        rw [if_neg, if_neg]
        · exact fun long => bounded (Nat.le_add_right_of_le long)
        · intro member
          refine absent ?_
          rw [List.contains_iff_mem] at member ⊢
          exact List.mem_append_left _ member

theorem locate_child {disk : Disk} {path : Path} {name : Text}
    (checked : checkPath (path.child name) = .ok ()) :
    disk.locate (path.child name) =
      disk.locate path >>= fun place => step disk.tree place name := by
  rw [locate, locate, checked, checkPath_of_child checked]
  simp only [bind, Except.bind, Path.child, List.foldlM_append, List.foldlM_cons, List.foldlM_nil,
    start]
  cases List.foldlM (step disk.tree) _ path.parts with
  | error kind => rfl
  | ok place =>
      simp only
      cases step disk.tree place name with
      | error kind => rfl
      | ok next => rfl

theorem target_child {disk : Disk} {path : Path} {name : Text}
    (checked : checkPath (path.child name) = .ok ()) :
    disk.target (path.child name) =
      disk.locate path >>= fun place => slot disk.tree place name := by
  rw [target, locate, checked, checkPath_of_child checked]
  simp only [bind, Except.bind, Path.child, start, List.getLast?_concat, List.dropLast_concat]

theorem locate_of_refused {disk : Disk} {path : Path} {kind : FileFault.Kind}
    (refused : checkPath path = .error kind) : disk.locate path = .error kind := by
  rw [locate, refused]
  rfl

theorem target_of_refused {disk : Disk} {path : Path} {kind : FileFault.Kind}
    (refused : checkPath path = .error kind) : disk.target path = .error kind := by
  rw [target, refused]
  rfl

theorem locate_of_parts_eq_nil {disk : Disk} {path : Path} (checked : checkPath path = .ok ())
    (empty : path.parts = []) : disk.locate path = .ok (disk.start path) := by
  rw [locate, checked, empty]
  rfl

theorem target_of_parts_eq_nil {disk : Disk} {path : Path} (checked : checkPath path = .ok ())
    (empty : path.parts = []) : disk.target path = .ok none := by
  rw [target, checked, empty]
  rfl

end Disk

end DartRoutes
