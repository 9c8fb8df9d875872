/-!
# Text

A text is a list of characters, because every rule of the library is a recursion over characters.
String literals are coerced to texts, so that messages and generated source can be written as
they read.
-/

namespace DartRoutes

/-- A text is the list of its characters. -/
abbrev Text := List Char

instance : Coe String Text := ⟨String.toList⟩

namespace Text

def ofNat (number : Nat) : Text :=
  Nat.toDigits 10 number

/-- Decimal digits of an integer, after a minus sign when it is negative. -/
def ofInt : Int → Text
  | .ofNat number => ofNat number
  | .negSucc number => '-' :: ofNat (number + 1)

/-- Texts joined with a separator between neighbours. -/
def join (separator : Text) (pieces : List Text) : Text :=
  List.intercalate separator pieces

/-- A text without a given ending, if it has that ending. -/
def withoutEnding? (ending text : Text) : Option Text :=
  if ending.isSuffixOf text then some (text.take (text.length - ending.length)) else none

/-- A text without a given beginning, if it has that beginning. -/
def withoutBeginning? : (beginning text : Text) → Option Text
  | [], text => some text
  | _ :: _, [] => none
  | first :: beginning, character :: text =>
      if first = character then withoutBeginning? beginning text else none

def holds (fragment : Text) : Text → Bool
  | [] => fragment.isEmpty
  | character :: rest =>
      fragment.isPrefixOf (character :: rest) || holds fragment rest

/-- Code point order, the order of every sorted listing. -/
def precedes : (left right : Text) → Bool
  | [], _ => true
  | _ :: _, [] => false
  | left :: lefts, right :: rights =>
      if left = right then precedes lefts rights else left.val < right.val

def sort (texts : List Text) : List Text :=
  texts.mergeSort precedes

/--
Replaces matches from left to right. The rule looks at the rest of the text and answers how many
characters after the first one it takes and what stands in their place; the search goes on behind
the match.
-/
def substitute (rule : Text → Option (Nat × Text)) : Text → Text
  | [] => []
  | character :: rest =>
      match rule (character :: rest) with
      | none => character :: substitute rule rest
      | some (further, replacement) => replacement ++ substitute rule (rest.drop further)
termination_by text => text.length
decreasing_by
  · simp only [List.length_cons]; omega
  · simp only [List.length_cons, List.length_drop]; omega

theorem withoutBeginning?_eq_some_iff {beginning text rest : Text} :
    withoutBeginning? beginning text = some rest ↔ text = beginning ++ rest := by
  induction beginning generalizing text with
  | nil => simp [withoutBeginning?, eq_comm]
  | cons first beginning induction =>
      cases text with
      | nil => simp [withoutBeginning?]
      | cons character text =>
          by_cases same : first = character
          · subst same
            simp [withoutBeginning?, induction]
          · simp [withoutBeginning?, same, Ne.symm same]

theorem precedes_iff_not_lt {left right : Text} :
    precedes left right = true ↔ ¬ right < left := by
  induction left generalizing right with
  | nil => simp [precedes]
  | cons character left induction =>
      cases right with
      | nil => simp [precedes]
      | cons other right =>
          rw [precedes, List.cons_lt_cons_iff]
          by_cases same : character = other
          · subst same
            simp [induction]
          · have apart : character.val.toNat ≠ other.val.toNat :=
              fun equal => same (Char.ext (UInt32.toNat_inj.mp equal))
            simp only [same, Ne.symm same, if_false, decide_eq_true_eq, Char.lt_def,
              UInt32.lt_iff_toNat_lt, false_and, or_false]
            omega

theorem sort_perm (texts : List Text) : (sort texts).Perm texts :=
  List.mergeSort_perm texts precedes

theorem sort_of_pairwise {texts : List Text}
    (sorted : texts.Pairwise fun left right => precedes left right = true) : sort texts = texts :=
  List.mergeSort_of_pairwise sorted

theorem mem_sort {text : Text} {texts : List Text} : text ∈ sort texts ↔ text ∈ texts :=
  (sort_perm texts).mem_iff

/-- Distinct texts are sorted strictly. -/
theorem sort_pairwise_lt {texts : List Text} (distinct : texts.Nodup) :
    (sort texts).Pairwise (· < ·) := by
  have sorted : (sort texts).Pairwise fun left right => precedes left right = true := by
    apply List.pairwise_mergeSort
    · intro first second third before behind
      rw [precedes_iff_not_lt] at before behind ⊢
      exact List.le_trans before behind
    · intro left right
      rw [Bool.or_eq_true, precedes_iff_not_lt, precedes_iff_not_lt]
      exact List.le_total left right
  have sortedDistinct : (sort texts).Nodup := (sort_perm texts).nodup_iff.mpr distinct
  refine (sorted.and sortedDistinct).imp ?_
  rintro left right ⟨before, different⟩
  rw [precedes_iff_not_lt] at before
  by_cases less : left < right
  · exact less
  · exact absurd (List.le_antisymm before less) different

/-- Sorting undoes every change of the order of distinct texts. -/
theorem sort_eq_of_perm {left right : List Text} (distinct : left.Nodup)
    (perm : left.Perm right) : sort left = sort right := by
  have sameTexts := (sort_perm left).trans (perm.trans (sort_perm right).symm)
  have distinctRight := perm.nodup_iff.mp distinct
  refine sameTexts.eq_of_pairwise ?_ (sort_pairwise_lt distinct) (sort_pairwise_lt distinctRight)
  exact fun first second _ _ before behind => absurd behind (List.lt_asymm before)

end Text

end DartRoutes
