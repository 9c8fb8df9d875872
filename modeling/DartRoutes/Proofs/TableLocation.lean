import DartRoutes.Proofs.TokenReading
import DartRoutes.Route.Table

/-!
# Locating a route table

An assignment of a list to the table's name is found behind any text that holds none itself and
does not end in the middle of a word.
-/

namespace DartRoutes.RouteTable

/-- Is the character an ASCII letter, a digit or an underscore? -/
def isNameCharacter (character : Char) : Bool :=
  character.isAlphanum || character == '_'

theorem isWord_of_isNameCharacter {character : Char}
    (name : isNameCharacter character = true) : isWord character = true := by
  have ascii : character.toNat < 0x80 := by
    have zLast : 'z'.val.toNat = 122 := rfl
    have upperLast : 'Z'.val.toNat = 90 := rfl
    have digitLast : '9'.val.toNat = 57 := rfl
    simp only [isNameCharacter, Bool.or_eq_true, beq_iff_eq] at name
    rcases name with alphanumeric | rfl
    · unfold Char.isAlphanum Char.isAlpha Char.isUpper Char.isLower Char.isDigit at alphanumeric
      simp only [Bool.or_eq_true, Bool.and_eq_true, decide_eq_true_eq, ge_iff_le,
        UInt32.le_iff_toNat_le] at alphanumeric
      rw [Char.toNat]
      omega
    · decide
  rw [isWord, if_pos ascii]
  exact name

private theorem skipBlanks_append {text tail : Text} (starts : isWordAt tail.head? = true) :
    skipBlanks (text ++ tail) = skipBlanks text ++ tail := by
  cases tail with
  | nil => simp [isWordAt] at starts
  | cons character tail =>
      have visible : isBlank character = false := by
        cases blank : isBlank character with
        | false => rfl
        | true =>
            have free := isWord_eq_false_of_isBlank blank
            simp [isWordAt, free] at starts
      rw [skipBlanks, List.dropWhile_append]
      split
      · rename_i empty
        simp [skipBlanks, List.isEmpty_iff.mp empty, visible]
      · rfl

/-- A list is assigned to a name exactly if the name, a sign and an opening bracket follow each
other with nothing but blanks between them. -/
theorem assignment?_eq_some_iff {table text found : Text} :
    assignment? table text = some found ↔
      ∃ behindName behindSign, text = table ++ behindName ∧
        skipBlanks behindName = '=' :: behindSign ∧ skipBlanks behindSign = found ∧
        found.head? = some '[' := by
  simp only [assignment?, Option.bind_eq_bind, Option.bind_eq_some_iff,
    Text.withoutBeginning?_eq_some_iff, Option.ite_none_right_eq_some, Option.some.injEq]
  constructor
  · rintro ⟨behindName, split, behindSign, sign, bracket, rfl⟩
    exact ⟨behindName, behindSign, split, sign, rfl, bracket⟩
  · rintro ⟨behindName, behindSign, split, sign, rfl, bracket⟩
    exact ⟨behindName, split, behindSign, sign, bracket, rfl⟩

variable {table text tail : Text}

/-- An assignment does not reach out of a text into a word behind it. -/
theorem assignment?_append_eq_none (name : ∀ character ∈ table, isWord character = true)
    (absent : assignment? table text = none) (inside : text ≠ [])
    (ends : isWordAt text.getLast? = false) (starts : isWordAt tail.head? = true) :
    assignment? table (text ++ tail) = none := by
  rw [Option.eq_none_iff_forall_ne_some]
  intro found assigned
  obtain ⟨behindName, behindSign, split, sign, behind, bracket⟩ :=
    assignment?_eq_some_iff.mp assigned
  have notMark : ∀ rest : Text, tail ≠ '=' :: rest ∧ tail.head? ≠ some '[' := by
    intro rest
    constructor
    · rintro rfl
      exact absurd starts (show ¬ isWordAt (some '=') = true by decide)
    · intro mark
      rw [mark] at starts
      exact absurd starts (by decide)
  rcases List.append_eq_append_iff.mp split with ⟨more, rfl, -⟩ | ⟨behindText, rfl, rfl⟩
  · -- The text would end inside the name.
    have member : text.getLast inside ∈ text ++ more := by simp
    rw [List.getLast?_eq_some_getLast inside, isWordAt, Option.any_some, name _ member] at ends
    contradiction
  · rw [skipBlanks_append starts] at sign
    cases signInside : skipBlanks behindText with
    | nil =>
        rw [signInside] at sign
        exact (notMark behindSign).1 sign
    | cons mark more =>
        rw [signInside, List.cons_append] at sign
        obtain ⟨rfl, behindShape⟩ := List.cons_eq_cons.mp sign
        rw [← behindShape, skipBlanks_append starts] at behind
        cases listInside : skipBlanks more with
        | nil =>
            rw [listInside, List.nil_append] at behind
            exact (notMark []).2 (behind ▸ bracket)
        | cons opening rest =>
            have assignedInside : assignment? table (table ++ behindText) =
                some (opening :: rest) := by
              refine assignment?_eq_some_iff.mpr
                ⟨behindText, more, rfl, signInside, listInside, ?_⟩
              rw [← behind, listInside] at bracket
              exact bracket
            rw [absent] at assignedInside
            contradiction

/-- A text that holds no assignment and ends outside a word is passed over. -/
theorem locate?_append_of_eq_none (name : ∀ character ∈ table, isWord character = true)
    {before : Option Char} (absent : locate? table before text = none)
    (ends : isWordAt (Text.neighbour before text) = false) (starts : isWordAt tail.head? = true) :
    locate? table before (text ++ tail) = locate? table (Text.neighbour before text) tail := by
  induction text generalizing before with
  | nil => rfl
  | cons character text induction =>
      rw [Text.neighbour_cons] at ends ⊢
      have lastOf : (character :: text).getLast? = Text.neighbour (some character) text := by
        cases last : text.getLast? <;> simp [Text.neighbour, List.getLast?_cons, last]
      rw [locate?] at absent
      split at absent
      · contradiction
      · rename_i here
        rw [← induction absent ends, List.cons_append, locate?]
        split at here
        · rw [if_pos ‹_›, ← List.cons_append, assignment?_append_eq_none name here (by simp)
            (lastOf ▸ ends) starts]
        · rw [if_neg ‹_›]

/-- A table is located where its name stands as a whole word with a list assigned to it. -/
theorem locate?_of_assignment? {before : Option Char} {found : Text}
    (assigned : assignment? table text = some found)
    (free : isWordAt before = false) (starts : isWordAt text.head? = true) :
    locate? table before text = some found := by
  cases text with
  | nil => simp [isWordAt] at starts
  | cons character text =>
      have boundary : isBoundary before (some character) = true := by
        rw [isBoundary, free]
        simpa using starts
      rw [locate?, if_pos boundary, assigned]

end DartRoutes.RouteTable
