import DartRoutes.Proofs.LiteralWriting
import Mathlib.Algebra.Ring.Parity
import Mathlib.Data.List.DropRight

/-!
# Escapes of a literal

A character behind an odd number of backslashes stands for itself; behind an even number it keeps
its meaning. An escape is a backslash and one more character, so the number is even again wherever
an escape ends. Inside a literal a quote or a dollar sign is only found in the middle of an escape,
and the quote that closes the literal stands behind whole escapes.
-/

namespace DartRoutes

/-- The number of backslashes at the end of a text. -/
def Text.trailingBackslashes (text : Text) : Nat :=
  (text.rtakeWhile (· == '\\')).length

namespace Text

@[simp] theorem trailingBackslashes_concat (text : Text) :
    trailingBackslashes (text ++ ['\\']) = trailingBackslashes text + 1 := by
  simp [trailingBackslashes, List.rtakeWhile_concat_pos]

theorem trailingBackslashes_concat_of_ne {character : Char} (text : Text)
    (different : character ≠ '\\') : trailingBackslashes (text ++ [character]) = 0 := by
  simp [trailingBackslashes, List.rtakeWhile_concat_neg, different]

/-- A whole escape leaves an even number of backslashes, also when it escapes a backslash. -/
theorem even_trailingBackslashes_escape {text : Text} (even : Even text.trailingBackslashes)
    (character : Char) : Even (trailingBackslashes (text ++ ['\\'] ++ [character])) := by
  by_cases isBackslash : character = '\\'
  · rw [isBackslash, trailingBackslashes_concat, trailingBackslashes_concat]
    exact even.add_one.add_one
  · rw [trailingBackslashes_concat_of_ne _ isBackslash]
    exact Even.zero

theorem even_trailingBackslashes_plain {character : Char} (text : Text)
    (kept : needsEscape character = false) :
    Even (trailingBackslashes (text ++ [character])) := by
  have different : character ≠ '\\' := by
    rintro rfl
    exact absurd kept (by decide)
  rw [trailingBackslashes_concat_of_ne _ different]
  exact Even.zero

end Text

/-- A text in which every character that needs an escape has one. -/
inductive Guarded : Text → Prop where
  | nil : Guarded []
  | plain {character : Char} {rest : Text} :
      needsEscape character = false → Guarded rest → Guarded (character :: rest)
  | escaped {character : Char} {rest : Text} :
      Guarded rest → Guarded ('\\' :: character :: rest)

namespace Guarded

theorem ofCharacters (content : Text) : Guarded (content.flatMap literalCharacter) := by
  induction content with
  | nil => exact .nil
  | cons character content induction =>
      rw [List.flatMap_cons, literalCharacter]
      split
      · exact .escaped induction
      · rename_i kept
        exact .plain (by simpa using kept) induction

theorem even_trailingBackslashes {text : Text} (guarded : Guarded text) (before : Text)
    (even : Even before.trailingBackslashes) : Even (before ++ text).trailingBackslashes := by
  induction guarded generalizing before with
  | nil => simpa using even
  | plain kept _ induction =>
      simpa using induction _ (Text.even_trailingBackslashes_plain before kept)
  | @escaped character _ _ induction =>
      simpa using induction _ (Text.even_trailingBackslashes_escape even character)

/-- A quote or a dollar sign stands behind an odd number of backslashes. -/
theorem odd_trailingBackslashes {text front back : Text} {mark : Char}
    (guarded : Guarded text) (before : Text) (even : Even before.trailingBackslashes)
    (isMark : mark = '\'' ∨ mark = '$') (shape : text = front ++ mark :: back) :
    Odd (before ++ front).trailingBackslashes := by
  induction guarded generalizing before front with
  | nil => simp at shape
  | @plain character rest kept _ induction =>
      cases front with
      | nil =>
          -- The mark would stand there without an escape.
          obtain ⟨rfl, -⟩ := List.cons.inj shape
          rcases isMark with rfl | rfl
          · exact absurd kept (by decide)
          · exact absurd kept (by decide)
      | cons first front =>
          obtain ⟨rfl, behind⟩ := List.cons.inj shape
          simpa using induction _ (Text.even_trailingBackslashes_plain before kept) behind
  | @escaped character rest _ induction =>
      rcases front with - | ⟨first, - | ⟨second, front⟩⟩
      · obtain ⟨rfl, -⟩ := List.cons.inj shape
        exact absurd isMark (by decide)
      · obtain ⟨rfl, -⟩ := List.cons.inj shape
        rw [Text.trailingBackslashes_concat]
        exact even.add_one
      · obtain ⟨rfl, further⟩ := List.cons.inj shape
        obtain ⟨rfl, behind⟩ := List.cons.inj further
        simpa using induction _ (Text.even_trailingBackslashes_escape even character) behind

end Guarded

/-- What stands between the quotes of a literal cannot end it early, starts no interpolation and
does not take the closing quote away. A double quote means nothing there. -/
structure Encloses (inside : Text) : Prop where
  marks : ∀ (front back : Text) (mark : Char), mark = '\'' ∨ mark = '$' →
    inside = front ++ mark :: back → Odd front.trailingBackslashes
  closing : Even inside.trailingBackslashes

theorem Guarded.encloses {text : Text} (guarded : Guarded text) : Encloses text where
  marks _ _ _ isMark shape := guarded.odd_trailingBackslashes [] Even.zero isMark shape
  closing := guarded.even_trailingBackslashes [] Even.zero

/-- A literal stands for its text and keeps together. Whatever follows it, it is read as a string
exactly if the text fits on one line. -/
theorem dartLiteral_encodes (content : Text) :
    (∀ (before : Option Char) (offset : Nat) (rest : Text),
      (∃ token, (Token.ofText before offset (dartLiteral content ++ rest)).head? = some token ∧
        token.kind = .string ∧ token.lexeme = dartLiteral content) ↔ '\n' ∉ content) ∧
      Token.unquote (dartLiteral content) = content ∧
      ∃ inside, dartLiteral content = '\'' :: inside ++ ['\''] ∧ Encloses inside := by
  refine ⟨fun before offset rest => ⟨?_, ?_⟩, Token.unquote_dartLiteral content, _, rfl,
    (Guarded.ofCharacters content).encloses⟩
  · rintro ⟨token, first, isString, -⟩ feed
    rw [Token.head?_ofText_dartLiteral_of_mem before offset feed] at first
    cases first
    cases isString
  · intro oneLine
    exact ⟨_, (Token.head?_ofText_dartLiteral before offset content rest).mpr oneLine, rfl, rfl⟩

end DartRoutes
