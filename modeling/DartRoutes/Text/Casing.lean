import DartRoutes.Text.Basic
import DartRoutes.Text.CaseTable

/-!
# Letter case

Lower and upper case of characters of every script. Some characters have a case mapping of
several characters, and a capital sigma at the end of a word becomes a final sigma, so casing maps
texts and not single characters.
-/

namespace DartRoutes

/-- The case mapping of one character by a table of runs and a table of sequences. -/
def mapCase (runs : List CaseRun) (sequences : List (Nat × List Nat)) (character : Char) : Text :=
  match sequences.lookup character.toNat with
  | some codes => codes.map Char.ofNat
  | none =>
      match runs.findSome? (·.target? character.toNat) with
      | some code => [Char.ofNat code]
      | none => [character]

/-- Lower case of a character outside every context. -/
def lowerCharacter (character : Char) : Text :=
  if character.toNat < 0x80 then [character.toLower]
  else mapCase lowerRuns lowerSequences character

def upperCharacter (character : Char) : Text :=
  if character.toNat < 0x80 then [character.toUpper]
  else mapCase upperRuns upperSequences character

/-- Is the nearest character that a case context does not look through a cased one? -/
def facesCased (context : Text) : Bool :=
  match context.dropWhile (caseIgnorableRanges.hold ·) with
  | [] => false
  | character :: _ => casedRanges.hold character

namespace Text

/-- Lower case of a text behind the reversed text `before`. -/
def lowerAfter (before : Text) : Text → Text
  | [] => []
  | character :: rest =>
      let lowered :=
        if character = 'Σ' ∧ facesCased before ∧ ¬ facesCased rest then ['ς']
        else lowerCharacter character
      lowered ++ lowerAfter (character :: before) rest

def lower (text : Text) : Text :=
  lowerAfter [] text

def upper (text : Text) : Text :=
  text.flatMap upperCharacter

end Text

end DartRoutes
