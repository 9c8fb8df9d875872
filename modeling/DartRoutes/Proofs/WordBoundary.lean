import Mathlib
import DartRoutes.Proofs.NameCharacters

/-!
# Words of a class name

The file stem of a page is its class name in small letters with underscores between the words. The
stem is made by three substitutions, each of which sees what the one before it has written. Here
the words are described on the class name itself, by its maximal runs of capitals, and one pass
that writes an underscore wherever a word starts is shown to give the same stem.
-/

namespace DartRoutes

namespace Snake

/-- All of `run` are capitals, and neither of the characters next to it is one. -/
structure IsCapitalRun (before run behind : Text) : Prop where
  capital : ∀ character ∈ run, character.isUpper
  endsBefore : ∀ character ∈ before.getLast?, ¬ character.isUpper
  endsBehind : ∀ character ∈ behind.head?, ¬ character.isUpper

def startsSmall (text : Text) : Bool :=
  text.head?.any Char.isLower

/--
The places between the two halves of a name at which a word starts. In front of a small letter the
last capital of a longer run starts a word. A small letter and a run behind it belong to two
words, unless the run is a longer one in front of a small letter.
-/
inductive StartsWord : Text → Text → Prop
  | lastCapital {before run behind : Text} {last : Char} :
      IsCapitalRun before (run ++ [last]) behind → run ≠ [] → startsSmall behind →
      StartsWord (before ++ run) (last :: behind)
  | firstCapital {before run behind : Text} {small : Char} :
      small.isLower → IsCapitalRun (before ++ [small]) run behind → run ≠ [] →
      run.length = 1 ∨ ¬ startsSmall behind →
      StartsWord (before ++ [small]) (run ++ behind)

/-- Does a word start between a character and the text behind it? -/
def opensWord (previous : Char) (after : Text) : Bool :=
  let run := after.takeWhile Char.isUpper
  let small := startsSmall (after.dropWhile Char.isUpper)
  previous.isUpper && run.length == 1 && small ||
    previous.isLower && run != [] && (run.length == 1 || !small)

section CapitalRun

variable {before run behind : Text}

namespace IsCapitalRun

variable (maximal : IsCapitalRun before run behind)

include maximal

theorem takeWhile_eq : (run ++ behind).takeWhile Char.isUpper = run := by
  rw [List.takeWhile_append_of_pos maximal.capital]
  cases behind with
  | nil => exact List.append_nil run
  | cons next rest =>
      rw [List.takeWhile_cons_of_neg (maximal.endsBehind next rfl), List.append_nil]

theorem dropWhile_eq : (run ++ behind).dropWhile Char.isUpper = behind := by
  rw [List.dropWhile_append_of_pos maximal.capital]
  cases behind with
  | nil => rfl
  | cons next rest => exact List.dropWhile_cons_of_neg (maximal.endsBehind next rfl)

theorem opensWord_eq (previous : Char) :
    opensWord previous (run ++ behind) =
      (previous.isUpper && run.length == 1 && startsSmall behind ||
        previous.isLower && run != [] && (run.length == 1 || !startsSmall behind)) := by
  rw [opensWord, maximal.takeWhile_eq, maximal.dropWhile_eq]

theorem cons {capital : Char} (isUpper : capital.isUpper) :
    IsCapitalRun [] (capital :: run) behind where
  capital := List.forall_mem_cons.mpr ⟨isUpper, maximal.capital⟩
  endsBefore := by simp
  endsBehind := maximal.endsBehind

theorem sublist {part : Text} (sublist : part.Sublist run) : IsCapitalRun [] part behind where
  capital := fun character member => maximal.capital character (sublist.mem member)
  endsBefore := by simp
  endsBehind := maximal.endsBehind

end IsCapitalRun

/-- Every text begins with a maximal run of capitals, which may be empty. -/
theorem exists_isCapitalRun (text : Text) :
    ∃ run behind, text = run ++ behind ∧ IsCapitalRun [] run behind := by
  refine ⟨_, _, (List.takeWhile_append_dropWhile (p := Char.isUpper)).symm, ?_, by simp, ?_⟩
  · exact fun character => List.mem_takeWhile_imp
  · intro character isHead
    have noCapital := List.head?_dropWhile_not Char.isUpper text
    rw [isHead] at noCapital
    simpa using noCapital

end CapitalRun

theorem not_startsWord_nil (after : Text) : ¬ StartsWord [] after := by
  intro starts
  generalize isEmpty : ([] : Text) = front at starts
  cases starts with
  | lastCapital _ nonempty _ => exact nonempty (List.append_eq_nil_iff.mp isEmpty.symm).2
  | firstCapital _ _ _ _ => simp at isEmpty

/-- The last capital of a run that is longer than that capital starts a word. -/
theorem startsWord_lastCapital {before behind : Text} {previous last : Char}
    (isUpper : previous.isUpper) (maximal : IsCapitalRun [] [last] behind)
    (small : startsSmall behind) : StartsWord (before ++ [previous]) (last :: behind) := by
  rw [← List.rdropWhile_append_rtakeWhile (p := Char.isUpper) (l := before ++ [previous])]
  refine .lastCapital ⟨?_, ?_, maximal.endsBehind⟩ ?_ small
  · intro character member
    rcases List.mem_append.mp member with inRun | isLast
    · exact List.mem_rtakeWhile_imp inRun
    · exact maximal.capital character isLast
  · intro character isLast isCapital
    obtain ⟨nonempty, rfl⟩ := List.mem_getLast?_eq_getLast isLast
    exact List.rdropWhile_last_not _ _ nonempty isCapital
  · rw [List.rtakeWhile_concat_pos _ _ _ isUpper]
    exact List.append_ne_nil_of_right_ne_nil _ (List.cons_ne_nil _ _)

/-- Whether a word starts at a place is seen from the character in front of it. -/
theorem startsWord_concat_iff {before after : Text} {previous : Char} :
    StartsWord (before ++ [previous]) after ↔ opensWord previous after := by
  constructor
  · intro starts
    generalize isFront : before ++ [previous] = front at starts
    cases starts with
    | @lastCapital front run behind last maximal nonempty small =>
        have inRun : previous ∈ run := by
          apply List.mem_of_getLast?
          rw [← List.getLast?_append_of_ne_nil front nonempty, ← isFront, List.getLast?_concat]
        have isUpper : previous.isUpper := maximal.capital _ (List.mem_append_left _ inRun)
        have single := maximal.sublist (List.sublist_append_right run [last])
        have opens := single.opensWord_eq previous
        simpa [isUpper, small] using opens
    | @firstCapital front run behind small isLower maximal nonempty ends =>
        obtain ⟨-, same⟩ := List.append_inj' isFront rfl
        cases same
        rw [maximal.opensWord_eq]
        rcases ends with single | large
        · simp [isLower, nonempty, single]
        · simp [isLower, nonempty, large]
  · intro opens
    obtain ⟨run, behind, rfl, maximal⟩ := exists_isCapitalRun after
    rw [maximal.opensWord_eq, Bool.or_eq_true] at opens
    rcases opens with inRun | behindSmall
    · simp only [Bool.and_eq_true, beq_iff_eq] at inRun
      obtain ⟨⟨isUpper, single⟩, small⟩ := inRun
      obtain ⟨last, rfl⟩ := List.length_eq_one_iff.mp single
      exact startsWord_lastCapital isUpper maximal small
    · simp only [Bool.and_eq_true, bne_iff_ne, Bool.or_eq_true, beq_iff_eq,
        Bool.not_eq_true'] at behindSmall
      obtain ⟨⟨isLower, nonempty⟩, ends⟩ := behindSmall
      have around : IsCapitalRun (before ++ [previous]) run behind :=
        ⟨maximal.capital, by simpa using Char.not_isUpper_of_isLower isLower, maximal.endsBehind⟩
      exact .firstCapital isLower around nonempty (ends.imp_right Bool.eq_false_iff.mp)

instance (before after : Text) : Decidable (StartsWord before after) :=
  decidable_of_iff (before.getLast?.any (opensWord · after)) <| by
    rcases List.eq_nil_or_concat before with rfl | ⟨front, previous, rfl⟩
    · simp [not_startsWord_nil]
    · simp [startsWord_concat_iff]

/-- The name in small letters, with an underscore in front of each character that starts a word. -/
def markWords (before : Text) : Text → Text
  | [] => []
  | character :: rest =>
      let marked := markWords (before ++ [character]) rest
      if StartsWord before (character :: rest) then '_' :: character.toLower :: marked
      else character.toLower :: marked

/-! ## The three substitutions -/

section Substitution

variable {rule : Text → Option (Nat × Text)} {character : Char} {rest : Text}

theorem substitute_cons_of_none (unchanged : rule (character :: rest) = none) :
    Text.substitute rule (character :: rest) = character :: Text.substitute rule rest := by
  rw [Text.substitute, unchanged]

theorem substitute_cons_of_some {further : Nat} {replacement : Text}
    (changed : rule (character :: rest) = some (further, replacement)) :
    Text.substitute rule (character :: rest) =
      replacement ++ Text.substitute rule (rest.drop further) := by
  rw [Text.substitute, changed]

end Substitution

section Acronym

variable {before run behind : Text}

theorem acronymRule_eq_none (maximal : IsCapitalRun before run behind)
    (short : run.length ≤ 1 ∨ ¬ startsSmall behind) : acronymRule (run ++ behind) = none := by
  rw [acronymRule, maximal.takeWhile_eq, maximal.dropWhile_eq]
  cases behind with
  | nil => cases run.getLast? <;> rfl
  | cons next rest =>
      cases run.getLast? with
      | none => rfl
      | some last =>
          apply if_neg
          rintro ⟨long, small⟩
          rcases short with short | large
          · omega
          · exact large small

theorem acronymRule_eq_some {last next : Char} {rest : Text}
    (maximal : IsCapitalRun before (run ++ [last]) (next :: rest)) (nonempty : run ≠ [])
    (small : next.isLower) :
    acronymRule (run ++ [last] ++ next :: rest) =
      some (run.length + 1, run.map Char.toLower ++ ['_', last.toLower, next]) := by
  have long : 2 ≤ (run ++ [last]).length := by
    have positive := List.length_pos_of_ne_nil nonempty
    rw [List.length_append, List.length_singleton]
    omega
  rw [acronymRule, maximal.takeWhile_eq, maximal.dropWhile_eq, List.getLast?_concat]
  dsimp only
  rw [if_pos ⟨long, small⟩, List.dropLast_concat, List.length_append, List.length_singleton]

/-- A single capital and a run that no small letter follows are left as they are. -/
theorem substitute_acronymRule_keep (maximal : IsCapitalRun before run behind)
    (short : run.length ≤ 1 ∨ ¬ startsSmall behind) :
    Text.substitute acronymRule (run ++ behind) = run ++ Text.substitute acronymRule behind := by
  induction run generalizing before with
  | nil => rfl
  | cons capital run induction =>
      have unchanged : acronymRule (capital :: (run ++ behind)) = none :=
        acronymRule_eq_none maximal short
      have shorter : run.length ≤ 1 ∨ ¬ startsSmall behind := by
        refine short.imp_left fun short => ?_
        rw [List.length_cons] at short
        omega
      rw [List.cons_append, substitute_cons_of_none unchanged,
        induction (maximal.sublist (List.sublist_cons_self capital run)) shorter, List.cons_append]

theorem substitute_acronymRule_cons {character : Char} {rest : Text} (small : ¬ character.isUpper) :
    Text.substitute acronymRule (character :: rest) =
      character :: Text.substitute acronymRule rest := by
  have none : IsCapitalRun [] [] (character :: rest) := ⟨by simp, by simp, by simpa using small⟩
  exact substitute_cons_of_none (acronymRule_eq_none none (.inl (Nat.zero_le 1)))

/-- The last capital of a run in front of a small letter is separated from those before it. -/
theorem substitute_acronymRule_split {last : Char}
    (maximal : IsCapitalRun before (run ++ [last]) behind) (nonempty : run ≠ [])
    (small : startsSmall behind) :
    Text.substitute acronymRule (run ++ [last] ++ behind) =
      run.map Char.toLower ++ '_' :: last.toLower :: Text.substitute acronymRule behind := by
  obtain ⟨capital, run, rfl⟩ := List.exists_cons_of_ne_nil nonempty
  cases behind with
  | nil => cases small
  | cons next rest =>
      have changed : acronymRule (capital :: (run ++ [last] ++ next :: rest)) = _ :=
        acronymRule_eq_some maximal nonempty small
      have left : (run ++ [last] ++ next :: rest).drop (run.length + 2) = rest := by
        simp [List.drop_append]
      rw [List.cons_append, List.cons_append, substitute_cons_of_some changed, List.length_cons,
        left, substitute_acronymRule_cons (Char.not_isUpper_of_isLower small)]
      simp

end Acronym

/-- The first substitution leaves a run as it is or separates its last capital. -/
theorem kept_or_split (run behind : Text) :
    (run.length ≤ 1 ∨ ¬ startsSmall behind) ∨
      ∃ capitals last, run = capitals ++ [last] ∧ capitals ≠ [] ∧ startsSmall behind := by
  by_cases kept : run.length ≤ 1 ∨ ¬ startsSmall behind
  · exact .inl kept
  · rw [not_or, not_not, Nat.not_le] at kept
    obtain ⟨long, small⟩ := kept
    rcases List.eq_nil_or_concat' run with rfl | ⟨capitals, last, rfl⟩
    · simp at long
    · refine .inr ⟨capitals, last, rfl, ?_, small⟩
      rintro rfl
      simp at long

/-- A capital at the start of a text is kept there unless it is one of an acronym. -/
theorem any_isUpper_head?_substitute_acronymRule {before run behind : Text}
    (maximal : IsCapitalRun before run behind) :
    (Text.substitute acronymRule (run ++ behind)).head?.any Char.isUpper =
      (run != [] && (run.length == 1 || !startsSmall behind)) := by
  rcases kept_or_split run behind with kept | ⟨capitals, last, rfl, nonempty, small⟩
  · rw [substitute_acronymRule_keep maximal kept]
    cases run with
    | nil =>
        cases behind with
        | nil => simp [Text.substitute]
        | cons next rest =>
            have small : ¬ next.isUpper := maximal.endsBehind next rfl
            rw [List.nil_append, substitute_acronymRule_cons small]
            simp [small]
    | cons capital run =>
        have isUpper : capital.isUpper := maximal.capital capital List.mem_cons_self
        have shown : run = [] ∨ startsSmall behind = false := by simpa using kept
        simpa [isUpper] using shown
  · rw [substitute_acronymRule_split maximal nonempty small]
    obtain ⟨capital, capitals, rfl⟩ := List.exists_cons_of_ne_nil nonempty
    simp [small]

theorem map_toLower_substitute_wordRule_cons (character : Char) (text : Text) :
    (Text.substitute wordRule (character :: text)).map Char.toLower =
      character.toLower ::
        ((if character.isLower ∧ text.head?.any Char.isUpper then ['_'] else []) ++
          (Text.substitute wordRule text).map Char.toLower) := by
  cases text with
  | nil =>
      rw [substitute_cons_of_none (by rfl)]
      simp
  | cons next rest =>
      by_cases opens : character.isLower ∧ next.isUpper
      · have changed : wordRule (character :: next :: rest) =
            some (1, [character, '_', next.toLower]) := if_pos opens
        have unchanged : wordRule (next :: rest) = none := by
          cases rest with
          | nil => rfl
          | cons second rest =>
              exact if_neg fun small => Char.not_isLower_of_isUpper opens.2 small.1
        rw [substitute_cons_of_some changed, substitute_cons_of_none unchanged]
        simp [opens]
      · have unchanged : wordRule (character :: next :: rest) = none := if_neg opens
        rw [substitute_cons_of_none unchanged]
        simp [opens]

/-- What the first two substitutions write for a character depends on the text behind it only. -/
theorem map_toLower_substitutes_cons (character : Char) (rest : Text) :
    (Text.substitute wordRule (Text.substitute acronymRule (character :: rest))).map Char.toLower =
      character.toLower ::
        ((if opensWord character rest then ['_'] else []) ++
          (Text.substitute wordRule (Text.substitute acronymRule rest)).map Char.toLower) := by
  obtain ⟨run, behind, rfl, maximal⟩ := exists_isCapitalRun rest
  by_cases isUpper : character.isUpper
  · have notSmall := Char.not_isLower_of_isUpper isUpper
    have longer := maximal.cons isUpper
    rcases kept_or_split (character :: run) behind with
      kept | ⟨capitals, last, isRun, nonempty, small⟩
    · have keptRest : run.length ≤ 1 ∨ ¬ startsSmall behind := by
        refine kept.imp_left fun short => ?_
        rw [List.length_cons] at short
        omega
      have shown : run = [] ∨ startsSmall behind = false := by simpa using kept
      rw [← List.cons_append, substitute_acronymRule_keep longer kept, List.cons_append,
        ← substitute_acronymRule_keep maximal keptRest, map_toLower_substitute_wordRule_cons,
        maximal.opensWord_eq]
      rcases shown with rfl | large
      · simp [isUpper, notSmall]
      · simp [isUpper, notSmall, large]
    · obtain ⟨first, more, rfl⟩ := List.exists_cons_of_ne_nil nonempty
      rw [List.cons_append, List.cons.injEq] at isRun
      obtain ⟨rfl, rfl⟩ := isRun
      have split := substitute_acronymRule_split longer nonempty small
      rw [List.cons_append, List.cons_append] at split
      rw [split, maximal.opensWord_eq]
      cases more with
      | nil =>
          have single := substitute_acronymRule_keep maximal (.inl (Nat.le_refl 1))
          have behindKept := any_isUpper_head?_substitute_acronymRule
            (maximal.sublist (List.nil_sublist _))
          rw [List.nil_append, bne_self_eq_false, Bool.false_and] at behindKept
          have lastIsUpper : last.isUpper := maximal.capital last List.mem_cons_self
          have lastNotSmall := Char.not_isLower_of_isUpper lastIsUpper
          rw [single]
          simp [map_toLower_substitute_wordRule_cons, small, isUpper, lastNotSmall,
            behindKept]
      | cons second more =>
          have rest := substitute_acronymRule_split maximal (List.cons_ne_nil second more) small
          rw [List.map_cons, List.cons_append, ← rest, map_toLower_substitute_wordRule_cons,
            any_isUpper_head?_substitute_acronymRule maximal]
          simp [notSmall, small]
  · rw [substitute_acronymRule_cons isUpper, map_toLower_substitute_wordRule_cons,
      any_isUpper_head?_substitute_acronymRule maximal, maximal.opensWord_eq]
    simp [isUpper, and_assoc]

/-- One pass over the name writes what the first two substitutions write. -/
theorem markWords_concat (before : Text) (previous : Char) (after : Text) :
    markWords (before ++ [previous]) after =
      (if opensWord previous after then ['_'] else []) ++
        (Text.substitute wordRule (Text.substitute acronymRule after)).map Char.toLower := by
  induction after generalizing before previous with
  | nil => simp [markWords, opensWord, Text.substitute]
  | cons character rest induction =>
      rw [markWords, induction, map_toLower_substitutes_cons]
      simp only [startsWord_concat_iff]
      split
      · rfl
      · rfl

theorem markWords_nil (name : Text) :
    markWords [] name =
      (Text.substitute wordRule (Text.substitute acronymRule name)).map Char.toLower := by
  cases name with
  | nil => simp [markWords, Text.substitute]
  | cons character rest =>
      have marked := markWords_concat [] character rest
      rw [List.nil_append] at marked
      rw [markWords, if_neg (not_startsWord_nil _), List.nil_append, marked,
        map_toLower_substitutes_cons]

/-- No character of the name is lost, and the order is kept. -/
theorem map_toLower_sublist_markWords (before name : Text) :
    (name.map Char.toLower).Sublist (markWords before name) := by
  induction name generalizing before with
  | nil => exact List.Sublist.slnil
  | cons character rest induction =>
      rw [markWords]
      split
      · exact ((induction _).cons_cons _).cons _
      · exact (induction _).cons_cons _

/-- The third substitution changes capitals only, which become small in any case. -/
theorem map_toLower_substitute_pairRule (text : Text) :
    (Text.substitute pairRule text).map Char.toLower = text.map Char.toLower := by
  fun_induction Text.substitute pairRule text with
  | case1 => rfl
  | case2 character rest unchanged induction =>
      rw [List.map_cons, List.map_cons, induction]
  | case3 character rest further replacement changed induction =>
      rw [List.map_append, induction]
      rw [pairRule.eq_def] at changed
      split at changed
      · rename_i first second behind isText
        split at changed
        · cases changed
          cases isText
          simp
        · cases changed
      · cases changed

end Snake

theorem Text.lower_of_ascii {text : Text} (ascii : ∀ character ∈ text, character.toNat < 0x80) :
    text.lower = text.map Char.toLower := by
  have lowered : ∀ before : Text, Text.lowerAfter before text = text.map Char.toLower := by
    induction text with
    | nil => exact fun _ => rfl
    | cons character rest induction =>
        intro before
        obtain ⟨first, others⟩ := List.forall_mem_cons.mp ascii
        have noSigma : character ≠ 'Σ' := by
          rintro rfl
          exact absurd first (by decide)
        rw [Text.lowerAfter, induction others, lowerCharacter, if_pos first]
        simp [noSigma]
  exact lowered []

theorem caseClosed_ascii : CaseClosed fun character => character.toNat < 0x80 where
  underscore := by decide
  finalSigma := fun ascii => absurd ascii (by decide)
  lowered := by
    intro character ascii
    rw [lowerCharacter, if_pos ascii]
    refine List.forall_mem_singleton.mpr ?_
    rcases toLower_cases character with same | ⟨-, last, moved⟩
    · rw [same]
      exact ascii
    · omega

namespace Snake

variable {name : Text} (ascii : ∀ character ∈ name, character.toNat < 0x80)

include ascii

theorem forall_mem_substitutes_ascii :
    ∀ character ∈ Text.substitute wordRule (Text.substitute acronymRule name),
      character.toNat < 0x80 := by
  apply Text.forall_mem_substitute fun _ _ _ => caseClosed_ascii.wordRule
  exact Text.forall_mem_substitute (fun _ _ _ => caseClosed_ascii.acronymRule) ascii

theorem ofClass_eq_lower_substitutes :
    ofClass name = Text.lower (Text.substitute wordRule (Text.substitute acronymRule name)) := by
  have twice := forall_mem_substitutes_ascii ascii
  have thrice := Text.forall_mem_substitute (fun _ _ _ => caseClosed_ascii.pairRule) twice
  rw [ofClass, Text.lower_of_ascii thrice, Text.lower_of_ascii twice,
    map_toLower_substitute_pairRule]

theorem ofClass_eq_markWords : ofClass name = markWords [] name := by
  rw [ofClass_eq_lower_substitutes ascii, markWords_nil,
    Text.lower_of_ascii (forall_mem_substitutes_ascii ascii)]

end Snake

/--
The file stem of a page with an ASCII name is the name in small letters, with an underscore in
front of each character that starts a word and nowhere else. The substitution of pairs of capitals
has no part in it.
-/
theorem toSnake_eq_markWords {page : Text}
    (ascii : ∀ character ∈ page, character.toNat < 0x80) :
    toSnake page = Snake.markWords [] (stripPageSuffix page) ++ "_page" ∧
      ((stripPageSuffix page).map Char.toLower).Sublist
        (Snake.markWords [] (stripPageSuffix page)) ∧
      toSnake page =
        Text.lower (Text.substitute Snake.wordRule
          (Text.substitute Snake.acronymRule (stripPageSuffix page))) ++ "_page" := by
  have asciiName := forall_mem_stripPageSuffix ascii
  refine ⟨?_, Snake.map_toLower_sublist_markWords [] _, ?_⟩
  · rw [toSnake, layerStem, Snake.ofClass_eq_markWords asciiName, List.append_assoc]
    rfl
  · rw [toSnake, layerStem, Snake.ofClass_eq_lower_substitutes asciiName, List.append_assoc]
    rfl

theorem toSnake_myUserIdCard :
    toSnake "myUserIDCard2Page" = "my_userid_card2_page" ∧
      ((stripPageSuffix "myUserIDCard2Page").map Char.toLower).Sublist
        (Snake.markWords [] (stripPageSuffix "myUserIDCard2Page")) := by
  have words := @toSnake_eq_markWords "myUserIDCard2Page" <| List.forall_iff_forall_mem.mp
    (by decide)
  exact ⟨words.1.trans (by decide), words.2.1⟩

end DartRoutes
