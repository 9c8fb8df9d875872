import DartRoutes.Naming

/-!
# Characters of derived names

File stems and constant names are made from page names by dropping the suffix, changing the case of
letters and joining words with underscores. So they consist of characters of any class that the
page names keep to, if the class has the underscore and changes of case do not lead out of it. The
same is true of the names of resource constants, for which words change to upper case as well.
-/

namespace DartRoutes

/-- A class of characters with the underscore that no change to lower case leads out of. -/
structure CaseClosed (property : Char → Prop) : Prop where
  underscore : property '_'
  finalSigma : property 'Σ' → property 'ς'
  lowered : ∀ character, property character → ∀ lowered ∈ lowerCharacter character, property lowered

/-- A class of characters that no change of case leads out of. -/
structure CaseStable (property : Char → Prop) : Prop extends CaseClosed property where
  uppered : ∀ character, property character → ∀ upper ∈ upperCharacter character, property upper

/-- Only capitals change, and each by the distance from the capitals to the small letters. -/
theorem toLower_cases (character : Char) :
    character.toLower = character ∨
      65 ≤ character.toNat ∧ character.toNat ≤ 90 ∧
        character.toLower.toNat = character.toNat + 32 := by
  unfold Char.toLower
  split
  · rename_i isUpper
    have first : 65 ≤ character.val.toNat := UInt32.le_iff_toNat_le.mp isUpper.1
    have last : character.val.toNat ≤ 90 := UInt32.le_iff_toNat_le.mp isUpper.2
    refine .inr ⟨first, last, ?_⟩
    have offset : ('a'.val - 'A'.val).toNat = 32 := rfl
    change (character.val + ('a'.val - 'A'.val)).toNat = character.val.toNat + 32
    rw [UInt32.toNat_add, offset, Nat.mod_eq_of_lt (by omega)]
  · exact .inl rfl

theorem toLower_of_not_ascii {character : Char} (beyond : ¬ character.toNat < 0x80) :
    character.toLower = character := by
  rcases toLower_cases character with same | ⟨-, last, -⟩
  · exact same
  · omega

theorem toUpper_cases (character : Char) :
    character.toUpper = character ∨
      97 ≤ character.toNat ∧ character.toNat ≤ 122 ∧
        character.toUpper.toNat + 32 = character.toNat := by
  unfold Char.toUpper
  split
  · rename_i isLower
    have first : 97 ≤ character.val.toNat := UInt32.le_iff_toNat_le.mp isLower.1
    have last : character.val.toNat ≤ 122 := UInt32.le_iff_toNat_le.mp isLower.2
    refine .inr ⟨first, last, ?_⟩
    have offset : ('A'.val - 'a'.val).toNat = 4294967264 := rfl
    change (character.val + ('A'.val - 'a'.val)).toNat + 32 = character.val.toNat
    rw [UInt32.toNat_add, offset]
    omega
  · exact .inl rfl

/-- A code that belongs to no character stands for the null character. -/
theorem toNat_ofNat_cases (code : Nat) :
    (Char.ofNat code).toNat = code ∨ Char.ofNat code = '\x00' := by
  by_cases valid : code.isValidChar
  · left
    rw [Char.ofNat, dif_pos valid]
    rfl
  · right
    rw [Char.ofNat, dif_neg valid]
    rfl

/-- A case mapping leads to nothing that its tables do not lead to. -/
theorem forall_mem_mapCase {property : Char → Prop} {runs : List CaseRun}
    {sequences : List (Nat × List Nat)} {character : Char}
    (runsHold : ∀ run ∈ runs, ∀ code target, run.target? code = some target →
      property (Char.ofNat target))
    (sequencesHold : ∀ entry ∈ sequences, ∀ code ∈ entry.2, property (Char.ofNat code))
    (holds : property character) :
    ∀ mapped ∈ mapCase runs sequences character, property mapped := by
  rw [mapCase]
  split
  · rename_i codes found
    intro mapped member
    obtain ⟨code, codeMember, rfl⟩ := List.mem_map.mp member
    obtain ⟨before, behind, split, _⟩ := List.lookup_eq_some_iff.mp found
    refine sequencesHold (character.toNat, codes) ?_ code codeMember
    rw [split]
    exact List.mem_append_right before List.mem_cons_self
  · split
    · rename_i target found
      obtain ⟨run, member, isTarget⟩ := List.exists_of_findSome?_eq_some found
      exact List.forall_mem_singleton.mpr (runsHold run member _ _ isTarget)
    · exact List.forall_mem_singleton.mpr holds

theorem CaseRun.target?_bounds {run : CaseRun} {code target : Nat}
    (found : run.target? code = some target) :
    (run.first : Int) + run.offset ≤ target ∧ (target : Int) ≤ run.last + run.offset ∨
      target = 0 := by
  rw [target?] at found
  split at found
  · rename_i inside
    simp only [Bool.and_eq_true, decide_eq_true_eq] at inside
    cases found
    omega
  · cases found

/-- A substitution brings nothing into a text that its rule does not bring. -/
theorem Text.forall_mem_substitute {property : Char → Prop} {rule : Text → Option (Nat × Text)}
    (keeps : ∀ text further replacement, rule text = some (further, replacement) →
      (∀ character ∈ text, property character) → ∀ character ∈ replacement, property character)
    {text : Text} (holds : ∀ character ∈ text, property character) :
    ∀ character ∈ Text.substitute rule text, property character := by
  fun_induction Text.substitute rule text with
  | case1 => exact holds
  | case2 character rest unchanged induction =>
      obtain ⟨first, others⟩ := List.forall_mem_cons.mp holds
      exact List.forall_mem_cons.mpr ⟨first, induction others⟩
  | case3 character rest further replacement changed induction =>
      obtain ⟨-, others⟩ := List.forall_mem_cons.mp holds
      refine List.forall_mem_append.mpr ⟨keeps _ _ _ changed holds, induction ?_⟩
      exact fun other member => others other (List.drop_subset _ _ member)

theorem Text.mem_substitute {rule : Text → Option (Nat × Text)} {kept : Char}
    (passes : ∀ text further replacement, rule text = some (further, replacement) →
      kept ∉ text.take (further + 1))
    {text : Text} (member : kept ∈ text) : kept ∈ Text.substitute rule text := by
  fun_induction Text.substitute rule text with
  | case1 => exact member
  | case2 character rest unchanged induction =>
      rcases List.mem_cons.mp member with rfl | further
      · exact List.mem_cons_self
      · exact List.mem_cons_of_mem _ (induction further)
  | case3 character rest further replacement changed induction =>
      have notTaken := passes _ _ _ changed
      rw [← List.take_append_drop (further + 1) (character :: rest)] at member
      have left : kept ∈ rest.drop further := (List.mem_append.mp member).resolve_left notTaken
      exact List.mem_append_right _ (induction left)

theorem Text.forall_mem_splitOnP {property : Char → Prop} {separates : Char → Bool} {text : Text}
    (holds : ∀ character ∈ text, property character) :
    ∀ piece ∈ text.splitOnP separates, ∀ character ∈ piece, property character := by
  induction text with
  | nil => exact List.forall_mem_singleton.mpr holds
  | cons character rest induction =>
      obtain ⟨first, others⟩ := List.forall_mem_cons.mp holds
      have pieces := induction others
      rw [List.splitOnP_cons_eq_if_modifyHead]
      split
      · exact List.forall_mem_cons.mpr ⟨List.forall_mem_nil _, pieces⟩
      · cases split : rest.splitOnP separates with
        | nil => exact List.forall_mem_nil _
        | cons head tail =>
            rw [split] at pieces
            obtain ⟨inHead, inTail⟩ := List.forall_mem_cons.mp pieces
            exact List.forall_mem_cons.mpr ⟨List.forall_mem_cons.mpr ⟨first, inHead⟩, inTail⟩

theorem Text.not_separates_of_mem_splitOnP {separates : Char → Bool} (text : Text) :
    ∀ piece ∈ text.splitOnP separates, ∀ character ∈ piece, separates character = false := by
  induction text with
  | nil => exact List.forall_mem_singleton.mpr (List.forall_mem_nil _)
  | cons character rest induction =>
      rw [List.splitOnP_cons_eq_if_modifyHead]
      split
      · exact List.forall_mem_cons.mpr ⟨List.forall_mem_nil _, induction⟩
      · rename_i inside
        cases split : rest.splitOnP separates with
        | nil => exact List.forall_mem_nil _
        | cons head tail =>
            rw [split] at induction
            obtain ⟨inHead, inTail⟩ := List.forall_mem_cons.mp induction
            exact List.forall_mem_cons.mpr
              ⟨List.forall_mem_cons.mpr ⟨Bool.eq_false_iff.mpr inside, inHead⟩, inTail⟩

theorem forall_mem_stripPageSuffix {property : Char → Prop} {name : Text}
    (holds : ∀ character ∈ name, property character) :
    ∀ character ∈ stripPageSuffix name, property character := by
  rw [stripPageSuffix, Text.withoutEnding?]
  split
  · exact fun character member => holds character (List.take_subset _ _ member)
  · exact holds

namespace CaseClosed

variable {property : Char → Prop} (closed : CaseClosed property)

include closed

theorem toLower {character : Char} (holds : property character) : property character.toLower := by
  by_cases ascii : character.toNat < 0x80
  · apply closed.lowered character holds
    rw [lowerCharacter, if_pos ascii]
    exact List.mem_singleton.mpr rfl
  · rw [toLower_of_not_ascii ascii]
    exact holds

theorem lower {text : Text} (holds : ∀ character ∈ text, property character) :
    ∀ character ∈ text.lower, property character := by
  have lowered : ∀ before : Text, ∀ character ∈ Text.lowerAfter before text,
      property character := by
    induction text with
    | nil => exact fun _ => nofun
    | cons character rest induction =>
        intro before
        obtain ⟨first, others⟩ := List.forall_mem_cons.mp holds
        rw [Text.lowerAfter]
        refine List.forall_mem_append.mpr ⟨?_, induction others _⟩
        split
        · rename_i sigma
          exact List.forall_mem_singleton.mpr (closed.finalSigma (sigma.1 ▸ first))
        · exact closed.lowered character first
  exact lowered []

theorem acronymRule {text replacement : Text} {further : Nat}
    (changed : Snake.acronymRule text = some (further, replacement))
    (holds : ∀ character ∈ text, property character) :
    ∀ character ∈ replacement, property character := by
  rw [Snake.acronymRule] at changed
  split at changed
  · rename_i last next rest ending following
    split at changed
    · cases changed
      have inRun : ∀ capital ∈ text.takeWhile Char.isUpper, property capital :=
        fun capital member => holds capital (List.takeWhile_subset _ member)
      have holdsNext : property next :=
        holds next (List.dropWhile_subset _ (following ▸ List.mem_cons_self))
      refine List.forall_mem_append.mpr ⟨?_, ?_⟩
      · intro character member
        obtain ⟨capital, capitalMember, rfl⟩ := List.mem_map.mp member
        exact closed.toLower (inRun capital (List.dropLast_subset _ capitalMember))
      · refine List.forall_mem_cons.mpr ⟨closed.underscore, List.forall_mem_cons.mpr ⟨?_, ?_⟩⟩
        · exact closed.toLower (inRun last (List.mem_of_getLast? ending))
        · exact List.forall_mem_singleton.mpr holdsNext
    · cases changed
  · cases changed

theorem wordRule {text replacement : Text} {further : Nat}
    (changed : Snake.wordRule text = some (further, replacement))
    (holds : ∀ character ∈ text, property character) :
    ∀ character ∈ replacement, property character := by
  rw [Snake.wordRule.eq_def] at changed
  split at changed
  · rename_i first second rest
    split at changed
    · cases changed
      obtain ⟨holdsFirst, others⟩ := List.forall_mem_cons.mp holds
      obtain ⟨holdsSecond, -⟩ := List.forall_mem_cons.mp others
      refine List.forall_mem_cons.mpr ⟨holdsFirst, List.forall_mem_cons.mpr ⟨closed.underscore, ?_⟩⟩
      exact List.forall_mem_singleton.mpr (closed.toLower holdsSecond)
    · cases changed
  · cases changed

theorem pairRule {text replacement : Text} {further : Nat}
    (changed : Snake.pairRule text = some (further, replacement))
    (holds : ∀ character ∈ text, property character) :
    ∀ character ∈ replacement, property character := by
  rw [Snake.pairRule.eq_def] at changed
  split at changed
  · rename_i first second rest
    split at changed
    · cases changed
      obtain ⟨holdsFirst, others⟩ := List.forall_mem_cons.mp holds
      obtain ⟨holdsSecond, -⟩ := List.forall_mem_cons.mp others
      refine List.forall_mem_cons.mpr ⟨closed.toLower holdsFirst, ?_⟩
      exact List.forall_mem_singleton.mpr (closed.toLower holdsSecond)
    · cases changed
  · cases changed

theorem ofClass {name : Text} (holds : ∀ character ∈ name, property character) :
    ∀ character ∈ Snake.ofClass name, property character := by
  apply closed.lower
  apply Text.forall_mem_substitute fun _ _ _ => closed.pairRule
  apply Text.forall_mem_substitute fun _ _ _ => closed.wordRule
  exact Text.forall_mem_substitute (fun _ _ _ => closed.acronymRule) holds

theorem toRouteName {page : Text} (holds : ∀ character ∈ page, property character) :
    ∀ character ∈ toRouteName page, property character := by
  have stripped := forall_mem_stripPageSuffix holds
  rw [DartRoutes.toRouteName]
  split
  · exact fun character member => absurd member List.not_mem_nil
  · rename_i first rest found
    rw [found] at stripped
    obtain ⟨holdsFirst, others⟩ := List.forall_mem_cons.mp stripped
    have lowered := closed.lower (List.forall_mem_singleton.mpr holdsFirst)
    exact List.forall_mem_append.mpr ⟨lowered, others⟩

theorem layerStem {page layer : Text} (holds : ∀ character ∈ page, property character)
    (holdsLayer : ∀ character ∈ layer, property character) :
    ∀ character ∈ layerStem page layer, property character := by
  have stem := closed.ofClass (forall_mem_stripPageSuffix holds)
  have joined := List.forall_mem_append.mpr
    ⟨stem, List.forall_mem_singleton.mpr closed.underscore⟩
  exact List.forall_mem_append.mpr ⟨joined, holdsLayer⟩

end CaseClosed

namespace CaseStable

variable {property : Char → Prop} (stable : CaseStable property)

include stable

theorem capitalize {word : Text} (holds : ∀ character ∈ word, property character) :
    ∀ character ∈ capitalize word, property character := by
  cases word with
  | nil => exact holds
  | cons first rest =>
      obtain ⟨holdsFirst, others⟩ := List.forall_mem_cons.mp holds
      refine List.forall_mem_append.mpr ⟨?_, stable.lower others⟩
      rw [Text.upper, List.flatMap_cons, List.flatMap_nil, List.append_nil]
      exact stable.uppered first holdsFirst

/-- The separators of a resource name are left out of its words. -/
theorem toCamel_of_words {name : Text}
    (words : ∀ word ∈ name.splitOnP isResourceSeparator, ∀ character ∈ word,
      property character) :
    ∀ character ∈ toCamel name, property character := by
  rw [DartRoutes.toCamel]
  split
  · exact List.forall_mem_nil _
  · rename_i head rest found
    rw [found] at words
    obtain ⟨holdsHead, others⟩ := List.forall_mem_cons.mp words
    refine List.forall_mem_append.mpr ⟨stable.lower holdsHead, ?_⟩
    exact List.forall_mem_flatMap.mpr fun word member => stable.capitalize (others word member)

theorem toCamel {name : Text} (holds : ∀ character ∈ name, property character) :
    ∀ character ∈ toCamel name, property character :=
  stable.toCamel_of_words (Text.forall_mem_splitOnP holds)

theorem and {other : Char → Prop} (otherStable : CaseStable other) :
    CaseStable fun character => property character ∧ other character where
  underscore := ⟨stable.underscore, otherStable.underscore⟩
  finalSigma := fun holds => ⟨stable.finalSigma holds.1, otherStable.finalSigma holds.2⟩
  lowered := fun character holds lowered member =>
    ⟨stable.lowered character holds.1 lowered member,
      otherStable.lowered character holds.2 lowered member⟩
  uppered := fun character holds upper member =>
    ⟨stable.uppered character holds.1 upper member,
      otherStable.uppered character holds.2 upper member⟩

end CaseStable

section Excluded

variable {excluded : Char} {limit : Nat} (low : excluded.toNat ≤ limit)

include low

theorem ne_of_low_lt {character : Char} (beyond : limit < character.toNat) :
    character ≠ excluded := by
  rintro rfl
  omega

theorem ofNat_ne {code : Nat} (visible : excluded ≠ '\x00') (beyond : limit < code ∨ code = 0) :
    Char.ofNat code ≠ excluded := by
  rcases toNat_ofNat_cases code with kept | null
  · rcases beyond with beyond | rfl
    · exact ne_of_low_lt low (kept.symm ▸ beyond)
    · exact visible.symm
  · rw [null]
    exact visible.symm

theorem mapCase_ne {runs : List CaseRun} {sequences : List (Nat × List Nat)}
    (runsBeyond : ∀ run ∈ runs, limit < run.first + run.offset)
    (sequencesBeyond : ∀ entry ∈ sequences, ∀ code ∈ entry.2, limit < code)
    (visible : excluded ≠ '\x00') {character : Char} (differs : character ≠ excluded) :
    ∀ mapped ∈ mapCase runs sequences character, mapped ≠ excluded := by
  refine forall_mem_mapCase ?_ ?_ differs
  · intro run member code target found
    have beyond := runsBeyond run member
    apply ofNat_ne low visible
    rcases CaseRun.target?_bounds found with ⟨first, -⟩ | zero
    · exact .inl (by omega)
    · exact .inr zero
  · exact fun entry member code inside =>
      ofNat_ne low visible (.inl (sequencesBeyond entry member code inside))

end Excluded

section CaseOfMarks

variable {excluded : Char} (visible : excluded ≠ '\x00')

include visible

/-- Changes to lower case lead to small letters, and to none of the characters before them. -/
theorem caseClosed_ne (low : excluded.toNat ≤ 94) :
    CaseClosed fun character => character ≠ excluded where
  underscore := ne_of_low_lt low (by decide)
  finalSigma := fun _ => ne_of_low_lt low (by decide)
  lowered := by
    intro character differs
    rw [lowerCharacter]
    split
    · refine List.forall_mem_singleton.mpr ?_
      rcases toLower_cases character with same | ⟨first, -, moved⟩
      · rw [same]
        exact differs
      · exact ne_of_low_lt low (by omega)
    · exact mapCase_ne low (by decide +kernel) (by decide +kernel) visible differs

/-- Changes of case lead to letters, and to none of the marks below the letters. -/
theorem caseStable_ne (low : excluded.toNat ≤ 61) :
    CaseStable fun character => character ≠ excluded where
  toCaseClosed := caseClosed_ne visible (Nat.le_trans low (by decide))
  uppered := by
    intro character differs
    rw [upperCharacter]
    split
    · refine List.forall_mem_singleton.mpr ?_
      rcases toUpper_cases character with same | ⟨first, -, moved⟩
      · rw [same]
        exact differs
      · exact ne_of_low_lt low (by omega)
    · exact mapCase_ne low (by decide +kernel) (by decide +kernel) visible differs

end CaseOfMarks

/-! ## Marks that names keep -/

theorem isAlpha_iff {character : Char} :
    character.isAlpha ↔ character.isUpper ∨ character.isLower :=
  Bool.or_eq_true_iff

/-- The rules for class names take letters only. -/
theorem isAlpha_of_mem_take_acronymRule {text replacement : Text} {further : Nat}
    (changed : Snake.acronymRule text = some (further, replacement)) :
    ∀ character ∈ text.take (further + 1), character.isAlpha := by
  have capitals := List.all_eq_true.mp (@List.all_takeWhile _ Char.isUpper text)
  have parts := List.takeWhile_append_dropWhile (p := Char.isUpper) (l := text)
  rw [Snake.acronymRule] at changed
  generalize text.takeWhile Char.isUpper = run at capitals parts changed
  split at changed
  · rename_i last next rest ending following
    rw [following] at parts
    split at changed
    · rename_i long
      cases changed
      have length : (run ++ [next]).length = run.length + 1 := List.length_append
      rw [← parts, List.append_cons, List.take_left' length]
      refine List.forall_mem_append.mpr ⟨?_, List.forall_mem_singleton.mpr ?_⟩
      · intro character member
        exact isAlpha_iff.mpr (.inl (capitals character member))
      · exact isAlpha_iff.mpr (.inr long.2)
    · cases changed
  · cases changed

theorem isAlpha_of_mem_take_wordRule {text replacement : Text} {further : Nat}
    (changed : Snake.wordRule text = some (further, replacement)) :
    ∀ character ∈ text.take (further + 1), character.isAlpha := by
  rw [Snake.wordRule.eq_def] at changed
  split at changed
  · split at changed
    · rename_i letters
      cases changed
      simp [isAlpha_iff, letters]
    · cases changed
  · cases changed

theorem isAlpha_of_mem_take_pairRule {text replacement : Text} {further : Nat}
    (changed : Snake.pairRule text = some (further, replacement)) :
    ∀ character ∈ text.take (further + 1), character.isAlpha := by
  rw [Snake.pairRule.eq_def] at changed
  split at changed
  · split at changed
    · rename_i letters
      cases changed
      simp [isAlpha_iff, letters]
    · cases changed
  · cases changed

theorem mem_stripPageSuffix {mark : Char} {name : Text} (noLetter : mark.isAlpha = false)
    (member : mark ∈ name) : mark ∈ stripPageSuffix name := by
  rw [stripPageSuffix, Text.withoutEnding?]
  split
  · rename_i isSuffix
    obtain ⟨stem, rfl⟩ := List.isSuffixOf_iff_suffix.mp isSuffix
    rw [Option.getD_some, List.take_left' (by rw [List.length_append, Nat.add_sub_cancel])]
    refine (List.mem_append.mp member).resolve_right fun inSuffix => ?_
    have letters : ∀ letter ∈ pageSuffix, letter.isAlpha := List.all_eq_true.mp (by decide)
    exact Bool.false_ne_true (noLetter.symm.trans (letters mark inSuffix))
  · exact member

theorem toLower_of_not_letter {character : Char} (noLetter : character.isAlpha = false) :
    character.toLower = character := by
  have noCapital : ¬ character.isUpper := Bool.eq_false_iff.mp (Bool.or_eq_false_iff.mp noLetter).1
  unfold Char.toLower
  split
  · rename_i capital
    exact absurd (decide_eq_true capital) noCapital
  · rfl

theorem Text.mem_lower {mark : Char} {text : Text} (ascii : mark.toNat < 0x80)
    (notUpper : mark.toLower = mark) (member : mark ∈ text) : mark ∈ text.lower := by
  have lowered : ∀ before : Text, mark ∈ Text.lowerAfter before text := by
    induction text with
    | nil => cases member
    | cons character rest induction =>
        intro before
        rw [Text.lowerAfter]
        rcases List.mem_cons.mp member with rfl | further
        · have noSigma : mark ≠ 'Σ' := by
            rintro rfl
            exact absurd ascii (by decide)
          simp [noSigma, lowerCharacter, ascii, notUpper]
        · exact List.mem_append_right _ (induction further _)
  exact lowered []

/-- A mark of a page name is found again in the stems of its files. -/
theorem mem_layerStem_iff {mark : Char} {page layer : Text} (low : mark.toNat ≤ 94)
    (visible : mark ≠ '\x00') (noLetter : mark.isAlpha = false) (notInLayer : mark ∉ layer) :
    mark ∈ layerStem page layer ↔ mark ∈ page := by
  have letter {text : Text} {count : Nat}
      (letters : ∀ character ∈ text.take count, character.isAlpha) : mark ∉ text.take count :=
    fun taken => Bool.false_ne_true (noLetter.symm.trans (letters mark taken))
  constructor
  · intro inStem
    apply Decidable.byContradiction
    intro notInPage
    have others {text : Text} (notInText : mark ∉ text) : ∀ character ∈ text, character ≠ mark :=
      fun character member same => notInText (same ▸ member)
    exact (caseClosed_ne visible low).layerStem (others notInPage) (others notInLayer) _ inStem rfl
  · intro inPage
    have ascii : mark.toNat < 0x80 := by omega
    have stem : mark ∈ Snake.ofClass (stripPageSuffix page) := by
      apply Text.mem_lower ascii (toLower_of_not_letter noLetter)
      apply Text.mem_substitute fun _ _ _ changed => letter (isAlpha_of_mem_take_pairRule changed)
      apply Text.mem_substitute fun _ _ _ changed => letter (isAlpha_of_mem_take_wordRule changed)
      apply Text.mem_substitute fun _ _ _ changed =>
        letter (isAlpha_of_mem_take_acronymRule changed)
      exact mem_stripPageSuffix noLetter inPage
    exact List.mem_append_left layer (List.mem_append_left _ stem)

end DartRoutes
