import DartRoutes.Text.Markup

/-!
# Tidy markup

What escaping leaves of a text holds no tag that counts, and the styles of the library close each
other, so that a tidy text can always be shown.
-/

namespace DartRoutes.Markup

/-- No tag that starts in front of the text ends in it: an opening bracket comes first. -/
def ClosesNothing (text : Text) : Prop :=
  ∀ inside behind, text = inside ++ ']' :: behind → '[' ∈ inside

theorem closesNothing_bracket (rest : Text) : ClosesNothing ('[' :: rest) := by
  intro inside behind same
  cases inside with
  | nil => cases same
  | cons first inside =>
      cases same
      exact List.mem_cons_self

theorem ClosesNothing.slash {text : Text} (closes : ClosesNothing text) :
    ClosesNothing ('\\' :: text) := by
  intro inside behind same
  cases inside with
  | nil => cases same
  | cons first inside =>
      injection same with _ rest
      exact List.mem_cons_of_mem _ (closes inside behind rest)

/-- The inside of a tag, behind its first character. -/
def IsInside (inside : Text) : Prop :=
  '[' ∉ inside ∧ ']' ∉ inside

theorem takeWhile_inside {inside : Text} (isInside : IsInside inside) (behind : Text) :
    (inside ++ ']' :: behind).takeWhile (fun character => character != '[' && character != ']') =
      inside := by
  have all : ∀ character ∈ inside, (character != '[' && character != ']') = true := by
    intro character member
    have first : character ≠ '[' := fun same => isInside.1 (same ▸ member)
    have second : character ≠ ']' := fun same => isInside.2 (same ▸ member)
    simp [first, second]
  rw [List.takeWhile_append_of_pos all, List.takeWhile_cons_of_neg (by simp), List.append_nil]

theorem tag?_of_inside {first : Char} {inside : Text} (starts : startsTag first = true)
    (isInside : IsInside inside) (behind : Text) :
    tag? ('[' :: first :: (inside ++ ']' :: behind)) = some ('[' :: first :: inside ++ [']']) := by
  simp [tag?, takeWhile_inside isInside, starts]

theorem exists_inside_of_tag? {text tag : Text} (found : tag? text = some tag) :
    ∃ first inside behind, text = '[' :: first :: (inside ++ ']' :: behind) ∧
      startsTag first = true ∧ IsInside inside ∧ tag = '[' :: first :: inside ++ [']'] := by
  unfold tag? at found
  split at found
  · rename_i first rest
    dsimp only at found
    split at found
    · rename_i behind closed
      split at found
      · rename_i starts
        cases found
        refine ⟨first, _, behind, ?_, starts, ⟨?_, ?_⟩, rfl⟩
        · rw [← closed, List.prefix_iff_eq_append.mp (List.takeWhile_prefix _)]
        · intro member
          simpa using List.all_eq_true.mp List.all_takeWhile _ member
        · intro member
          simpa using List.all_eq_true.mp List.all_takeWhile _ member
      · cases found
    · cases found
  · cases found

theorem tag?_eq_none_of_ne {character : Char} (different : character ≠ '[') (rest : Text) :
    tag? (character :: rest) = none := by
  unfold tag?
  split
  · rename_i same
    cases same
    exact absurd rfl different
  · rfl

theorem slashedTag?_slash (text : Text) :
    slashedTag? ('\\' :: text) = (slashedTag? text).map fun found => ('\\' :: found.1, found.2) := by
  simp [slashedTag?, Option.map_map, Function.comp_def]

theorem slashedTag?_of_ne {character : Char} (different : character ≠ '\\') (rest : Text) :
    slashedTag? (character :: rest) = (tag? (character :: rest)).map fun tag => ([], tag) := by
  simp [slashedTag?, different]

/-- What escaping meets: a tag behind backslashes. -/
theorem exists_of_slashedTag? {text slashes tag : Text}
    (found : slashedTag? text = some (slashes, tag)) :
    (∀ character ∈ slashes, character = '\\') ∧
      ∃ first inside behind, text = slashes ++ tag ++ behind ∧ startsTag first = true ∧
        IsInside inside ∧ tag = '[' :: first :: (inside ++ [']']) := by
  rw [slashedTag?, Option.map_eq_some_iff] at found
  obtain ⟨tag, found, same⟩ := found
  cases same
  constructor
  · intro character member
    simpa using List.all_eq_true.mp List.all_takeWhile _ member
  · obtain ⟨first, inside, behind, rest, starts, isInside, rfl⟩ := exists_inside_of_tag? found
    refine ⟨first, inside, behind, ?_, starts, isInside, rfl⟩
    have whole := List.prefix_iff_eq_append.mp (List.takeWhile_prefix (l := text) (· == '\\'))
    rw [rest] at whole
    simpa using whole.symm

@[simp]
theorem escapeTags_nil : escapeTags [] = [] := by
  rw [escapeTags, Text.substitute]

theorem escapeTags_cons_of_none {character : Char} {rest : Text}
    (none : slashedTag? (character :: rest) = none) :
    escapeTags (character :: rest) = character :: escapeTags rest := by
  rw [escapeTags, Text.substitute, none]
  rfl

theorem escapeTags_of_tag {text slashes tag behind : Text}
    (found : slashedTag? text = some (slashes, tag)) (whole : text = slashes ++ tag ++ behind) :
    escapeTags text = slashes ++ slashes ++ '\\' :: (tag ++ escapeTags behind) := by
  obtain ⟨-, first, inside, -, -, -, -, isTag⟩ := exists_of_slashedTag? found
  cases text with
  | nil => simp [isTag] at whole
  | cons character rest =>
      have drops : rest.drop (slashes.length + tag.length - 1) = behind := by
        have dropped : (character :: rest).drop (slashes ++ tag).length = behind := by
          rw [whole, List.drop_left]
        rw [← dropped, List.length_append]
        cases size : slashes.length + tag.length with
        | zero => simp [isTag] at size
        | succ size => rfl
      rw [escapeTags, Text.substitute, found]
      dsimp only [Option.map_some]
      rw [drops]
      simp

theorem tagsFrom_cons {character : Char} {rest : Text} (none : tag? (character :: rest) = none)
    (position : Nat) (isEscaped : Bool) :
    tagsFrom position isEscaped (character :: rest) =
      tagsFrom (position + 1) (character == '\\' && !isEscaped) rest := by
  rw [tagsFrom, none]

/-- Does a text that stands behind `isEscaped` escape the tag that follows it? -/
def escapes (isEscaped : Bool) (text : Text) : Bool :=
  text.foldl (fun isEscaped character => character == '\\' && !isEscaped) isEscaped

theorem tagsFrom_append {text : Text} (noTag : '[' ∉ text) (rest : Text) (position : Nat)
    (isEscaped : Bool) :
    tagsFrom position isEscaped (text ++ rest) =
      tagsFrom (position + text.length) (escapes isEscaped text) rest := by
  induction text generalizing position isEscaped with
  | nil => rfl
  | cons character text induction =>
      rw [List.mem_cons, not_or] at noTag
      obtain ⟨different, noTag⟩ := noTag
      rw [List.cons_append, tagsFrom_cons (tag?_eq_none_of_ne (Ne.symm different) _),
        induction noTag, List.length_cons, Nat.add_assoc, Nat.add_comm 1]
      rfl

theorem not_escapes_bracket (isEscaped : Bool) (text : Text) :
    escapes isEscaped (text ++ [']']) = false := by
  simp [escapes]

theorem escapes_slashes {slashes : Text} (all : ∀ character ∈ slashes, character = '\\')
    (isEscaped : Bool) : escapes isEscaped slashes = (isEscaped ^^ (slashes.length % 2 == 1)) := by
  induction slashes generalizing isEscaped with
  | nil => simp [escapes]
  | cons character slashes induction =>
      obtain ⟨rfl, others⟩ := List.forall_mem_cons.mp all
      have step : escapes isEscaped ('\\' :: slashes) = escapes (!isEscaped) slashes := by
        simp [escapes]
      rw [step, induction others, List.length_cons]
      rcases Nat.mod_two_eq_zero_or_one slashes.length with even | odd
      · simp [even, Nat.add_mod]
      · simp [odd, Nat.add_mod]

/-- A tag counts unless it is escaped, and the text behind it is read anew. -/
theorem tagsFrom_tag {first : Char} {inside : Text} (starts : startsTag first = true)
    (isInside : IsInside inside) (rest : Text) (position : Nat) (isEscaped : Bool) :
    tagsFrom position isEscaped ('[' :: first :: (inside ++ [']']) ++ rest) =
      (if isEscaped then [] else [(position, '[' :: first :: (inside ++ [']']))]) ++
        tagsFrom (position + ('[' :: first :: (inside ++ [']'])).length) false rest := by
  have isNoBracket : first ≠ '[' := by
    rintro rfl
    simp [startsTag] at starts
  have found : tag? ('[' :: (first :: (inside ++ [']']) ++ rest)) =
      some ('[' :: first :: (inside ++ [']'])) := by
    have shape : first :: (inside ++ [']']) ++ rest = first :: (inside ++ ']' :: rest) := by simp
    rw [shape, tag?_of_inside starts isInside]
    rfl
  have behind : tagsFrom (position + 1) false (first :: (inside ++ [']']) ++ rest) =
      tagsFrom (position + ('[' :: first :: (inside ++ [']'])).length) false rest := by
    rw [tagsFrom_append (by simp [isNoBracket.symm, isInside.1]), ← List.cons_append,
      not_escapes_bracket, Nat.add_assoc, Nat.add_comm 1]
    rfl
  rw [List.cons_append, tagsFrom, found]
  cases isEscaped with
  | false => exact congrArg _ behind
  | true => exact behind

/-- A text is escaped one character or one tag after the other. -/
@[elab_as_elim]
theorem escape_induction {motive : Text → Prop} (empty : motive [])
    (keep : ∀ character rest, slashedTag? (character :: rest) = none → motive rest →
      motive (character :: rest))
    (tag : ∀ slashes tag behind, slashedTag? (slashes ++ tag ++ behind) = some (slashes, tag) →
      motive behind → motive (slashes ++ tag ++ behind)) (text : Text) : motive text := by
  match shape : text with
  | [] => exact empty
  | character :: rest =>
      cases found : slashedTag? (character :: rest) with
      | none => exact keep character rest found (escape_induction empty keep tag rest)
      | some parts =>
          obtain ⟨slashes, tagText⟩ := parts
          obtain ⟨-, first, inside, behind, whole, -, -, isTag⟩ := exists_of_slashedTag? found
          have shorter : behind.length < (character :: rest).length := by
            rw [whole, isTag]
            simp
            omega
          rw [whole] at found ⊢
          exact tag slashes tagText behind found (escape_induction empty keep tag behind)
termination_by text.length
decreasing_by
  all_goals simp_all

theorem closesNothing_slashes {slashes text : Text} (all : ∀ character ∈ slashes, character = '\\')
    (closes : ClosesNothing text) : ClosesNothing (slashes ++ text) := by
  induction slashes with
  | nil => exact closes
  | cons character slashes induction =>
      obtain ⟨rfl, others⟩ := List.forall_mem_cons.mp all
      exact (induction others).slash

/-- A bracket that closes something in an escaped text has closed it before. -/
theorem exists_closing {rest : Text} (closes : ClosesNothing rest) (text : Text) :
    ∀ {inside behind : Text}, escapeTags text ++ rest = inside ++ ']' :: behind → '[' ∉ inside →
      ∃ left, text = inside ++ ']' :: left := by
  induction text using escape_induction with
  | empty =>
      intro inside behind same noTag
      rw [escapeTags_nil] at same
      exact absurd (closes inside behind same) noTag
  | keep character text none induction =>
      intro inside behind same noTag
      rw [escapeTags_cons_of_none none] at same
      cases inside with
      | nil =>
          cases same
          exact ⟨text, rfl⟩
      | cons first inside =>
          injection same with head tail
          rw [List.mem_cons, not_or] at noTag
          obtain ⟨left, rfl⟩ := induction tail noTag.2
          exact ⟨left, by rw [head]; rfl⟩
  | tag slashes tag left found induction =>
      intro inside behind same noTag
      obtain ⟨all, first, within, -, -, -, -, isTag⟩ := exists_of_slashedTag? found
      rw [escapeTags_of_tag found rfl, isTag] at same
      have closesAll : ClosesNothing (slashes ++ slashes ++
          '\\' :: ('[' :: first :: (within ++ [']']) ++ escapeTags left) ++ rest) := by
        rw [List.append_assoc, List.append_assoc]
        refine closesNothing_slashes all (closesNothing_slashes all ?_)
        exact (closesNothing_bracket _).slash
      exact absurd (closesAll inside behind same) noTag

/-- Escaping makes no tag where none has been. -/
theorem tag?_escaped {rest text : Text} {character : Char} (closes : ClosesNothing rest)
    (none : slashedTag? (character :: text) = none) :
    tag? (character :: (escapeTags text ++ rest)) = Option.none := by
  by_cases isBracket : character = '['
  · subst isBracket
    rw [slashedTag?_of_ne (by decide), Option.map_eq_none_iff] at none
    cases found : tag? ('[' :: (escapeTags text ++ rest)) with
    | none => rfl
    | some tag =>
        obtain ⟨first, inside, behind, same, starts, isInside, -⟩ := exists_inside_of_tag? found
        injection same with _ same
        have isNoBracket : '[' ∉ first :: inside := by
          rintro (_ | ⟨_, member⟩)
          · simp [startsTag] at starts
          · exact isInside.1 member
        obtain ⟨left, rfl⟩ := exists_closing closes text same isNoBracket
        rw [List.cons_append, tag?_of_inside starts isInside] at none
        cases none
  · exact tag?_eq_none_of_ne isBracket _

theorem escapes_doubled {slashes : Text} (all : ∀ character ∈ slashes, character = '\\') :
    escapes false (slashes ++ slashes ++ ['\\']) = true := by
  have allSlashes : ∀ character ∈ slashes ++ slashes ++ ['\\'], character = '\\' := by
    intro character member
    rcases List.mem_append.mp member with member | member
    · exact (List.mem_append.mp member).elim (all character) (all character)
    · exact List.mem_singleton.mp member
  rw [escapes_slashes allSlashes]
  simp
  omega

/-- The tags of an escaped text are texts. -/
theorem tagsFrom_escapeTags {rest : Text} (closes : ClosesNothing rest) (text : Text)
    (position : Nat) {isEscaped : Bool} (fresh : isEscaped = true → slashedTag? text = none) :
    ∃ escaped, tagsFrom position isEscaped (escapeTags text ++ rest) =
      tagsFrom (position + (escapeTags text).length) escaped rest := by
  induction text using escape_induction generalizing position isEscaped with
  | empty => exact ⟨isEscaped, by rw [escapeTags_nil]; rfl⟩
  | keep character text none induction =>
      have freshBehind : (character == '\\' && !isEscaped) = true →
          slashedTag? text = Option.none := by
        intro escaped
        obtain ⟨isSlash, -⟩ := Bool.and_eq_true_iff.mp escaped
        rw [eq_of_beq isSlash, slashedTag?_slash, Option.map_eq_none_iff] at none
        exact none
      obtain ⟨escaped, same⟩ := induction (position + 1) freshBehind
      refine ⟨escaped, ?_⟩
      rw [escapeTags_cons_of_none none, List.cons_append, tagsFrom_cons (tag?_escaped closes none),
        same, List.length_cons, Nat.add_assoc, Nat.add_comm 1]
  | tag slashes tag behind found induction =>
      obtain ⟨all, first, inside, -, -, starts, isInside, rfl⟩ := exists_of_slashedTag? found
      cases isEscaped with
      | true =>
          rw [fresh rfl] at found
          cases found
      | false =>
          have noTag : '[' ∉ slashes ++ slashes ++ ['\\'] := by
            intro member
            simp only [List.mem_append, List.mem_singleton, or_self] at member
            rcases member with member | member
            · exact absurd (all _ member) (by decide)
            · exact absurd member (by decide)
          have shape : escapeTags (slashes ++ '[' :: first :: (inside ++ [']']) ++ behind) ++ rest =
              (slashes ++ slashes ++ ['\\']) ++ ('[' :: first :: (inside ++ [']']) ++
                (escapeTags behind ++ rest)) := by
            rw [escapeTags_of_tag found rfl]
            simp
          obtain ⟨escaped, same⟩ := @induction
            (position + (slashes ++ slashes ++ ['\\']).length +
              ('[' :: first :: (inside ++ [']'])).length) false nofun
          refine ⟨escaped, ?_⟩
          rw [shape, tagsFrom_append noTag, escapes_doubled all, tagsFrom_tag starts isInside,
            if_pos rfl, List.nil_append, same, escapeTags_of_tag found rfl]
          congr 1
          simp
          omega

theorem escape_eq_or (text : Text) :
    escape text = escapeTags text ∨ escape text = escapeTags text ++ ['\\'] := by
  unfold escape
  dsimp only
  split
  · exact .inr rfl
  · split
    · exact .inl rfl
    · exact .inr rfl
  · exact .inl rfl

/-- No tag of an escaped text counts. -/
theorem tagsFrom_escape (text rest : Text) (position : Nat) :
    ∃ escaped, tagsFrom position false (escape text ++ '[' :: rest) =
      tagsFrom (position + (escape text).length) escaped ('[' :: rest) := by
  rcases escape_eq_or text with same | same
  · rw [same]
    exact tagsFrom_escapeTags (closesNothing_bracket rest) text position nofun
  · obtain ⟨escaped, behind⟩ :=
      @tagsFrom_escapeTags _ (closesNothing_bracket rest).slash text position false nofun
    refine ⟨!escaped, ?_⟩
    rw [same, List.append_assoc, List.singleton_append, behind,
      tagsFrom_cons (tag?_eq_none_of_ne (by decide) _), List.length_append]
    simp [Nat.add_assoc]

/-- A style whose name is read back from its tags as it is written. -/
structure IsStyle (first : Char) (inside : Text) : Prop where
  starts : startsTag first = true
  isOpening : first ≠ '/'
  isInside : IsInside (first :: inside)
  name : (first :: inside ++ [']']).takeWhile
    (fun character => character != '=' && character != ']') = first :: inside
  normal : styleName (first :: inside) = first :: inside

theorem isStyle_of_mem {style : Text} (member : style ∈ styles) :
    ∃ first inside, style = first :: inside ∧ IsStyle first inside := by
  have checked : ∀ style ∈ styles,
      style.head?.any (fun first => startsTag first && first != '/') = true ∧
        '[' ∉ style ∧ ']' ∉ style ∧
        (style ++ [']']).takeWhile (fun character => character != '=' && character != ']') = style ∧
        styleName style = style := by
    decide
  obtain ⟨begins, noOpening, noClosing, name, normal⟩ := checked style member
  cases style with
  | nil => cases begins
  | cons first inside =>
      obtain ⟨starts, isOpening⟩ := Bool.and_eq_true_iff.mp begins
      exact ⟨first, inside, rfl, starts, by simpa using isOpening, ⟨noOpening, noClosing⟩, name,
        normal⟩

namespace IsStyle

variable {first : Char} {inside : Text}

theorem mismatch?_opening (isStyle : IsStyle first inside) (opened : List Text) (position : Nat)
    (tags : List (Nat × Text)) :
    mismatch? opened ((position, '[' :: first :: (inside ++ [']'])) :: tags) =
      mismatch? ((first :: inside) :: opened) tags := by
  have name := isStyle.name
  rw [List.cons_append] at name
  rw [mismatch?.eq_def]
  dsimp only
  rw [List.tail_cons, name]
  split
  · rename_i same
    injection same with isClosing _
    exact absurd isClosing isStyle.isOpening
  · rw [isStyle.normal]

theorem mismatch?_closing (isStyle : IsStyle first inside) (opened : List Text) (position : Nat)
    (tags : List (Nat × Text)) :
    mismatch? ((first :: inside) :: opened)
        ((position, '[' :: '/' :: (first :: inside ++ [']'])) :: tags) =
      mismatch? opened tags := by
  have name : ('/' :: (first :: inside ++ [']'])).takeWhile
      (fun character => character != '=' && character != ']') = '/' :: first :: inside := by
    rw [List.takeWhile_cons_of_pos (by decide), isStyle.name]
  rw [mismatch?.eq_def]
  dsimp only
  rw [List.tail_cons, name]
  simp [isStyle.normal]

theorem tagsFrom_opening (isStyle : IsStyle first inside) (rest : Text) (position : Nat) :
    tagsFrom position false ('[' :: first :: (inside ++ [']']) ++ rest) =
      (position, '[' :: first :: (inside ++ [']'])) ::
        tagsFrom (position + ('[' :: first :: (inside ++ [']'])).length) false rest := by
  have within : IsInside inside := by
    obtain ⟨noOpening, noClosing⟩ := isStyle.isInside
    exact ⟨fun member => noOpening (List.mem_cons_of_mem _ member),
      fun member => noClosing (List.mem_cons_of_mem _ member)⟩
  exact tagsFrom_tag isStyle.starts within rest position false

end IsStyle

theorem escapes_of_not_mem {text : Text} (noSlash : '\\' ∉ text) : escapes false text = false := by
  cases reversed : text.reverse with
  | nil => simp [List.reverse_eq_nil_iff.mp reversed, escapes]
  | cons last front =>
      have shape : text = front.reverse ++ [last] := by
        rw [← List.reverse_reverse text, reversed, List.reverse_cons]
      have different : last ≠ '\\' := by
        rintro rfl
        exact noSlash (shape ▸ List.mem_append_right _ List.mem_cons_self)
      rw [shape]
      simp [escapes, different]

/-- What stands behind a tidy text is looked at as if nothing but open styles stood in front of it. -/
theorem IsTidy.exists_mismatch? {text : Text} (isTidy : IsTidy text) (opened : List Text)
    (position : Nat) (rest : Text) :
    ∃ stillOpened, mismatch? opened (tagsFrom position false (text ++ rest)) =
      mismatch? stillOpened (tagsFrom (position + text.length) false rest) := by
  induction isTidy generalizing opened position rest with
  | @plain text noTag noSlash =>
      exact ⟨opened, by rw [tagsFrom_append noTag, escapes_of_not_mem noSlash]⟩
  | @styled style text member =>
      obtain ⟨first, inside, rfl, isStyle⟩ := isStyle_of_mem member
      have shape : Markup.styled (first :: inside) text ++ rest =
          '[' :: first :: (inside ++ [']']) ++
            (escape text ++ '[' :: '/' :: (first :: inside ++ [']']) ++ rest) := by
        simp [Markup.styled, tagged]
      obtain ⟨escaped, behind⟩ := tagsFrom_escape text ('/' :: (first :: inside ++ [']']) ++ rest)
        (position + ('[' :: first :: (inside ++ [']'])).length)
      have closing := @tagsFrom_tag '/' _ (by decide) isStyle.isInside rest
        (position + ('[' :: first :: (inside ++ [']'])).length + (escape text).length) escaped
      rw [List.cons_append] at closing
      rw [shape, isStyle.tagsFrom_opening, isStyle.mismatch?_opening, List.append_assoc,
        List.cons_append, behind, closing]
      have size : position + ('[' :: first :: (inside ++ [']'])).length + (escape text).length +
          ('[' :: '/' :: (first :: inside ++ [']'])).length =
            position + (Markup.styled (first :: inside) text).length := by
        simp [Markup.styled, tagged]
        omega
      rw [size]
      -- Backslashes at the end of the text may escape the closing tag; then the style stays open.
      cases escaped with
      | true => exact ⟨(first :: inside) :: opened, rfl⟩
      | false => exact ⟨opened, isStyle.mismatch?_closing opened _ _⟩
  | @append left right _ _ first second =>
      obtain ⟨between, first⟩ := first opened position (right ++ rest)
      obtain ⟨stillOpened, second⟩ := second between (position + left.length) rest
      refine ⟨stillOpened, ?_⟩
      rw [List.append_assoc, first, second, List.length_append, Nat.add_assoc]

theorem escapeTags_of_not_mem {text : Text} (noTag : '[' ∉ text) : escapeTags text = text := by
  induction text with
  | nil => exact escapeTags_nil
  | cons character text induction =>
      have none : slashedTag? (character :: text) = Option.none := by
        cases found : slashedTag? (character :: text) with
        | none => rfl
        | some parts =>
            obtain ⟨-, first, inside, behind, whole, -, -, isTag⟩ := exists_of_slashedTag? found
            rw [whole, isTag] at noTag
            simp at noTag
      rw [escapeTags_cons_of_none none, induction fun member => noTag (.tail _ member)]

theorem escape_of_not_mem {text : Text} (noTag : '[' ∉ text) (noSlash : '\\' ∉ text) :
    escape text = text := by
  have noSlashBehind : '\\' ∉ text.reverse := fun member => noSlash (List.mem_reverse.mp member)
  unfold escape
  dsimp only
  rw [escapeTags_of_not_mem noTag]
  split
  · rename_i reversed
    simp [reversed] at noSlashBehind
  · rename_i reversed
    simp [reversed] at noSlashBehind
  · rfl

/-- A plain text between the tags of a style is tidy. -/
theorem IsTidy.tagged {style text : Text} (known : style ∈ styles) (noTag : '[' ∉ text)
    (noSlash : '\\' ∉ text) : IsTidy (tagged style text) := by
  have tidy := IsTidy.styled text known
  rwa [Markup.styled, escape_of_not_mem noTag noSlash] at tidy

/-- A tidy text can be shown. -/
theorem IsTidy.fault? {text : Text} (isTidy : IsTidy text) : fault? text = none := by
  obtain ⟨opened, same⟩ := isTidy.exists_mismatch? [] 0 []
  rw [List.append_nil] at same
  rw [Markup.fault?, same]
  rfl

end DartRoutes.Markup
