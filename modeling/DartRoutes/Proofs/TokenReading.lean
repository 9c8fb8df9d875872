import DartRoutes.Route.Token

/-!
# Reading tokens from the front of a text

A lexeme ends where it says so itself: at its closing quote, at the end of its comment, at the end
of its word. What stands behind it is read as if it stood alone, with the offset and the neighbour
that the lexeme leaves to it. Blanks are read one by one here, although a run of them is one lexeme.
-/

namespace DartRoutes

private theorem blankRanges_apart :
    ∀ blank ∈ blankRanges, ∀ word ∈ letterOrNumeralRanges,
      blank.2 < word.1 ∨ word.2 < blank.1 := by
  decide +kernel

private theorem isAlphanum_eq_false_of_le {character : Char} (low : character.toNat ≤ 0x20) :
    character.isAlphanum = false := by
  have checked : ∀ code < 0x21, (Char.ofNat code).isAlphanum = false := by decide
  have same := checked character.toNat (Nat.lt_succ_of_le low)
  rwa [Char.ofNat_toNat] at same

theorem isWord_eq_false_of_isBlank {character : Char} (blank : isBlank character = true) :
    isWord character = false := by
  obtain ⟨first, last, member, lower, upper⟩ : ∃ first last, (first, last) ∈ blankRanges ∧
      first ≤ character.toNat ∧ character.toNat ≤ last := by
    simpa [isBlank, CodeRanges.hold] using blank
  by_cases ascii : character.toNat < 0x80
  · have low : character.toNat ≤ 0x20 := by
      simp only [blankRanges, List.mem_cons, Prod.mk.injEq, List.not_mem_nil, or_false] at member
      omega
    have notUnderscore : character ≠ '_' := by
      rintro rfl
      exact absurd low (by decide)
    simp [isWord, ascii, isAlphanum_eq_false_of_le low, notUnderscore]
  · rw [isWord, if_neg ascii, CodeRanges.hold, List.any_eq_false]
    intro word wordMember
    have apart := blankRanges_apart _ member word wordMember
    simp only [Bool.and_eq_true, decide_eq_true_eq, not_and, Nat.not_le]
    intro above
    omega

/-- The character in front of what follows a text. -/
def Text.neighbour (before : Option Char) (text : Text) : Option Char :=
  text.getLast?.or before

@[simp] theorem Text.neighbour_nil (before : Option Char) :
    Text.neighbour before [] = before := rfl

@[simp] theorem Text.neighbour_cons (before : Option Char) (character : Char) (text : Text) :
    Text.neighbour before (character :: text) = Text.neighbour (some character) text := by
  cases last : text.getLast? <;> simp [Text.neighbour, List.getLast?_cons, last]

@[simp] theorem Text.neighbour_append (before : Option Char) (left right : Text) :
    Text.neighbour before (left ++ right) = Text.neighbour (Text.neighbour before left) right := by
  simp [Text.neighbour, List.getLast?_append, Option.or_assoc]

namespace Lexeme

/-- A block comment ends at its first closing mark. -/
theorem blockLength?_append {content : Text} (rest : Text)
    (open_ : ¬ ("*/" : Text) <:+: content) :
    blockLength? (content ++ '*' :: '/' :: rest) = some (content.length + 2) := by
  induction content with
  | nil => rfl
  | cons character content induction =>
      have openRest : ¬ ("*/" : Text) <:+: content := fun closing =>
        open_ (List.infix_cons closing)
      have step : blockLength? (character :: (content ++ '*' :: '/' :: rest)) =
          (· + 1) <$> blockLength? (content ++ '*' :: '/' :: rest) := by
        rw [blockLength?]
        rintro more rfl closing
        cases content with
        | nil => simp at closing
        | cons second content =>
            obtain ⟨rfl, -⟩ := by simpa using closing
            exact open_ ⟨[], content, rfl⟩
      simp [step, induction openRest]

end Lexeme

namespace Token

/-- A lexeme that is a token stands in front of the tokens of what follows it. -/
theorem ofText_of_scan {before : Option Char} {first : Char} {kind : Lexeme.Kind}
    {more rest : Text} (offset : Nat)
    (scanned : Lexeme.scan before first (more ++ rest) = (kind, more.length))
    (visible : kind.separates = false) :
    ofText before offset (first :: more ++ rest) =
      ⟨kind, first :: more, offset⟩ ::
        ofText (first :: more).getLast? (offset + (first :: more).length) rest := by
  rw [List.cons_append, ofText, scanned]
  simp [visible]

/-- A lexeme that separates tokens only moves what follows it. -/
theorem ofText_of_scan_separates {before : Option Char} {first : Char} {kind : Lexeme.Kind}
    {more rest : Text} (offset : Nat)
    (scanned : Lexeme.scan before first (more ++ rest) = (kind, more.length))
    (separates : kind.separates = true) :
    ofText before offset (first :: more ++ rest) =
      ofText (first :: more).getLast? (offset + (first :: more).length) rest := by
  rw [List.cons_append, ofText, scanned]
  simp [separates]

private theorem ofText_blankRun {before : Option Char} {character : Char} (offset : Nat)
    (rest : Text) (blank : isBlank character = true) :
    ofText before offset (character :: rest) =
      ofText (character :: rest.takeWhile isBlank).getLast?
        (offset + (character :: rest.takeWhile isBlank).length) (rest.dropWhile isBlank) := by
  have split : rest.takeWhile isBlank ++ rest.dropWhile isBlank = rest :=
    List.takeWhile_append_dropWhile
  have scanned : Lexeme.scan before character
      (rest.takeWhile isBlank ++ rest.dropWhile isBlank) =
        (.blank, (rest.takeWhile isBlank).length) := by
    rw [split]
    unfold Lexeme.scan
    rw [if_pos blank]
  rw [← ofText_of_scan_separates offset scanned rfl, List.cons_append, split]

theorem ofText_blank {before : Option Char} {character : Char} (offset : Nat) (rest : Text)
    (blank : isBlank character = true) :
    ofText before offset (character :: rest) = ofText (some character) (offset + 1) rest := by
  cases rest with
  | nil => exact ofText_blankRun offset [] blank
  | cons next rest =>
      rw [ofText_blankRun offset _ blank]
      by_cases nextBlank : isBlank next = true
      · rw [ofText_blankRun (offset + 1) _ nextBlank, List.takeWhile_cons_of_pos nextBlank,
          List.dropWhile_cons_of_pos nextBlank, List.getLast?_cons_cons]
        simp only [List.length_cons]
        congr 1
        omega
      · rw [List.takeWhile_cons_of_neg nextBlank, List.dropWhile_cons_of_neg nextBlank]
        rfl

theorem ofText_lineComment {content : Text} (before : Option Char) (offset : Nat) (rest : Text)
    (oneLine : '\n' ∉ content) :
    ofText before offset ('/' :: '/' :: content ++ '\n' :: rest) =
      ofText (some '\n') (offset + (content.length + 3)) rest := by
  have line : (content ++ '\n' :: rest).takeWhile (· != '\n') = content := by
    rw [List.takeWhile_append_of_pos]
    · simp
    · intro character member
      exact bne_iff_ne.mpr fun same => oneLine (same ▸ member)
  have scanned : Lexeme.scan before '/' (('/' :: content) ++ '\n' :: rest) =
      (.lineComment, ('/' :: content).length) := by
    simp [Lexeme.scan, line, isBlank, blankRanges, CodeRanges.hold]
  rw [List.cons_append, ← List.cons_append, ofText_of_scan_separates offset scanned rfl,
    ofText_blank _ _ (by decide)]
  simp only [List.length_cons]
  congr 1

theorem ofText_blockComment {content : Text} (before : Option Char) (offset : Nat) (rest : Text)
    (open_ : ¬ ("*/" : Text) <:+: content) :
    ofText before offset ('/' :: '*' :: content ++ '*' :: '/' :: rest) =
      ofText (some '/') (offset + (content.length + 4)) rest := by
  have scanned : Lexeme.scan before '/' (('*' :: content ++ ['*', '/']) ++ rest) =
      (.blockComment, ('*' :: content ++ ['*', '/']).length) := by
    simp [Lexeme.scan, Lexeme.blockLength?_append rest open_, isBlank, blankRanges,
      CodeRanges.hold]
  have last : ('/' :: ('*' :: content ++ ['*', '/'])).getLast? = some '/' := by
    have shape : '/' :: ('*' :: content ++ ['*', '/']) =
        ('/' :: '*' :: content ++ ['*']) ++ ['/'] := by simp
    rw [shape, List.getLast?_concat]
  have moved := ofText_of_scan_separates offset scanned rfl
  rw [last] at moved
  simpa using moved

theorem ofText_string {quote : Char} {written : Text} (before : Option Char) (offset : Nat)
    (rest : Text) (isQuote : quote = '\'' ∨ quote = '"')
    (closed : Lexeme.stringLength? quote (written ++ quote :: rest) = some (written.length + 1)) :
    ofText before offset (quote :: written ++ quote :: rest) =
      ⟨.string, quote :: written ++ [quote], offset⟩ ::
        ofText (some quote) (offset + (written.length + 2)) rest := by
  have scanned : Lexeme.scan before quote ((written ++ [quote]) ++ rest) =
      (.string, (written ++ [quote]).length) := by
    rcases isQuote with rfl | rfl <;>
      simp [Lexeme.scan, closed, isBlank, blankRanges, CodeRanges.hold]
  have read := ofText_of_scan offset scanned rfl
  rw [← List.cons_append, List.getLast?_concat] at read
  simpa using read

private theorem ofText_mark {before : Option Char} {mark : Char} {kind : Lexeme.Kind} (offset : Nat)
    (rest : Text) (isMark : (mark, kind) ∈ [('[', .opening), (']', .closing), (',', .comma)]) :
    ofText before offset (mark :: rest) =
      ⟨kind, [mark], offset⟩ :: ofText (some mark) (offset + 1) rest := by
  have scanned : Lexeme.scan before mark ([] ++ rest) = (kind, ([] : Text).length) ∧
      kind.separates = false := by
    simp only [List.mem_cons, Prod.mk.injEq, List.not_mem_nil, or_false] at isMark
    rcases isMark with ⟨rfl, rfl⟩ | ⟨rfl, rfl⟩ | ⟨rfl, rfl⟩ <;>
      simp [Lexeme.scan, Lexeme.Kind.separates, isBlank, blankRanges, CodeRanges.hold]
  exact ofText_of_scan offset scanned.1 scanned.2

theorem ofText_opening {before : Option Char} (offset : Nat) (rest : Text) :
    ofText before offset ('[' :: rest) =
      ⟨.opening, ['['], offset⟩ :: ofText (some '[') (offset + 1) rest :=
  ofText_mark offset rest (by decide)

theorem ofText_closing {before : Option Char} (offset : Nat) (rest : Text) :
    ofText before offset (']' :: rest) =
      ⟨.closing, [']'], offset⟩ :: ofText (some ']') (offset + 1) rest :=
  ofText_mark offset rest (by decide)

theorem ofText_comma {before : Option Char} (offset : Nat) (rest : Text) :
    ofText before offset (',' :: rest) =
      ⟨.comma, [','], offset⟩ :: ofText (some ',') (offset + 1) rest :=
  ofText_mark offset rest (by decide)

theorem ofText_other {before : Option Char} {character : Char} (offset : Nat) {rest : Text}
    (scanned : Lexeme.scan before character rest = (.other, 0)) :
    ofText before offset (character :: rest) =
      ⟨.other, [character], offset⟩ :: ofText (some character) (offset + 1) rest :=
  @ofText_of_scan before character .other [] rest offset scanned rfl

/-- The word of a flag. -/
def flagWord (flag : Bool) : Text :=
  if flag then "true" else "false"

private theorem flagLength?_flagWord {before : Option Char} {rest : Text} (flag : Bool)
    (freeBefore : isWordAt before = false) (freeBehind : isWordAt rest.head? = false) :
    Lexeme.flagLength? before (flagWord flag ++ rest) = some (flagWord flag).length := by
  have starts : isWordAt (some 't') = true ∧ isWordAt (some 'f') = true := by decide
  have ends : isWordAt (some 'e') = true := by decide
  cases flag with
  | true =>
      have boundary : isBoundary before (some 't') = true ∧
          isBoundary (some 'e') rest.head? = true := by
        simp [isBoundary, freeBefore, freeBehind, starts, ends]
      rw [List.head?_eq_getElem?] at boundary
      simp [flagWord, Lexeme.flagLength?, boundary]
  | false =>
      have boundary : isBoundary before (some 'f') = true ∧
          isBoundary (some 'e') rest.head? = true := by
        simp [isBoundary, freeBefore, freeBehind, starts, ends]
      rw [List.head?_eq_getElem?] at boundary
      simp [flagWord, Lexeme.flagLength?, boundary]

private theorem scan_eq_flag {before : Option Char} {first : Char} {rest : Text} {length : Nat}
    (letter : first = 't' ∨ first = 'f')
    (found : Lexeme.flagLength? before (first :: rest) = some length) :
    Lexeme.scan before first rest = (.flag, length - 1) := by
  have visible : isBlank 't' = false ∧ isBlank 'f' = false := by decide
  rcases letter with rfl | rfl <;> simp [Lexeme.scan, found, visible]

/-- A flag that no word character touches is a token. -/
theorem ofText_flagWord {before : Option Char} {rest : Text} (flag : Bool) (offset : Nat)
    (freeBefore : isWordAt before = false) (freeBehind : isWordAt rest.head? = false) :
    ofText before offset (flagWord flag ++ rest) =
      ⟨.flag, flagWord flag, offset⟩ ::
        ofText (some 'e') (offset + (flagWord flag).length) rest := by
  have found := flagLength?_flagWord flag freeBefore freeBehind
  cases flag with
  | true =>
      have scanned : Lexeme.scan before 't' (['r', 'u', 'e'] ++ rest) = (.flag, 3) :=
        scan_eq_flag (.inl rfl) found
      exact ofText_of_scan offset scanned rfl
  | false =>
      have scanned : Lexeme.scan before 'f' (['a', 'l', 's', 'e'] ++ rest) = (.flag, 4) :=
        scan_eq_flag (.inr rfl) found
      exact ofText_of_scan offset scanned rfl

end Token

end DartRoutes
