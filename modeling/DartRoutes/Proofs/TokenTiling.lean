import DartRoutes.Proofs.TableClosing
import DartRoutes.Proofs.TableLayout
import DartRoutes.Proofs.TablePlace
import Mathlib.Data.List.TakeWhile

/-!
# Tokens as parts of their text

A text is tiled by its tokens: each stands where its offset says, and between two of them, in front
of the first and behind the last is nothing but blanks and comments. No token starts like a blank or
a comment, so these are exactly what the tokens leave out.
-/

namespace DartRoutes

namespace Lexeme

theorem closingMark_infix_cons_iff {character : Char} {text : Text} :
    ("*/" : Text) <:+: character :: text ↔
      (character = '*' ∧ ∃ rest, text = '/' :: rest) ∨ ("*/" : Text) <:+: text := by
  have mark : ("*/" : Text) = ['*', '/'] := rfl
  rw [List.infix_cons_iff, mark, List.cons_prefix_cons]
  cases text with
  | nil => simp
  | cons second text => simp [eq_comm]

theorem exists_of_blockLength? {text : Text} {length : Nat}
    (closed : blockLength? text = some length) :
    ∃ content rest, text = content ++ '*' :: '/' :: rest ∧ ¬ ("*/" : Text) <:+: content := by
  fun_induction blockLength? text generalizing length with
  | case1 => cases closed
  | case2 rest => exact ⟨[], rest, rfl, by simp⟩
  | case3 character text notClosing induction =>
      obtain ⟨further, closedRest, -⟩ := Option.map_eq_some_iff.mp closed
      obtain ⟨content, rest, rfl, open_⟩ := induction closedRest
      refine ⟨character :: content, rest, rfl, ?_⟩
      intro closing
      rcases closingMark_infix_cons_iff.mp closing with ⟨rfl, more, rfl⟩ | inside
      · exact notClosing _ rfl rfl
      · exact open_ inside

theorem open_of_blockLength? {text : Text} (unclosed : blockLength? text = none) :
    ¬ ("*/" : Text) <:+: text := by
  fun_induction blockLength? text with
  | case1 => simp
  | case2 => cases unclosed
  | case3 character text notClosing induction =>
      intro closing
      rcases closingMark_infix_cons_iff.mp closing with ⟨rfl, more, rfl⟩ | inside
      · exact notClosing _ rfl rfl
      · exact induction (by simpa using unclosed) inside

/-- A text that starts with no blank and no complete comment. -/
structure StartsVisibly (text : Text) : Prop where
  noBlank : ∀ character ∈ text.head?, isBlank character = false
  noLine : ¬ ("//" : Text) <+: text
  noBlock : ∀ rest, text = "/*" ++ rest → ¬ ("*/" : Text) <:+: rest

/-- The beginnings of a text: the end, a gap, a comment on the last line, or a token. -/
inductive Beginning : Text → Prop where
  | ends : Beginning []
  | gap {gap rest : Text} : Layout.Gap gap → gap ≠ [] → Beginning (gap ++ rest)
  | lastComment {content : Text} : '\n' ∉ content → Beginning ("//" ++ content)
  | visible {text : Text} : text ≠ [] → StartsVisibly text → Beginning text

theorem beginning (text : Text) : Beginning text := by
  by_cases empty : text = []
  · rw [empty]
    exact .ends
  · by_cases blank : ∃ character rest, text = character :: rest ∧ isBlank character = true
    · obtain ⟨character, rest, rfl, isBlank⟩ := blank
      exact .gap (.blank isBlank .nil) (List.cons_ne_nil _ _)
    · by_cases line : ("//" : Text) <+: text
      · obtain ⟨comment, rfl⟩ := line
        by_cases feed : '\n' ∈ comment
        · obtain ⟨content, rest, rfl, oneLine⟩ := List.eq_append_cons_of_mem feed
          have gap := Layout.Gap.lineComment oneLine .nil
          have begins := @Beginning.gap _ rest gap (by simp)
          simpa using begins
        · exact .lastComment feed
      · by_cases block : ∃ rest, text = "/*" ++ rest ∧ ("*/" : Text) <:+: rest
        · obtain ⟨comment, rfl, closes⟩ := block
          cases closed : blockLength? comment with
          | none => exact absurd closes (open_of_blockLength? closed)
          | some length =>
              obtain ⟨content, rest, rfl, open_⟩ := exists_of_blockLength? closed
              have gap := Layout.Gap.blockComment open_ .nil
              have begins := @Beginning.gap _ rest gap (by simp)
              simpa using begins
        · apply Beginning.visible empty
          constructor
          · intro character head
            obtain ⟨rest, rfl⟩ := List.head?_eq_some_iff.mp head
            exact Bool.eq_false_iff.mpr fun isBlank => blank ⟨character, rest, rfl, isBlank⟩
          · exact line
          · exact fun rest same closes => block ⟨rest, same, closes⟩

theorem separates_scan {before : Option Char} {first : Char} {rest : Text}
    (visible : StartsVisibly (first :: rest)) : (scan before first rest).1.separates = false := by
  have notBlank : ¬ isBlank first = true := by
    rw [visible.noBlank first rfl]
    exact Bool.false_ne_true
  unfold scan
  rw [if_neg notBlank]
  split
  · exact absurd ⟨_, rfl⟩ visible.noLine
  · rename_i more
    cases closed : blockLength? more with
    | none => rfl
    | some length =>
        obtain ⟨content, behind, rfl, -⟩ := exists_of_blockLength? closed
        exact absurd ⟨content, behind, by simp⟩ (visible.noBlock _ rfl)
  · rfl
  · rfl
  · rfl
  · split <;> rfl
  · split <;> rfl
  · split <;> rfl

/-- A flag with no word character on either side. -/
structure IsLoneFlag (before : Option Char) (lexeme : Text) (behind : Option Char) : Prop where
  word : lexeme = "true" ∨ lexeme = "false"
  freeBefore : isWordAt before = false
  freeBehind : isWordAt behind = false

theorem flagLength?_of_scan {before : Option Char} {first : Char} {rest : Text} {further : Nat}
    (scanned : scan before first rest = (.flag, further)) :
    ∃ length, flagLength? before (first :: rest) = some length ∧ further = length - 1 := by
  unfold scan at scanned
  split at scanned
  · cases scanned
  · split at scanned
    · cases scanned
    · split at scanned
      · cases scanned
      · cases scanned
    · cases scanned
    · cases scanned
    · cases scanned
    · split at scanned
      · cases scanned
      · cases scanned
    · split at scanned
      · cases scanned
      · cases scanned
    · split at scanned
      · rename_i length found
        cases scanned
        exact ⟨length, found, rfl⟩
      · cases scanned

theorem isLoneFlag_of_scan {before : Option Char} {first : Char} {rest : Text} {further : Nat}
    (scanned : scan before first rest = (.flag, further)) :
    IsLoneFlag before (first :: rest.take further) (rest.drop further).head? := by
  obtain ⟨length, found, rfl⟩ := flagLength?_of_scan scanned
  rw [flagLength?, Option.map_eq_some_iff] at found
  obtain ⟨word, found, rfl⟩ := found
  have holds := List.find?_some found
  simp only [Bool.and_eq_true, List.isPrefixOf_iff_prefix] at holds
  obtain ⟨⟨starts, boundaryBefore⟩, boundaryBehind⟩ := holds
  have member : word = "true" ∨ word = "false" := by
    simpa using List.mem_of_find?_eq_some found
  obtain ⟨letter, letters, rfl⟩ : ∃ letter letters, word = letter :: letters :=
    List.exists_cons_of_ne_nil (by rcases member with rfl | rfl <;> simp)
  obtain ⟨rfl, behind, rfl⟩ := List.cons_prefix_cons.mp starts
  have isWordWithin : isWordAt (some letter) = true ∧
      isWordAt (letter :: letters).getLast? = true := by
    rcases member with same | same
    · rw [same]
      obtain ⟨rfl, -⟩ := List.cons_eq_cons.mp same
      decide
    · rw [same]
      obtain ⟨rfl, -⟩ := List.cons_eq_cons.mp same
      decide
  constructor
  · simpa using member
  · simpa [isBoundary, isWordWithin.1] using boundaryBefore
  · simpa [isBoundary, isWordWithin.2] using boundaryBehind

end Lexeme

theorem Layout.Gap.append {left right : Text} (leftGap : Gap left) (rightGap : Gap right) :
    Gap (left ++ right) := by
  induction leftGap with
  | nil => exact rightGap
  | blank blank _ induction => exact .blank blank induction
  | lineComment oneLine _ induction =>
      simpa only [List.append_assoc] using Gap.lineComment oneLine induction
  | blockComment open_ _ induction =>
      simpa only [List.append_assoc] using Gap.blockComment open_ induction

namespace Token

/-- The place behind a token. -/
def ending (token : Token) : Nat :=
  token.offset + token.lexeme.length

/-- A text that is made of tokens, with gaps around them. On the last line a comment may stand that
no line feed ends. -/
inductive Tiled : (before : Option Char) → (offset : Nat) → Text → List Token → Prop where
  | ends {before : Option Char} {offset : Nat} {gap : Text} :
      Layout.Gap gap → Tiled before offset gap []
  | lastComment {before : Option Char} {offset : Nat} {gap content : Text} :
      Layout.Gap gap → '\n' ∉ content → Tiled before offset (gap ++ ("//" ++ content)) []
  | token {before : Option Char} {token : Token} {gap rest : Text} {tokens : List Token} :
      Layout.Gap gap → token.lexeme ≠ [] → Lexeme.StartsVisibly (token.lexeme ++ rest) →
      (token.kind = .flag →
        Lexeme.IsLoneFlag (Text.neighbour before gap) token.lexeme rest.head?) →
      Tiled token.lexeme.getLast? token.ending rest tokens → ∀ {offset : Nat},
      offset + gap.length = token.offset →
      Tiled before offset (gap ++ (token.lexeme ++ rest)) (token :: tokens)

theorem Tiled.append {before : Option Char} {offset : Nat} {gap text : Text} {tokens : List Token}
    (isGap : Layout.Gap gap)
    (tiled : Tiled (Text.neighbour before gap) (offset + gap.length) text tokens) :
    Tiled before offset (gap ++ text) tokens := by
  cases tiled with
  | ends further => exact .ends (isGap.append further)
  | lastComment further oneLine =>
      rw [← List.append_assoc]
      exact .lastComment (isGap.append further) oneLine
  | token further nonempty visible flag behind place =>
      rw [← List.append_assoc]
      rw [← Text.neighbour_append] at flag
      refine .token (isGap.append further) nonempty visible flag behind ?_
      rw [List.length_append, ← Nat.add_assoc]
      exact place

theorem ofText_lastComment {content : Text} (before : Option Char) (offset : Nat)
    (oneLine : '\n' ∉ content) : ofText before offset ('/' :: '/' :: content) = [] := by
  have line : content.takeWhile (· != '\n') = content := by
    apply List.takeWhile_eq_self_iff.mpr
    intro character member
    exact bne_iff_ne.mpr fun same => oneLine (same ▸ member)
  have scanned : Lexeme.scan before '/' (('/' :: content) ++ []) =
      (.lineComment, ('/' :: content).length) := by
    simp [Lexeme.scan, line, isBlank, blankRanges, CodeRanges.hold]
  have moved := ofText_of_scan_separates offset scanned rfl
  rw [ofText, List.append_nil] at moved
  exact moved

theorem tiled_ofText (before : Option Char) (offset : Nat) (text : Text) :
    Tiled before offset text (ofText before offset text) := by
  generalize size : text.length = length
  induction length using Nat.strongRecOn generalizing before offset text with
  | _ length induction =>
      cases Lexeme.beginning text with
      | ends =>
          rw [ofText]
          exact .ends .nil
      | @gap gap rest isGap nonempty =>
          have positive := List.length_pos_iff.mpr nonempty
          rw [isGap.ofText]
          apply Tiled.append isGap
          apply induction rest.length _ _ _ _ rfl
          rw [← size, List.length_append]
          omega
      | @lastComment content oneLine =>
          have none : ofText before offset ("//" ++ content) = [] :=
            ofText_lastComment before offset oneLine
          rw [none]
          exact .lastComment .nil oneLine
      | visible nonempty visible =>
          obtain ⟨first, others, rfl⟩ := List.exists_cons_of_ne_nil nonempty
          have unseparated := @Lexeme.separates_scan before _ _ visible
          cases scanned : Lexeme.scan before first others with
          | mk kind further =>
              rw [scanned] at unseparated
              have text : first :: others = [] ++ (first :: others.take further ++
                  others.drop further) := by simp
              have shorter : (others.drop further).length < length := by
                rw [← size, List.length_cons, List.length_drop]
                omega
              have starts : Lexeme.StartsVisibly (first :: others.take further ++
                  others.drop further) := by simpa using visible
              have read : ofText before offset (first :: others) =
                  ⟨kind, first :: others.take further, offset⟩ ::
                    ofText (first :: others.take further).getLast?
                      (offset + (first :: others.take further).length) (others.drop further) := by
                rw [ofText, scanned]
                simp [unseparated]
              rw [read, text]
              refine @Tiled.token before ⟨kind, first :: others.take further, offset⟩ [] _ _ .nil
                (List.cons_ne_nil _ _) starts ?_ (induction _ shorter _ _ _ rfl) offset rfl
              intro flag
              cases flag
              exact Lexeme.isLoneFlag_of_scan scanned

end Token

/-- The part of a text from one place to another. -/
def Text.slice (first last : Nat) (text : Text) : Text :=
  (text.drop first).take (last - first)

theorem Text.slice_append (front middle rest : Text) :
    (front ++ (middle ++ rest)).slice front.length (front.length + middle.length) = middle := by
  rw [slice, List.drop_left, Nat.add_sub_cancel_left, List.take_left]

namespace Token

/-- A token stands in a text where its offset says, starts like no blank and no comment, and is a
flag only if it is a word of its own. -/
structure IsPartOf (text : Text) (token : Token) : Prop where
  nonempty : token.lexeme ≠ []
  slice : text.slice token.offset token.ending = token.lexeme
  visible : Lexeme.StartsVisibly (text.drop token.offset)
  flag : token.kind = .flag → Lexeme.IsLoneFlag (text.take token.offset).getLast? token.lexeme
    (text.drop token.ending).head?

/-- Nothing but blanks and complete comments; a line comment ends with its line, or with the text
behind the last token. -/
def IsLeftOut (gap : Text) (behind : List Token) : Prop :=
  Layout.Gap gap ∨ behind = [] ∧ ∃ front content, Layout.Gap front ∧ '\n' ∉ content ∧
    gap = front ++ ("//" ++ content)

/-- Where the gap behind some of the tokens begins. -/
def gapStart (start : Nat) (front : List Token) : Nat :=
  (front.getLast?.map ending).getD start

/-- Where the gap in front of some of the tokens ends. -/
def gapEnd (text : Text) (back : List Token) : Nat :=
  (back.head?.map Token.offset).getD text.length

theorem gapStart_cons (start : Nat) (token : Token) (front : List Token) :
    gapStart start (token :: front) = gapStart token.ending front := by
  cases last : front.getLast? <;> simp [gapStart, List.getLast?_cons, last]

namespace Tiled

variable {before : Option Char} {offset : Nat} {text : Text} {tokens : List Token}

theorem forall_offset_le (tiled : Tiled before offset text tokens) :
    ∀ token ∈ tokens, offset ≤ token.offset := by
  induction tiled with
  | ends => simp
  | lastComment => simp
  | token _ _ _ _ _ place induction =>
      refine List.forall_mem_cons.mpr ⟨?_, ?_⟩
      · omega
      · intro other member
        have further := induction other member
        rw [ending] at further
        omega

theorem pairwise (tiled : Tiled before offset text tokens) :
    tokens.Pairwise fun left right => left.ending ≤ right.offset := by
  induction tiled with
  | ends => exact .nil
  | lastComment => exact .nil
  | token _ _ _ _ behind _ induction => exact .cons behind.forall_offset_le induction

theorem forall_isPartOf (tiled : Tiled before offset text tokens) {front : Text}
    (place : front.length = offset) (last : front.getLast? = before) :
    ∀ token ∈ tokens, token.IsPartOf (front ++ text) := by
  induction tiled generalizing front with
  | ends => simp
  | lastComment => simp
  | @token before token gap rest tokens _ nonempty visible flag _ offset start induction =>
      have offset_eq : (front ++ gap).length = token.offset := by
        rw [List.length_append, place, start]
      have ending_eq : (front ++ gap ++ token.lexeme).length = token.ending := by
        rw [List.length_append, offset_eq, ending]
      have split : front ++ (gap ++ (token.lexeme ++ rest)) =
          front ++ gap ++ (token.lexeme ++ rest) := by simp
      have further : front ++ gap ++ (token.lexeme ++ rest) =
          front ++ gap ++ token.lexeme ++ rest := by simp
      have neighbour : (front ++ gap).getLast? = Text.neighbour before gap := by
        rw [List.getLast?_append, last, Text.neighbour]
      refine List.forall_mem_cons.mpr ⟨?_, ?_⟩
      · constructor
        · exact nonempty
        · rw [split, ending, ← offset_eq]
          exact Text.slice_append (front ++ gap) token.lexeme rest
        · rw [split, ← offset_eq, List.drop_left]
          exact visible
        · intro isFlag
          have lone := flag isFlag
          rw [← neighbour] at lone
          rwa [split, ← offset_eq, List.take_left, further, ← ending_eq, List.drop_left]
      · rw [split, further]
        apply induction ending_eq
        cases ends : token.lexeme.getLast? with
        | none => exact absurd (List.getLast?_eq_none_iff.mp ends) nonempty
        | some character => simp [List.getLast?_append, ends]

theorem isLeftOut (tiled : Tiled before offset text tokens) {front : Text}
    (place : front.length = offset) {left right : List Token} (joined : left ++ right = tokens) :
    IsLeftOut ((front ++ text).slice (gapStart offset left) (gapEnd (front ++ text) right))
      right := by
  induction tiled generalizing front left with
  | @ends before offset gap isGap =>
      obtain ⟨rfl, rfl⟩ := List.append_eq_nil_iff.mp joined
      have whole := Text.slice_append front gap []
      rw [List.append_nil, ← List.length_append, place] at whole
      left
      rwa [← whole] at isGap
  | @lastComment before offset gap content isGap oneLine =>
      obtain ⟨rfl, rfl⟩ := List.append_eq_nil_iff.mp joined
      have whole := Text.slice_append front (gap ++ ("//" ++ content)) []
      rw [List.append_nil, ← List.length_append, place] at whole
      exact .inr ⟨rfl, gap, content, isGap, oneLine, whole⟩
  | @token before token gap rest tokens isGap _ _ _ _ offset start induction =>
      cases left with
      | nil =>
          obtain rfl : right = token :: tokens := joined
          have first := Text.slice_append front gap (token.lexeme ++ rest)
          rw [place, start] at first
          left
          rwa [← first] at isGap
      | cons other left =>
          obtain ⟨rfl, joinedRest⟩ := List.cons_eq_cons.mp joined
          have further : front ++ (gap ++ (other.lexeme ++ rest)) =
              front ++ gap ++ other.lexeme ++ rest := by simp
          have ending_eq : (front ++ gap ++ other.lexeme).length = other.ending := by
            rw [List.length_append, List.length_append, place, start, ending]
          rw [gapStart_cons, further]
          exact induction ending_eq joinedRest

end Tiled

/-- The tokens behind a place in a text. -/
def behind (text : Text) (start : Nat) : List Token :=
  ofText (text.take start).getLast? start (text.drop start)

theorem behind_of_length_le {text : Text} {start : Nat} (outside : text.length ≤ start) :
    behind text start = [] := by
  rw [behind, List.drop_eq_nil_of_le outside, ofText]

/-- The tokens behind a place are parts of the text in their order, apart from each other, and what
they leave out is nothing but blanks and complete comments. A flag is a word of its own. -/
theorem behind_tiles (text : Text) (start : Nat) :
    ((behind text start).Pairwise fun left right =>
      left.offset < right.offset ∧ left.ending ≤ right.offset) ∧
    (∀ token ∈ behind text start, start ≤ token.offset ∧ token.IsPartOf text) ∧
    ∀ left right, left ++ right = behind text start →
      IsLeftOut (text.slice (gapStart start left) (gapEnd text right)) right := by
  by_cases inside : start ≤ text.length
  · have tiled := tiled_ofText (text.take start).getLast? start (text.drop start)
    have place : (text.take start).length = start := List.length_take_of_le inside
    have parts := tiled.forall_isPartOf place rfl
    have gaps {left right : List Token} (joined : left ++ right = behind text start) :=
      tiled.isLeftOut place joined
    rw [List.take_append_drop] at parts gaps
    refine ⟨?_, fun token member => ⟨tiled.forall_offset_le token member, parts token member⟩,
      fun left right joined => gaps joined⟩
    apply tiled.pairwise.imp_of_mem
    intro left right member _ apart
    have positive := List.length_pos_iff.mpr (parts left member).nonempty
    have grows : left.offset < left.ending := by
      rw [ending]
      omega
    exact ⟨Nat.lt_of_lt_of_le grows apart, apart⟩
  · have outside := Nat.le_of_not_le inside
    rw [behind_of_length_le outside]
    refine ⟨.nil, nofun, ?_⟩
    intro left right joined
    obtain ⟨rfl, rfl⟩ := List.append_eq_nil_iff.mp joined
    have empty : text.drop (gapStart start []) = [] := List.drop_eq_nil_of_le outside
    left
    rw [Text.slice, empty, List.take_nil]
    exact .nil

/-- A flag behind a comment, and a comment that nothing ends behind the flag. -/
theorem behind_tiles_comments :
    let text : Text := "x /* */true//"
    let word : Token := ⟨.other, "x", 0⟩
    let flag : Token := ⟨.flag, "true", 7⟩
    (flag ∈ behind text 0 ∧ 0 ≤ flag.offset ∧ flag.IsPartOf text) ∧
      ([word] ++ [flag] = behind text 0 ∧ IsLeftOut " /* */" [flag]) ∧
      ([word, flag] ++ [] = behind text 0 ∧ IsLeftOut "//" []) := by
  intro text word flag
  have read : behind text 0 = [word, flag] := by
    have comment := @ofText_blockComment " " (some ' ') 2 "true//" (by decide)
    have lone := @ofText_flagWord (some '/') "//" true 7 (by decide) (by decide)
    calc ofText none 0 text
      _ = word :: ofText (some 'x') 1 " /* */true//" := ofText_other 0 (by decide)
      _ = word :: ofText (some ' ') 2 "/* */true//" :=
          congrArg (word :: ·) (ofText_blank 1 _ (by decide))
      _ = word :: ofText (some '/') 7 "true//" := congrArg (word :: ·) comment
      _ = word :: flag :: ofText (some 'e') 11 "//" := congrArg (word :: ·) lone
      _ = [word, flag] :=
          congrArg (word :: flag :: ·) (ofText_lastComment (some 'e') 11 List.not_mem_nil)
  obtain ⟨-, parts, gaps⟩ := behind_tiles text 0
  have member : flag ∈ behind text 0 := read ▸ List.mem_cons_of_mem _ List.mem_cons_self
  exact ⟨⟨member, parts flag member⟩, ⟨read.symm, gaps [word] [flag] read.symm⟩,
    ⟨read.symm, gaps [word, flag] [] read.symm⟩⟩

end Token

end DartRoutes
