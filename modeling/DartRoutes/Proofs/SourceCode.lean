import DartRoutes.Proofs.TableRoundTrip
import DartRoutes.Source.Router
import Mathlib.Data.List.TakeWhile

/-!
# Code of a generated source

What a generated source says outside its string literals: the constants that it refers to and the
constants that its class of locations declares. An automaton leaves the contents of the literals
out, so that no path can pass for code; what remains is read line by line. A line that closes its
literals can be read without its neighbours.
-/

namespace DartRoutes

/-- May the character stand in an identifier of the generated source? -/
def isNamePart (character : Char) : Bool :=
  character.isAlphanum || character == '_' || character == '$'

/-- Where a character stands with respect to the string literals of a source. -/
inductive Region where
  | outside
  | literal
  | escape
  deriving DecidableEq, Repr

namespace Region

def next : Region → Char → Region
  | .outside, character => if character = '\'' then .literal else .outside
  | .literal, character =>
      if character = '\\' then .escape else if character = '\'' then .outside else .literal
  | .escape, _ => .literal

def after (region : Region) (text : Text) : Region :=
  text.foldl next region

/-- The text without the contents of its literals; their quotes stay. -/
def code (region : Region) : Text → Text
  | [] => []
  | character :: rest =>
      let behind := region.next character
      if region = .outside ∨ behind = .outside then character :: behind.code rest
      else behind.code rest

theorem after_append (region : Region) (left right : Text) :
    region.after (left ++ right) = (region.after left).after right :=
  List.foldl_append

theorem code_append (region : Region) (left right : Text) :
    region.code (left ++ right) = region.code left ++ (region.after left).code right := by
  induction left generalizing region with
  | nil => rfl
  | cons character left induction =>
      rw [List.cons_append, code, code]
      by_cases shown : region = .outside ∨ region.next character = .outside
      · rw [if_pos shown, if_pos shown, induction]
        rfl
      · rw [if_neg shown, if_neg shown, induction]
        rfl

end Region

def codeLines (source : Text) : List Text :=
  (Region.outside.code source).splitOn '\n'

/-- The names behind `RouteNames.` in a line of code. -/
def referencesIn : Text → List Text
  | [] => []
  | character :: rest =>
      match Text.withoutBeginning? "RouteNames." (character :: rest) with
      | some behind => behind.takeWhile isNamePart :: referencesIn rest
      | none => referencesIn rest

/-- The names of constants that the code of a source refers to. -/
def references (source : Text) : List Text :=
  (codeLines source).flatMap referencesIn

/-- The name that a line of code declares as a constant text. -/
def declaredIn? (line : Text) : Option Text :=
  (Text.withoutBeginning? "  static const String " line).map (List.takeWhile isNamePart)

def classOpening : Text := "class RouteNames \x7b"

def classClosing : Text := "\x7d"

def constantClass (source : Text) : List Text :=
  ((codeLines source).dropWhile (· != classOpening)).tail.takeWhile (· != classClosing)

/-- The names that the class of constants of a source declares. -/
def declarations (source : Text) : List Text :=
  (constantClass source).filterMap declaredIn?

/-- The text closes every literal that it opens, and its code is the given one. -/
structure HasCode (text code : Text) : Prop where
  closed : Region.outside.after text = .outside
  code_eq : Region.outside.code text = code

namespace HasCode

theorem append {left right leftCode rightCode : Text} (leftHas : HasCode left leftCode)
    (rightHas : HasCode right rightCode) : HasCode (left ++ right) (leftCode ++ rightCode) := by
  constructor
  · rw [Region.after_append, leftHas.closed]
    exact rightHas.closed
  · rw [Region.code_append, leftHas.closed, leftHas.code_eq, rightHas.code_eq]

theorem plain {text : Text} (quoteless : '\'' ∉ text) : HasCode text text := by
  induction text with
  | nil => exact ⟨rfl, rfl⟩
  | cons character text induction =>
      have notQuote : character ≠ '\'' := by
        rintro rfl
        exact quoteless List.mem_cons_self
      have step : Region.outside.next character = .outside := if_neg notQuote
      have rest := induction fun member => quoteless (List.mem_cons_of_mem _ member)
      constructor
      · rw [Region.after, List.foldl_cons, step]
        exact rest.closed
      · rw [Region.code, if_pos (.inl rfl), step, rest.code_eq]

theorem ofList {characters : List Char} (quoteless : '\'' ∉ characters) :
    HasCode (String.ofList characters).toList (String.ofList characters).toList := by
  rw [String.toList_ofList]
  exact plain quoteless

/-- Nothing of a single-quoted literal is code but its quotes. -/
theorem escapes {content written : Text} (escapes : Layout.Escapes '\'' content written) :
    HasCode ('\'' :: written ++ ['\'']) "''" := by
  -- The contents are judged together with the closing quote, which an escaped quote is not.
  have inside : Region.literal.after (written ++ ['\'']) = .outside ∧
      Region.literal.code (written ++ ['\'']) = ['\''] := by
    induction escapes with
    | nil => exact ⟨rfl, rfl⟩
    | @plain character content written notQuote notBackslash _ induction =>
        have step : Region.literal.next character = .literal := by
          rw [Region.next, if_neg notBackslash, if_neg notQuote]
        constructor
        · rw [List.cons_append, Region.after, List.foldl_cons, step]
          exact induction.1
        · rw [List.cons_append, Region.code, step]
          exact induction.2
    | escaped _ induction => exact induction
  exact ⟨inside.1, congrArg ('\'' :: ·) inside.2⟩

theorem dartLiteral (content : Text) : HasCode (dartLiteral content) "''" :=
  escapes (Layout.Escapes.ofCharacters content)

end HasCode

theorem Text.splitOn_ofLines {lines : List Text} (single : ∀ line ∈ lines, '\n' ∉ line) :
    (Text.ofLines lines).splitOn '\n' = lines ++ [[]] := by
  induction lines with
  | nil => rfl
  | cons line lines induction =>
      obtain ⟨first, others⟩ := List.forall_mem_cons.mp single
      have shape : Text.ofLines (line :: lines) = line ++ '\n' :: Text.ofLines lines := by
        simp [Text.ofLines]
      have rest := induction others
      rw [List.splitOn_eq_splitOnP] at rest ⊢
      rw [shape, List.splitOnP_append_cons_of_forall_mem _ _ rfl, rest]
      · rfl
      · intro character member
        exact beq_eq_false_iff_ne.mpr fun same => first (same ▸ member)

theorem code_ofLines {lines : List Text}
    (closed : ∀ line ∈ lines, Region.outside.after line = .outside) :
    Region.outside.code (Text.ofLines lines) =
      Text.ofLines (lines.map Region.outside.code) := by
  induction lines with
  | nil => rfl
  | cons line lines induction =>
      obtain ⟨first, others⟩ := List.forall_mem_cons.mp closed
      have ended : Region.outside.after (line ++ ['\n']) = .outside := by
        rw [Region.after_append, first]
        rfl
      have shown : Region.outside.code (line ++ ['\n']) = Region.outside.code line ++ ['\n'] := by
        rw [Region.code_append, first]
        rfl
      rw [Text.ofLines, List.flatMap_cons, Region.code_append, ended, shown, List.map_cons,
        Text.ofLines, List.flatMap_cons]
      exact congrArg (_ ++ ·) (induction others)

/-- Lines that close their literals and have no line feed in their code are read one by one. -/
theorem codeLines_ofLines {lines : List Text}
    (closed : ∀ line ∈ lines, Region.outside.after line = .outside)
    (single : ∀ line ∈ lines, '\n' ∉ Region.outside.code line) :
    codeLines (Text.ofLines lines) = lines.map Region.outside.code ++ [[]] := by
  rw [codeLines, code_ofLines closed, Text.splitOn_ofLines (List.forall_mem_map.mpr single)]

theorem takeWhile_dropWhile_between {opening closing : Text} {before inside rest : List Text}
    (first : opening ∉ before) (next : closing ∉ inside) :
    ((before ++ opening :: (inside ++ closing :: rest)).dropWhile (· != opening)).tail.takeWhile
      (· != closing) = inside := by
  have outside : ∀ line ∈ before, (line != opening) = true :=
    fun line member => bne_iff_ne.mpr fun same => first (same ▸ member)
  have within : ∀ line ∈ inside, (line != closing) = true :=
    fun line member => bne_iff_ne.mpr fun same => next (same ▸ member)
  rw [List.dropWhile_append_of_pos outside, List.dropWhile_cons, if_neg (by simp), List.tail_cons,
    List.takeWhile_append_of_pos within, List.takeWhile_cons, if_neg (by simp), List.append_nil]

theorem withoutBeginning?_append_cons {beginning : Text} {separator : Char}
    (foreign : separator ∉ beginning) (text rest : Text) :
    Text.withoutBeginning? beginning (text ++ separator :: rest) =
      (Text.withoutBeginning? beginning text).map (· ++ separator :: rest) := by
  induction beginning generalizing text with
  | nil => rfl
  | cons first beginning induction =>
      rw [List.mem_cons, not_or] at foreign
      cases text with
      | nil => simp [Text.withoutBeginning?, Ne.symm foreign.1]
      | cons character text =>
          rw [List.cons_append, Text.withoutBeginning?, Text.withoutBeginning?]
          split
          · exact induction foreign.2 text
          · rfl

theorem takeWhile_append_cons {property : Char → Bool} {separator : Char}
    (stops : property separator = false) (text rest : Text) :
    (text ++ separator :: rest).takeWhile property = text.takeWhile property := by
  induction text with
  | nil => simp [stops]
  | cons character text induction => simp only [List.cons_append, List.takeWhile_cons, induction]

/-- A character that can stand in no reference parts the references of a line. -/
theorem referencesIn_append_cons {separator : Char} (noPart : isNamePart separator = false)
    (noPoint : separator ≠ '.') (text rest : Text) :
    referencesIn (text ++ separator :: rest) = referencesIn text ++ referencesIn rest := by
  -- No reading of the marker that starts to the left can go on past the separator.
  have foreign : separator ∉ ("RouteNames." : Text) := by
    intro member
    have marker : ("RouteNames." : Text).all
        (fun character => isNamePart character || character == '.') = true := by decide
    have joined := List.all_eq_true.mp marker separator member
    rw [noPart, Bool.false_or] at joined
    exact noPoint (beq_iff_eq.mp joined)
  induction text with
  | nil =>
      have absent := withoutBeginning?_append_cons foreign [] rest
      rw [List.nil_append] at absent ⊢
      rw [referencesIn, referencesIn, absent]
      rfl
  | cons character text induction =>
      have found := withoutBeginning?_append_cons foreign (character :: text) rest
      rw [List.cons_append] at found ⊢
      rw [referencesIn, referencesIn, found, induction]
      cases Text.withoutBeginning? "RouteNames." (character :: text) with
      | none => rfl
      | some behind =>
          simp only [Option.map_some, takeWhile_append_cons noPart, List.cons_append]

theorem referencesIn_eq_nil {line : Text} (noPoint : '.' ∉ line) : referencesIn line = [] := by
  induction line with
  | nil => rfl
  | cons character rest induction =>
      have unread : Text.withoutBeginning? "RouteNames." (character :: rest) = none := by
        apply Option.eq_none_iff_forall_ne_some.mpr
        intro behind read
        rw [Text.withoutBeginning?_eq_some_iff] at read
        apply noPoint
        rw [read]
        exact List.mem_append_left _ (by decide)
      rw [referencesIn, unread]
      exact induction fun member => noPoint (List.mem_cons_of_mem _ member)

theorem referencesIn_routeNames {name : Text}
    (parts : ∀ character ∈ name, isNamePart character = true) :
    referencesIn ("RouteNames." ++ name) = [name] := by
  have noPoint : '.' ∉ name := by
    intro member
    cases parts '.' member
  have read : Text.withoutBeginning? "RouteNames." ('R' :: ("outeNames." ++ name)) = some name :=
    Text.withoutBeginning?_eq_some_iff.mpr rfl
  have whole : name.takeWhile isNamePart = name := List.takeWhile_eq_self_iff.mpr parts
  -- Behind the first character the rest of the marker is read once more, and its point is the last.
  change referencesIn ('R' :: ("outeNames." ++ name)) = _
  rw [referencesIn, read]
  have behind : referencesIn ("outeNames." ++ name) = referencesIn name := rfl
  rw [behind, referencesIn_eq_nil noPoint]
  exact congrArg ([·]) whole

end DartRoutes
