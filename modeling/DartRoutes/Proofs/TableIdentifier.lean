import DartRoutes.Proofs.TableClosing
import DartRoutes.Proofs.TablePlace

/-!
# Table names as identifiers

An identifier of the language of the route file may hold `$`, and it holds no letters beyond ASCII.
Reading looks for the name of a table at a word boundary instead, so the two can disagree on the
places where the name stands as a whole. They agree on the first place exactly if every disputed
place stands behind an undisputed one.
-/

namespace DartRoutes

theorem find?_cons_ne_of_ne {α : Type} {left right : α → Bool} {first : α} (items : List α)
    (taken : left first = true) (passed : ¬ right first = true) :
    (first :: items).find? left ≠ (first :: items).find? right := by
  intro same
  rw [List.find?_cons_of_pos taken] at same
  exact passed (List.find?_some same.symm)

/-- Every item that two searches differ on stands behind one that both of them take. -/
def DifferBehindShared {α : Type} (left right : α → Bool) (items : List α) : Prop :=
  ∀ front item behind, items = front ++ item :: behind → left item ≠ right item →
    ∃ other ∈ front, left other = true ∧ right other = true

theorem differBehindShared_cons_iff {α : Type} {left right : α → Bool} {first : α}
    {items : List α} :
    DifferBehindShared left right (first :: items) ↔
      left first = right first ∧ (left first = true ∨ DifferBehindShared left right items) := by
  constructor
  · intro shared
    have same : left first = right first := by
      refine Decidable.byContradiction fun differs => ?_
      obtain ⟨other, member, -⟩ := shared [] first items rfl differs
      cases member
    refine ⟨same, Decidable.or_iff_not_imp_left.mpr fun passed => ?_⟩
    intro front item behind shape differs
    obtain ⟨other, member, both⟩ :=
      shared (first :: front) item behind (congrArg (first :: ·) shape) differs
    rcases List.mem_cons.mp member with rfl | further
    · exact absurd both.1 passed
    · exact ⟨other, further, both⟩
  · rintro ⟨same, settled⟩ front item behind shape differs
    cases front with
    | nil =>
        obtain ⟨rfl, -⟩ := List.cons.inj shape
        exact absurd same differs
    | cons head front =>
        obtain ⟨rfl, others⟩ := List.cons.inj shape
        rcases settled with taken | shared
        · exact ⟨first, List.mem_cons_self, taken, same ▸ taken⟩
        · obtain ⟨other, member, both⟩ := shared front item behind others differs
          exact ⟨other, List.mem_cons_of_mem _ member, both⟩

/-- Two searches find the same item exactly if every item that they differ on stands behind one
that both of them take. -/
theorem find?_eq_find?_iff {α : Type} {left right : α → Bool} {items : List α} :
    items.find? left = items.find? right ↔ DifferBehindShared left right items := by
  induction items with
  | nil =>
      refine iff_of_true rfl fun front item behind shape => ?_
      exact absurd shape.symm (List.append_ne_nil_of_right_ne_nil _ (List.cons_ne_nil _ _))
  | cons first items induction =>
      rw [differBehindShared_cons_iff]
      by_cases taken : left first = true
      · by_cases takenToo : right first = true
        · rw [List.find?_cons_of_pos taken, List.find?_cons_of_pos takenToo]
          exact iff_of_true rfl ⟨taken.trans takenToo.symm, .inl taken⟩
        · refine iff_of_false (find?_cons_ne_of_ne items taken takenToo) fun both => ?_
          exact takenToo (both.1 ▸ taken)
      · by_cases takenToo : right first = true
        · refine iff_of_false (find?_cons_ne_of_ne items takenToo taken).symm fun both => ?_
          exact taken (both.1 ▸ takenToo)
        · have same : left first = right first :=
            (Bool.eq_false_iff.mpr taken).trans (Bool.eq_false_iff.mpr takenToo).symm
          rw [List.find?_cons_of_neg taken, List.find?_cons_of_neg takenToo, induction,
            and_iff_right same, or_iff_right taken]

namespace RouteTable

/-- Identifiers are made of ASCII letters, digits, underscores and dollar signs. -/
def isIdentifierCharacter (character : Char) : Bool :=
  isNameCharacter character || character == '$'

/-- The name of a table is an identifier of the language of the route file. -/
structure IsIdentifier (table : Text) : Prop where
  nonempty : table ≠ []
  characters : ∀ character ∈ table, isIdentifierCharacter character = true
  starts : ∀ first ∈ table.head?, first.isDigit = false

instance (table : Text) : Decidable (IsIdentifier table) :=
  decidable_of_iff (table ≠ [] ∧ table.all isIdentifierCharacter = true ∧
      table.head?.all (!·.isDigit) = true) <| by
    rw [List.all_eq_true, Option.all_eq_true]
    simp only [Bool.not_eq_true']
    exact ⟨fun ⟨nonempty, characters, starts⟩ => ⟨nonempty, characters, starts⟩,
      fun identifier => ⟨identifier.nonempty, identifier.characters, identifier.starts⟩⟩

/-- No identifier goes on over this neighbour. -/
def Separates (neighbour : Option Char) : Prop :=
  ∀ character ∈ neighbour, isIdentifierCharacter character = false

/-- The whole identifier stands at the place, and the list from the bracket on is assigned to it,
with nothing but blanks around the sign. -/
def Declares (table : Text) (place : Place) (list : Text) : Prop :=
  ∃ behind, place.rest = table ++ behind ∧ Separates place.before ∧ Separates behind.head? ∧
    ∃ left right, (∀ character ∈ left, isBlank character = true) ∧
      (∀ character ∈ right, isBlank character = true) ∧
      behind = left ++ '=' :: (right ++ list) ∧ list.head? = some '['

/-- The list that is assigned to the whole identifier at a place. -/
def Place.declared? (table : Text) (place : Place) : Option Text :=
  if place.before.any isIdentifierCharacter then none else assignment? table place.rest

/-- The first of the places where a list is assigned to the whole identifier. -/
def firstDeclared? (table : Text) (places : List Place) : Option Place :=
  places.find? fun place => (place.declared? table).isSome

theorem separates_iff {neighbour : Option Char} :
    Separates neighbour ↔ ¬ neighbour.any isIdentifierCharacter = true := by
  cases neighbour with
  | none => exact iff_of_true (fun _ member => by cases member) Bool.false_ne_true
  | some character => simp [Separates]

theorem skipBlanks_eq_cons_iff {text rest : Text} {mark : Char} (visible : isBlank mark = false) :
    skipBlanks text = mark :: rest ↔
      ∃ blanks, (∀ character ∈ blanks, isBlank character = true) ∧
        text = blanks ++ mark :: rest := by
  constructor
  · intro behind
    refine ⟨text.takeWhile isBlank, List.all_eq_true.mp List.all_takeWhile, ?_⟩
    rw [← behind]
    exact List.takeWhile_append_dropWhile.symm
  · rintro ⟨blanks, blank, rfl⟩
    rw [skipBlanks, List.dropWhile_append_of_pos blank,
      List.dropWhile_cons_of_neg (Bool.eq_false_iff.mp visible)]

theorem isIdentifierCharacter_eq_false_of_isBlank {character : Char}
    (blank : isBlank character = true) : isIdentifierCharacter character = false := by
  rw [isIdentifierCharacter, Bool.or_eq_false_iff]
  constructor
  · cases name : isNameCharacter character with
    | false => rfl
    | true =>
        have free := isWord_eq_false_of_isBlank blank
        rw [isWord_of_isNameCharacter name] at free
        cases free
  · rw [beq_eq_false_iff_ne]
    rintro rfl
    exact absurd blank (by decide)

theorem declared?_eq_some_iff {table list : Text} {place : Place} :
    place.declared? table = some list ↔ Declares table place list := by
  rw [Place.declared?, Option.ite_none_left_eq_some, ← separates_iff, assignment?_eq_some_iff]
  constructor
  · rintro ⟨before, behind, behindSign, shape, sign, lists, bracket⟩
    obtain ⟨left, leftBlank, rfl⟩ := (skipBlanks_eq_cons_iff (by decide)).mp sign
    obtain ⟨rest, rfl⟩ := List.head?_eq_some_iff.mp bracket
    obtain ⟨right, rightBlank, rfl⟩ := (skipBlanks_eq_cons_iff (by decide)).mp lists
    refine ⟨_, shape, before, ?_, left, right, leftBlank, rightBlank, rfl, bracket⟩
    intro character first
    cases left with
    | nil =>
        cases first
        decide
    | cons blank left =>
        cases first
        exact isIdentifierCharacter_eq_false_of_isBlank (leftBlank _ List.mem_cons_self)
  · rintro ⟨behind, shape, before, -, left, right, leftBlank, rightBlank, rfl, bracket⟩
    obtain ⟨rest, rfl⟩ := List.head?_eq_some_iff.mp bracket
    refine ⟨before, _, right ++ '[' :: rest, shape, ?_, ?_, bracket⟩
    · exact (skipBlanks_eq_cons_iff (by decide)).mpr ⟨left, leftBlank, rfl⟩
    · exact (skipBlanks_eq_cons_iff (by decide)).mpr ⟨right, rightBlank, rfl⟩

/-- Reading and the language of the route file disagree on whether a list is assigned here. -/
def IsDisputed (table : Text) (place : Place) : Prop :=
  (place.assigned? table).isSome ≠ (place.declared? table).isSome

/-- The characters that only the language, or only the words of every script, have in names. -/
def isDisputedCharacter (character : Char) : Bool :=
  character == '$' || (isWord character && !isNameCharacter character)

theorem isDisputedCharacter_eq (character : Char) :
    isDisputedCharacter character = (isWord character != isIdentifierCharacter character) := by
  by_cases dollar : character = '$'
  · subst dollar
    decide
  · have notDollar : (character == '$') = false := beq_eq_false_iff_ne.mpr dollar
    rw [isIdentifierCharacter, isDisputedCharacter, notDollar, Bool.or_false, Bool.false_or]
    cases name : isNameCharacter character with
    | true => rw [isWord_of_isNameCharacter name]; rfl
    | false => rw [Bool.bne_false, Bool.not_false, Bool.and_true]

theorem any_isDisputedCharacter (neighbour : Option Char) :
    neighbour.any isDisputedCharacter =
      (isWordAt neighbour != neighbour.any isIdentifierCharacter) := by
  cases neighbour with
  | none => rfl
  | some character => exact isDisputedCharacter_eq character

/-- The first character of an identifier is a dollar sign or part of a word. -/
theorem IsIdentifier.isWordAt_head? {table : Text} (identifier : IsIdentifier table) :
    isWordAt table.head? = false ↔ table.head? = some '$' := by
  obtain ⟨first, others, rfl⟩ := List.exists_cons_of_ne_nil identifier.nonempty
  have character := identifier.characters first List.mem_cons_self
  rw [isIdentifierCharacter, Bool.or_eq_true, beq_iff_eq] at character
  rw [List.head?_cons, isWordAt, Option.any_some, Option.some.injEq]
  rcases character with name | rfl
  · rw [isWord_of_isNameCharacter name]
    refine iff_of_false Bool.noConfusion ?_
    rintro rfl
    exact absurd name (by decide)
  · decide

theorem head?_of_isSome_assignment? {table text : Text} (nonempty : table ≠ [])
    (assigned : (assignment? table text).isSome = true) : text.head? = table.head? := by
  obtain ⟨list, assigned⟩ := Option.isSome_iff_exists.mp assigned
  obtain ⟨behind, -, rfl, -⟩ := assignment?_eq_some_iff.mp assigned
  obtain ⟨first, others, rfl⟩ := List.exists_cons_of_ne_nil nonempty
  rfl

theorem Place.isSome_assigned? (table : Text) (place : Place) :
    (place.assigned? table).isSome =
      (isBoundary place.before place.rest.head? && (assignment? table place.rest).isSome) := by
  rw [Place.assigned?]
  cases isBoundary place.before place.rest.head? with
  | false => rfl
  | true => rfl

theorem Place.isSome_declared? (table : Text) (place : Place) :
    (place.declared? table).isSome =
      (!place.before.any isIdentifierCharacter && (assignment? table place.rest).isSome) := by
  rw [Place.declared?]
  cases place.before.any isIdentifierCharacter with
  | false => rfl
  | true => rfl

/-- A place is disputed exactly if the name there starts with a dollar sign or stands behind a
disputed character, but not both or neither. -/
theorem isDisputed_iff {table : Text} (identifier : IsIdentifier table) {place : Place} :
    IsDisputed table place ↔ (assignment? table place.rest).isSome = true ∧
      (table.head? = some '$' ↔ place.before.any isDisputedCharacter = false) := by
  rw [IsDisputed, Place.isSome_assigned?, Place.isSome_declared?]
  cases assigned : (assignment? table place.rest).isSome with
  | false =>
      rw [Bool.and_false, Bool.and_false]
      exact iff_of_false (fun differs => differs rfl) fun both => Bool.false_ne_true both.1
  | true =>
      have neighbours : ∀ before first identifierBefore : Bool,
          (before != first) ≠ !identifierBefore ↔
            (first = false ↔ (before != identifierBefore) = false) := by decide
      rw [Bool.and_true, Bool.and_true, and_iff_right rfl, any_isDisputedCharacter, isBoundary,
        head?_of_isSome_assignment? identifier.nonempty assigned, ← identifier.isWordAt_head?]
      exact neighbours _ _ _

/-- Every disputed place stands behind one where a list is assigned undisputedly. -/
def DisputedBehindAssigned (text table : Text) : Prop :=
  ∀ front place behind, places none [] text = front ++ place :: behind → IsDisputed table place →
    ∃ other ∈ front, (other.assigned? table).isSome ∧ (other.declared? table).isSome

theorem firstPlace?_eq_firstDeclared?_iff {text table : Text} :
    firstPlace? table (places none [] text) = firstDeclared? table (places none [] text) ↔
      DisputedBehindAssigned text table :=
  find?_eq_find?_iff

theorem parse_eq_missing_iff {text table : Text} :
    parse text table = .ok ⟨[], false, [.missing table]⟩ ↔
      firstPlace? table (places none [] text) = none := by
  have locates := locate?_eq_firstPlace? table none text
  cases found : firstPlace? table (places none [] text) with
  | none =>
      rw [found] at locates
      exact iff_of_true (parse_of_missing locates) rfl
  | some place =>
      obtain ⟨list, assigned⟩ := Option.isSome_iff_exists.mp (mem_of_firstPlace? found).2
      rw [found, Option.bind_some, assigned] at locates
      refine iff_of_false (fun missing => ?_) (Option.some_ne_none place)
      rw [parse_of_located locates] at missing
      obtain ⟨reading, -, same⟩ := exists_of_map_eq_ok missing
      rw [Reading.table] at same
      split at same
      · cases congrArg RouteTable.found same
      · have notes := congrArg (fun table => table.notes.getLast?) same
        rw [List.getLast?_concat] at notes
        cases notes

theorem firstDeclared?_eq_none_iff {table : Text} {candidates : List Place} :
    firstDeclared? table candidates = none ↔
      ∀ place ∈ candidates, ∀ list, ¬ Declares table place list := by
  rw [firstDeclared?, List.find?_eq_none]
  refine forall_congr' fun place => imp_congr_right fun _ => ?_
  rw [Bool.not_eq_true, Option.isSome_eq_false_iff, Option.isNone_iff_eq_none,
    Option.eq_none_iff_forall_ne_some]
  exact forall_congr' fun list => not_congr declared?_eq_some_iff

theorem firstDeclared?_eq_some {table list : Text} {front behind : List Place} {place : Place}
    (declares : Declares table place list)
    (passed : ∀ other ∈ front, ∀ otherList, ¬ Declares table other otherList) :
    firstDeclared? table (front ++ place :: behind) = some place := by
  have declared : (place.declared? table).isSome = true :=
    Option.isSome_iff_exists.mpr ⟨list, declared?_eq_some_iff.mpr declares⟩
  have nothing := firstDeclared?_eq_none_iff.mpr passed
  rw [firstDeclared?] at nothing
  rw [firstDeclared?, List.find?_append, nothing, Option.none_or]
  exact List.find?_cons_of_pos declared

/-- Reading and the language agree on the list that is assigned at an undisputed place. -/
theorem assigned?_of_declares {table list : Text} {place : Place}
    (declares : Declares table place list) (assigned : (place.assigned? table).isSome = true) :
    place.assigned? table = some list := by
  obtain ⟨found, assigned⟩ := Option.isSome_iff_exists.mp assigned
  have declared := declared?_eq_some_iff.mpr declares
  rw [assigned]
  rw [Place.assigned?, Option.ite_none_right_eq_some] at assigned
  rw [Place.declared?, Option.ite_none_left_eq_some] at declared
  exact assigned.2.symm.trans declared.2

/-- A name without a dollar sign in front is found rightly in text without disputed characters. -/
theorem disputedBehindAssigned_of_undisputed {text table : Text} (identifier : IsIdentifier table)
    (plain : table.head? ≠ some '$')
    (undisputed : ∀ character ∈ text, isDisputedCharacter character = false) :
    DisputedBehindAssigned text table := by
  intro front place behind shape disputed
  obtain ⟨-, starts⟩ := (isDisputed_iff identifier).mp disputed
  have member : place ∈ places none [] text := shape ▸ List.mem_append_right _ List.mem_cons_self
  obtain ⟨passed, inside, rfl, -, rfl⟩ := mem_places_iff.mp member
  refine absurd (starts.mpr ?_) plain
  rw [Text.neighbour, Option.or_none]
  cases last : passed.getLast? with
  | none => rfl
  | some character =>
      exact undisputed character (List.mem_append_left _ (List.mem_of_getLast? last))

/--
A text is read at its first assignment to the name of the table at a word boundary. That is the
first one to the whole identifier exactly if every disputed place stands behind an undisputed one,
where places are disputed that have a dollar sign at the beginning of the name or a disputed
character in front of it, but not both. Then the table is missing exactly if no list is assigned to
the identifier, and else the first list that is gets read.
-/
theorem parse_declared_iff {table : Text} (identifier : IsIdentifier table) (text : Text) :
    parse text table = parseAt text table (firstPlace? table (places none [] text)) ∧
      (firstPlace? table (places none [] text) = firstDeclared? table (places none [] text) ↔
        DisputedBehindAssigned text table) ∧
      (∀ place, IsDisputed table place ↔ (assignment? table place.rest).isSome = true ∧
        (table.head? = some '$' ↔ place.before.any isDisputedCharacter = false)) ∧
      (DisputedBehindAssigned text table →
        (parse text table = .ok ⟨[], false, [.missing table]⟩ ↔
          ∀ place ∈ places none [] text, ∀ list, ¬ Declares table place list) ∧
        ∀ front place behind list, places none [] text = front ++ place :: behind →
          Declares table place list →
          (∀ other ∈ front, ∀ otherList, ¬ Declares table other otherList) →
            parse text table = Reading.table text table <$>
              read 0 ((tokensFrom text list).drop 1)) ∧
      (table.head? ≠ some '$' →
        (∀ character ∈ text, isDisputedCharacter character = false) →
          DisputedBehindAssigned text table) := by
  refine ⟨parse_eq_parseAt text table, firstPlace?_eq_firstDeclared?_iff,
    fun place => isDisputed_iff identifier, fun undisputed => ?_,
    disputedBehindAssigned_of_undisputed identifier⟩
  have same := firstPlace?_eq_firstDeclared?_iff.mpr undisputed
  constructor
  · rw [parse_eq_missing_iff, same, firstDeclared?_eq_none_iff]
  · intro front place behind list shape declares passed
    have found : firstPlace? table (places none [] text) = some place := by
      rw [same, shape]
      exact firstDeclared?_eq_some declares passed
    have assigned := assigned?_of_declares declares (mem_of_firstPlace? found).2
    rw [parse_eq_parseAt, found, parseAt, Option.bind_some, assigned]

/-- A table is read although another one has its name behind a dollar sign further down. -/
theorem parse_declared_iff_further :
    let text : Text := "t$ = []; my$t$ = [x]"
    IsIdentifier "t$" ∧ DisputedBehindAssigned text "t$" ∧
      Declares "t$" ⟨none, text⟩ "[]; my$t$ = [x]" ∧
      IsDisputed "t$" ⟨some '$', "t$ = [x]"⟩ ∧ parse text "t$" = .ok ⟨[], true, []⟩ := by
  intro text
  have identifier : IsIdentifier "t$" := by decide
  have declares : Declares "t$" ⟨none, text⟩ "[]; my$t$ = [x]" :=
    declared?_eq_some_iff.mp (by decide)
  obtain ⟨-, rightly, disputed, reads, -⟩ := parse_declared_iff identifier text
  have behind : DisputedBehindAssigned text "t$" := rightly.mp (by decide)
  refine ⟨identifier, behind, declares, (disputed _).mpr (by decide), ?_⟩
  have tokens : (tokensFrom text "[]; my$t$ = [x]").drop 1 =
      ⟨.closing, "]", 6⟩ :: Token.ofText (some ']') 7 "; my$t$ = [x]" := by
    show (Token.ofText none 5 ('[' :: ']' :: "; my$t$ = [x]")).drop 1 = _
    rw [Token.ofText_opening, Token.ofText_closing]
    rfl
  rw [(reads behind).2 [] ⟨none, text⟩ _ _ rfl declares (List.forall_mem_nil _), tokens,
    read_closing_table rfl]
  rfl

/-- A text in which the list of another identifier, whose name ends like `t`, stands first. -/
def dollarText : Text := "my$t = [];\nt = [x];"

theorem read_dollarText_my :
    read 0 ((tokensFrom dollarText "[];\nt = [x];").drop 1) = .ok ⟨[], [], true⟩ := by
  have tokens : (tokensFrom dollarText "[];\nt = [x];").drop 1 =
      ⟨.closing, "]", 8⟩ :: Token.ofText (some ']') 9 ";\nt = [x];" := by
    show (Token.ofText none 7 ('[' :: ']' :: ";\nt = [x];")).drop 1 = _
    rw [Token.ofText_opening, Token.ofText_closing]
    rfl
  rw [tokens, read_closing_table rfl]

theorem read_dollarText_t :
    read 0 ((tokensFrom dollarText "[x];").drop 1) = .ok ⟨[], [16], true⟩ := by
  have tokens : (tokensFrom dollarText "[x];").drop 1 =
      ⟨.other, "x", 16⟩ :: ⟨.closing, "]", 17⟩ :: Token.ofText (some ']') 18 ";" := by
    show (Token.ofText none 15 ('[' :: 'x' :: ']' :: ";")).drop 1 = _
    rw [Token.ofText_opening, Token.ofText_other _ (by decide), Token.ofText_closing]
    rfl
  rw [tokens, read_element (by decide) (by decide) rfl]
  show Reading.addSkipped 16 <$> read 0 (⟨.closing, "]", 17⟩ :: _) = _
  rw [read_closing_table rfl]
  rfl

/-- The table of another identifier is read, whose name ends like the one that was asked for. -/
theorem not_forall_parse_declared :
    ¬ ∀ table text, IsIdentifier table →
      ∀ front place behind list, places none [] text = front ++ place :: behind →
        Declares table place list →
        (∀ other ∈ front, ∀ otherList, ¬ Declares table other otherList) →
          parse text table =
            Reading.table text table <$> read 0 ((tokensFrom text list).drop 1) := by
  intro claim
  let passed := places none "t = [x];" "my$t = [];\n"
  have declares : Declares "t" ⟨some '\n', "t = [x];"⟩ "[x];" :=
    declared?_eq_some_iff.mp (by decide)
  have undeclared : ∀ other ∈ passed, other.declared? "t" = none := by decide
  have others : ∀ other ∈ passed, ∀ otherList, ¬ Declares "t" other otherList := by
    intro other member otherList declaresToo
    have nothing := undeclared other member
    rw [declared?_eq_some_iff.mpr declaresToo] at nothing
    cases nothing
  have rightly := claim "t" dollarText (by decide) passed _ _ "[x];" rfl declares others
  have located : locate? "t" none dollarText = some "[];\nt = [x];" := by decide
  rw [parse_of_located located, read_dollarText_my, read_dollarText_t] at rightly
  exact absurd (Except.ok.inj rightly) (by decide)

end RouteTable

end DartRoutes
