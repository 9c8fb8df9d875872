import DartRoutes.Proofs.TableLocation
import DartRoutes.Proofs.TableReading

/-!
# Places of a route table

The places of a text at which a list is assigned to the name of a table, and those among them that
no comment and no string covers. Reading starts at the first place of all. It is the first one in
code exactly if no covered place stands in front of that one.
-/

namespace DartRoutes

namespace Lexeme

/-- Comments and strings hold no code. -/
def Kind.hides : Kind → Bool
  | .lineComment | .blockComment | .string => true
  | _ => false

theorem exists_of_flagLength? {before : Option Char} {text : Text} {length : Nat}
    (found : flagLength? before text = some length) :
    ∃ word ∈ [("true" : Text), "false"], word <+: text ∧ length = word.length := by
  rw [flagLength?, Option.map_eq_some_iff] at found
  obtain ⟨word, found, rfl⟩ := found
  have holds := List.find?_some found
  simp only [Bool.and_eq_true, List.isPrefixOf_iff_prefix] at holds
  exact ⟨word, List.mem_of_find?_eq_some found, holds.1.1, rfl⟩

/-- A lexeme that hides nothing is a run of blanks, a flag or a single character. -/
theorem scan_cases {before : Option Char} {first : Char} {rest : Text} {kind : Kind}
    {further : Nat} (scanned : scan before first rest = (kind, further)) :
    (kind.hides = true ∧ (first = '/' ∨ first = '\'' ∨ first = '"')) ∨
      (isBlank first = true ∧ further = (rest.takeWhile isBlank).length) ∨
      (∃ word ∈ [("true" : Text), "false"], word <+: first :: rest ∧ further = word.length - 1) ∨
      further = 0 := by
  unfold scan at scanned
  by_cases blank : isBlank first = true
  · rw [if_pos blank] at scanned
    cases scanned
    exact .inr (.inl ⟨blank, rfl⟩)
  · rw [if_neg blank] at scanned
    have covers {hidden : Kind} {length : Nat} (read : (hidden, length) = (kind, further))
        (hides : hidden.hides = true) : kind.hides = true := (Prod.mk.inj read).1 ▸ hides
    have alone {single : Kind} (read : (single, 0) = (kind, further)) : further = 0 :=
      (Prod.mk.inj read).2.symm
    -- The cases are those of the first character, with a text that is never closed apart.
    split at scanned
    · exact .inl ⟨covers scanned rfl, .inl rfl⟩
    · split at scanned
      · exact .inl ⟨covers scanned rfl, .inl rfl⟩
      · exact .inr (.inr (.inr (alone scanned)))
    · exact .inr (.inr (.inr (alone scanned)))
    · exact .inr (.inr (.inr (alone scanned)))
    · exact .inr (.inr (.inr (alone scanned)))
    · split at scanned
      · exact .inl ⟨covers scanned rfl, .inr (.inl rfl)⟩
      · exact .inr (.inr (.inr (alone scanned)))
    · split at scanned
      · exact .inl ⟨covers scanned rfl, .inr (.inr rfl)⟩
      · exact .inr (.inr (.inr (alone scanned)))
    · split at scanned
      · rename_i length found
        obtain ⟨word, member, starts, rfl⟩ := exists_of_flagLength? found
        exact .inr (.inr (.inl ⟨word, member, starts, (Prod.mk.inj scanned).2.symm⟩))
      · exact .inr (.inr (.inr (alone scanned)))

/-- No word boundary lies inside a lexeme that hides nothing. -/
theorem isBoundary_inside {before : Option Char} {first : Char} {rest front inside : Text}
    {kind : Kind} {further : Nat} (scanned : scan before first rest = (kind, further))
    (visible : kind.hides = false) (joined : front ++ inside = first :: rest.take further)
    (front_ne : front ≠ []) (inside_ne : inside ≠ []) :
    isBoundary front.getLast? inside.head? = false := by
  have uniform {value : Bool} (same : ∀ character ∈ first :: rest.take further,
      isWord character = value) : isBoundary front.getLast? inside.head? = false := by
    have last := same (front.getLast front_ne)
      (joined ▸ List.mem_append_left inside (List.getLast_mem front_ne))
    have head := same (inside.head inside_ne)
      (joined ▸ List.mem_append_right front (List.head_mem inside_ne))
    rw [List.getLast?_eq_some_getLast front_ne, List.head?_eq_some_head inside_ne, isBoundary,
      isWordAt, isWordAt, Option.any_some, Option.any_some, last, head, bne_self_eq_false]
  rcases scan_cases scanned with ⟨hides, -⟩ | ⟨blank, rfl⟩ | ⟨word, member, starts, rfl⟩ | rfl
  · rw [visible] at hides
    cases hides
  · apply @uniform false
    rw [← List.prefix_iff_eq_take.mp (List.takeWhile_prefix isBlank)]
    intro character isMember
    apply isWord_eq_false_of_isBlank
    rcases List.mem_cons.mp isMember with rfl | further
    · exact blank
    · exact List.all_eq_true.mp List.all_takeWhile character further
  · have lexeme : first :: rest.take (word.length - 1) = word := by
      obtain ⟨letter, letters, rfl⟩ : ∃ letter letters, word = letter :: letters :=
        List.exists_cons_of_ne_nil (by rintro rfl; simp at member)
      obtain ⟨tail, joined⟩ := starts
      obtain ⟨rfl, rfl⟩ := List.cons_eq_cons.mp joined
      simp
    apply @uniform true
    rw [lexeme]
    have letters : ∀ flag ∈ [("true" : Text), "false"], flag.all isWord = true := by decide
    exact List.all_eq_true.mp (letters word member)
  · have lengths := congrArg List.length joined
    have front_pos := List.length_pos_iff.mpr front_ne
    have inside_pos := List.length_pos_iff.mpr inside_ne
    simp at lengths
    omega

end Lexeme

namespace RouteTable

/-- A place in a text: the character in front of it and the text from there on. -/
structure Place where
  before : Option Char
  rest : Text
  deriving DecidableEq, Repr

/-- The list that is assigned to the name of the table at a place, from its bracket on. -/
def Place.assigned? (table : Text) (place : Place) : Option Text :=
  if isBoundary place.before place.rest.head? then assignment? table place.rest else none

/-- The places in a part of a text that the text `behind` follows. -/
def places (before : Option Char) (behind : Text) : Text → List Place
  | [] => []
  | character :: rest =>
      ⟨before, character :: rest ++ behind⟩ :: places (some character) behind rest

/-- The places outside every comment and every string. -/
def codePlaces (before : Option Char) : Text → List Place
  | [] => []
  | first :: rest =>
      let (kind, further) := Lexeme.scan before first rest
      let lexeme := first :: rest.take further
      let others := codePlaces lexeme.getLast? (rest.drop further)
      if kind.hides then others else places before (rest.drop further) lexeme ++ others
termination_by text => text.length
decreasing_by
  simp only [List.length_cons, List.length_drop]
  omega

/-- The first of the places where a list is assigned to the name of the table. -/
def firstPlace? (table : Text) (places : List Place) : Option Place :=
  places.find? fun place => (place.assigned? table).isSome

/-- What reading a text at a place gives; without a place the table is missing. -/
def parseAt (text table : Text) (place : Option Place) : Except NamingFault RouteTable :=
  match place.bind (Place.assigned? table) with
  | none => .ok ⟨[], false, [.missing table]⟩
  | some list => Reading.table text table <$> read 0 ((tokensFrom text list).drop 1)

theorem places_append (before : Option Char) (behind left right : Text) :
    places before behind (left ++ right) =
      places before (right ++ behind) left ++ places (Text.neighbour before left) behind right := by
  induction left generalizing before with
  | nil => rfl
  | cons character left induction =>
      simp [places, induction]

theorem mem_places_iff {before : Option Char} {behind text : Text} {place : Place} :
    place ∈ places before behind text ↔ ∃ front inside, front ++ inside = text ∧ inside ≠ [] ∧
      place = ⟨Text.neighbour before front, inside ++ behind⟩ := by
  constructor
  · intro member
    induction text generalizing before with
    | nil => cases member
    | cons character text induction =>
        rcases List.mem_cons.mp member with rfl | further
        · exact ⟨[], character :: text, rfl, List.cons_ne_nil _ _, rfl⟩
        · obtain ⟨front, inside, rfl, nonempty, rfl⟩ := induction further
          refine ⟨character :: front, inside, rfl, nonempty, ?_⟩
          rw [Text.neighbour_cons]
  · rintro ⟨front, inside, rfl, nonempty, rfl⟩
    obtain ⟨character, rest, rfl⟩ := List.exists_cons_of_ne_nil nonempty
    rw [places_append]
    exact List.mem_append_right _ List.mem_cons_self

theorem pairwise_places (before : Option Char) (behind text : Text) :
    (places before behind text).Pairwise fun place later =>
      later.rest.length < place.rest.length := by
  induction text generalizing before with
  | nil => exact .nil
  | cons character text induction =>
      refine .cons ?_ (induction _)
      intro later member
      obtain ⟨front, inside, rfl, -, rfl⟩ := mem_places_iff.mp member
      simp only [List.length_append, List.length_cons]
      omega

theorem codePlaces_sublist (before : Option Char) (text : Text) :
    (codePlaces before text).Sublist (places before [] text) := by
  fun_induction codePlaces before text with
  | case1 => exact .refl []
  | case2 before first rest kind further scanned lexeme others hides induction =>
      have joined : first :: rest = lexeme ++ rest.drop further := by
        simp [lexeme]
      have last : Text.neighbour before lexeme = lexeme.getLast? := by
        simp [lexeme, Text.neighbour, List.getLast?_cons]
      rw [joined, places_append, last]
      exact induction.trans (List.sublist_append_right _ _)
  | case3 before first rest kind further scanned lexeme others visible induction =>
      have joined : first :: rest = lexeme ++ rest.drop further := by
        simp [lexeme]
      have last : Text.neighbour before lexeme = lexeme.getLast? := by
        simp [lexeme, Text.neighbour, List.getLast?_cons]
      rw [joined, places_append, last, List.append_nil]
      exact induction.append_left _

theorem codePlaces_of_hides {before : Option Char} {first : Char} {kind : Lexeme.Kind}
    {more rest : Text} (scanned : Lexeme.scan before first (more ++ rest) = (kind, more.length))
    (hides : kind.hides = true) :
    codePlaces before (first :: more ++ rest) = codePlaces (first :: more).getLast? rest := by
  rw [List.cons_append, codePlaces, scanned]
  simp [hides]

theorem codePlaces_of_visible {before : Option Char} {first : Char} {kind : Lexeme.Kind}
    {more rest : Text} (scanned : Lexeme.scan before first (more ++ rest) = (kind, more.length))
    (visible : kind.hides = false) :
    codePlaces before (first :: more ++ rest) =
      places before rest (first :: more) ++ codePlaces (first :: more).getLast? rest := by
  rw [List.cons_append, codePlaces, scanned]
  simp [visible]

/-- Every assignment inside a comment or a string stands behind one in code. -/
def HiddenBehindCode (text table : Text) : Prop :=
  ∀ place ∈ places none [] text, (place.assigned? table).isSome = true →
    place ∉ codePlaces none text →
      ∃ other ∈ codePlaces none text, (other.assigned? table).isSome = true ∧
        place.rest.length < other.rest.length

section First

variable {table : Text} {candidates : List Place} {first place : Place}

theorem exists_firstPlace? (member : place ∈ candidates)
    (assigned : (place.assigned? table).isSome = true) :
    ∃ first, firstPlace? table candidates = some first :=
  Option.isSome_iff_exists.mp (List.find?_isSome.mpr ⟨place, member, assigned⟩)

theorem mem_of_firstPlace? (found : firstPlace? table candidates = some first) :
    first ∈ candidates ∧ (first.assigned? table).isSome = true :=
  ⟨List.mem_of_find?_eq_some found, (List.find?_eq_some_iff_append.mp found).1⟩

theorem eq_or_behind_firstPlace?
    (sorted : candidates.Pairwise fun place later => later.rest.length < place.rest.length)
    (found : firstPlace? table candidates = some first) (member : place ∈ candidates)
    (assigned : (place.assigned? table).isSome = true) :
    place = first ∨ place.rest.length < first.rest.length := by
  obtain ⟨-, front, behind, rfl, passed⟩ := List.find?_eq_some_iff_append.mp found
  rcases List.mem_append.mp member with inFront | further
  · have unassigned := passed place inFront
    rw [assigned] at unassigned
    cases unassigned
  · rcases List.mem_cons.mp further with same | inBehind
    · exact .inl same
    · have sortedRest := (List.pairwise_append.mp sorted).2.1
      exact .inr (List.rel_of_pairwise_cons sortedRest inBehind)

end First

theorem firstPlace?_eq_code_iff {text table : Text} :
    firstPlace? table (places none [] text) = firstPlace? table (codePlaces none text) ↔
      HiddenBehindCode text table := by
  have sorted := pairwise_places none [] text
  have sublist := codePlaces_sublist none text
  have codeSorted := sorted.sublist sublist
  constructor
  · intro same place member assigned hidden
    obtain ⟨first, found⟩ := exists_firstPlace? member assigned
    obtain ⟨inCode, firstAssigned⟩ := mem_of_firstPlace? (same ▸ found)
    rcases eq_or_behind_firstPlace? sorted found member assigned with rfl | behind
    · exact absurd inCode hidden
    · exact ⟨first, inCode, firstAssigned, behind⟩
  · intro hiddenBehind
    cases found : firstPlace? table (places none [] text) with
    | none =>
        have unassigned := List.find?_eq_none.mp found
        exact (List.find?_eq_none.mpr fun place member =>
          unassigned place (sublist.subset member)).symm
    | some first =>
        obtain ⟨member, assigned⟩ := mem_of_firstPlace? found
        by_cases inCode : first ∈ codePlaces none text
        · obtain ⟨other, codeFound⟩ := exists_firstPlace? inCode assigned
          obtain ⟨otherInCode, otherAssigned⟩ := mem_of_firstPlace? codeFound
          rw [codeFound]
          rcases eq_or_behind_firstPlace? codeSorted codeFound inCode assigned with same | behind
          · rw [same]
          · rcases eq_or_behind_firstPlace? sorted found (sublist.subset otherInCode)
              otherAssigned with same | front
            · rw [same]
            · exact absurd front (Nat.lt_asymm behind)
        · obtain ⟨other, otherInCode, otherAssigned, front⟩ :=
            hiddenBehind first member assigned inCode
          rcases eq_or_behind_firstPlace? sorted found (sublist.subset otherInCode)
            otherAssigned with rfl | behind
          · exact absurd front (Nat.lt_irrefl _)
          · exact absurd front (Nat.lt_asymm behind)

theorem locate?_eq_firstPlace? (table : Text) (before : Option Char) (text : Text) :
    locate? table before text =
      (firstPlace? table (places before [] text)).bind (Place.assigned? table) := by
  induction text generalizing before with
  | nil =>
      have unassigned : assignment? table [] = none := by
        cases table with
        | nil => rfl
        | cons character table => rfl
      rw [locate?, unassigned, ite_self]
      rfl
  | cons character rest induction =>
      have here : (⟨before, character :: rest⟩ : Place).assigned? table =
          if isBoundary before (some character) then assignment? table (character :: rest)
          else none := rfl
      rw [locate?, ← here, firstPlace?, places, List.append_nil, List.find?_cons]
      cases assigned : (⟨before, character :: rest⟩ : Place).assigned? table with
      | none => exact induction (some character)
      | some list => exact assigned.symm

theorem parse_eq_parseAt (text table : Text) :
    parse text table = parseAt text table (firstPlace? table (places none [] text)) := by
  rw [parseAt, ← locate?_eq_firstPlace?]
  cases located : locate? table none text with
  | none => exact parse_of_missing located
  | some list => exact parse_of_located located

variable {table : Text}

theorem assignment?_suffix {text list : Text} (assigned : assignment? table text = some list) :
    list <:+ text := by
  obtain ⟨behindName, behindSign, rfl, sign, rfl, -⟩ := assignment?_eq_some_iff.mp assigned
  have inSign : skipBlanks behindSign <:+ behindSign := List.dropWhile_suffix _
  have inName : '=' :: behindSign <:+ behindName := sign ▸ List.dropWhile_suffix _
  exact inSign.trans ((List.suffix_cons _ _).trans (inName.trans (List.suffix_append _ _)))

theorem locate?_suffix {before : Option Char} {text list : Text}
    (located : locate? table before text = some list) : list <:+ text := by
  rw [locate?_eq_firstPlace?, Option.bind_eq_some_iff] at located
  obtain ⟨place, found, assigned⟩ := located
  obtain ⟨front, inside, rfl, -, rfl⟩ := mem_places_iff.mp (mem_of_firstPlace? found).1
  rw [Place.assigned?, Option.ite_none_right_eq_some, List.append_nil] at assigned
  exact (assignment?_suffix assigned.2).trans (List.suffix_append front inside)

theorem locate?_of_free {before : Option Char} (free : isWordAt before = false) (text : Text) :
    locate? table before text = locate? table none text := by
  have boundary (after : Option Char) : isBoundary before after = isBoundary none after := by
    rw [isBoundary, free]
    rfl
  cases text with
  | nil => rw [locate?, locate?, boundary]
  | cons character rest => rw [locate?, locate?, boundary]

/-- Text in which no assignment starts is passed over. -/
theorem locate?_append_of_unassigned {front : Text} (text : Text)
    (free : isWordAt front.getLast? = false)
    (unassigned : ∀ place ∈ places none text front, place.assigned? table = none) :
    locate? table none (front ++ text) = locate? table none text := by
  have passed : firstPlace? table (places none text front) = none := by
    apply List.find?_eq_none.mpr
    intro place member
    rw [unassigned place member]
    exact Bool.false_ne_true
  have last : Text.neighbour none front = front.getLast? := Option.or_none
  rw [firstPlace?] at passed
  rw [← locate?_of_free free text, locate?_eq_firstPlace?, locate?_eq_firstPlace?, places_append,
    last, firstPlace?, List.find?_append, List.append_nil, passed, Option.none_or, firstPlace?]

end RouteTable

end DartRoutes
