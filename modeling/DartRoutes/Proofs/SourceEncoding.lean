import DartRoutes.Feature.Layer
import DartRoutes.Proofs.NameCharacters

/-!
# Encoding of feature sources

The sources of a feature page hold nothing but the texts of their templates and the names that
their view gives them. So their lines consist of the characters of any class that has the template
texts and the names, if changes to lower case do not lead out of it; and a source has an encoding
if the names have one.
-/

namespace DartRoutes

/-- No character of the text stands for a surrogate. -/
def Text.IsEncodable (text : Text) : Prop :=
  ∀ character ∈ text, surrogate? character = none

namespace Text.IsEncodable

theorem encode? {text : Text} (encodable : text.IsEncodable) :
    Utf8.encode? text = .ok (Utf8.encode text) := by
  have clean : ∀ position, Utf8.surrogateFaultFrom? position text = none := by
    induction text with
    | nil => exact fun _ => rfl
    | cons character text induction =>
        intro position
        obtain ⟨first, rest⟩ := List.forall_mem_cons.mp encodable
        rw [Utf8.surrogateFaultFrom?, first]
        exact induction rest (position + 1)
  rw [Utf8.encode?, clean]

theorem ofLines {lines : List Text} (encodable : ∀ line ∈ lines, line.IsEncodable) :
    (Text.ofLines lines).IsEncodable := by
  intro character member
  obtain ⟨line, lineMember, characterMember⟩ := List.mem_flatMap.mp member
  rcases List.mem_append.mp characterMember with inside | ending
  · exact encodable line lineMember character inside
  · obtain rfl := List.mem_singleton.mp ending
    rfl

theorem ofList {characters : List Char}
    (checked : characters.all (fun character => (surrogate? character).isNone) = true) :
    Text.IsEncodable (String.ofList characters).toList := by
  rw [String.toList_ofList]
  intro character member
  exact Option.isNone_iff_eq_none.mp (List.all_eq_true.mp checked character member)

end Text.IsEncodable

theorem Utf8.encode_injective {left right : Text} (same : encode left = encode right) :
    left = right := by
  have bytes : left.utf8Encode = right.utf8Encode := congrArg List.toByteArray same
  have strings : String.ofList left = String.ofList right := String.toByteArray_inj.mp bytes
  rw [← String.toList_ofList (l := left), strings, String.toList_ofList]

theorem surrogate?_of_toNat_lt {character : Char} (below : character.toNat < firstStandIn) :
    surrogate? character = none := by
  rw [surrogate?]
  exact if_neg fun inside => absurd inside.1 (Nat.not_le.mpr below)

theorem surrogate?_ofNat {code : Nat} (below : code < firstStandIn) :
    surrogate? (Char.ofNat code) = none := by
  rcases toNat_ofNat_cases code with kept | null
  · exact surrogate?_of_toNat_lt (kept.symm ▸ below)
  · rw [null]
    decide

theorem surrogate?_toLower {character : Char} (clean : surrogate? character = none) :
    surrogate? character.toLower = none := by
  rcases toLower_cases character with same | ⟨-, last, moved⟩
  · rw [same]
    exact clean
  · apply surrogate?_of_toNat_lt
    rw [moved, firstStandIn]
    omega

/-- A case mapping leads to no surrogate if its tables do not. -/
theorem mapCase_isEncodable {runs : List CaseRun} {sequences : List (Nat × List Nat)}
    (runsBelow : ∀ run ∈ runs, (run.last : Int) + run.offset < firstStandIn)
    (sequencesBelow : ∀ entry ∈ sequences, ∀ code ∈ entry.2, code < firstStandIn)
    {character : Char} (clean : surrogate? character = none) :
    (mapCase runs sequences character).IsEncodable := by
  refine forall_mem_mapCase ?_ ?_ clean
  · intro run member code target found
    have below := runsBelow run member
    have positive : 0 < firstStandIn := by decide
    apply surrogate?_ofNat
    rcases CaseRun.target?_bounds found with ⟨-, last⟩ | rfl
    · omega
    · exact positive
  · exact fun entry member code inside => surrogate?_ofNat (sequencesBelow entry member code inside)

theorem lowerCharacter_isEncodable {character : Char} (clean : surrogate? character = none) :
    (lowerCharacter character).IsEncodable := by
  rw [lowerCharacter]
  split
  · exact List.forall_mem_singleton.mpr (surrogate?_toLower clean)
  · exact mapCase_isEncodable (by decide +kernel) (by decide +kernel) clean

/-- Being no stand-in for a surrogate is kept by changes of case. -/
theorem caseClosed_surrogate? : CaseClosed fun character => surrogate? character = none where
  underscore := by decide
  finalSigma := fun _ => by decide
  lowered := fun _ => lowerCharacter_isEncodable

/-- A class with everything that the templates hold and that changes to lower case lead to. -/
structure SourceClosed (property : Char → Prop) : Prop extends CaseClosed property where
  printable : ∀ character : Char, 32 ≤ character.toNat → character.toNat < 127 → property character

theorem SourceClosed.ofList {property : Char → Prop} (closed : SourceClosed property)
    {characters : List Char}
    (checked : characters.all
      (fun character => 32 ≤ character.toNat && character.toNat < 127) = true) :
    ∀ character ∈ (String.ofList characters).toList, property character := by
  rw [String.toList_ofList]
  intro character member
  have printable := List.all_eq_true.mp checked character member
  simp only [Bool.and_eq_true, decide_eq_true_eq] at printable
  exact closed.printable character printable.1 printable.2

theorem sourceClosed_surrogate? : SourceClosed fun character => surrogate? character = none where
  toCaseClosed := caseClosed_surrogate?
  printable := fun character _ last => surrogate?_of_toNat_lt (by rw [firstStandIn]; omega)

namespace FeatureView

/-- The names in the view consist of characters of a class. -/
structure Consists (property : Char → Prop) (view : FeatureView) : Prop where
  packageName : ∀ character ∈ view.packageName, property character
  group : ∀ character ∈ view.group, property character
  page : ∀ character ∈ view.page, property character

/-- The names in the view have encodings. -/
structure IsEncodable (view : FeatureView) : Prop where
  packageName : view.packageName.IsEncodable
  group : view.group.IsEncodable
  page : view.page.IsEncodable

theorem IsEncodable.consists {view : FeatureView} (encodable : view.IsEncodable) :
    view.Consists fun character => surrogate? character = none :=
  ⟨encodable.packageName, encodable.group, encodable.page⟩

end FeatureView

/-- The lines that the source of a layer is written from. -/
def Layer.lines (view : FeatureView) :
    (layer : Layer) → {lines : List Text // layer.source view = Text.ofLines lines}
  | .view => ⟨_, rfl⟩
  | .controller => ⟨_, rfl⟩
  | .state => ⟨_, rfl⟩
  | .repository => ⟨_, rfl⟩

section Lines

variable {property : Char → Prop} {view : FeatureView} (closed : SourceClosed property)
  (consists : view.Consists property)

include closed consists

theorem FeatureView.constructorLines_consist :
    ∀ line ∈ view.constructorLines, ∀ character ∈ line, property character := by
  rw [constructorLines]
  split
  all_goals
    simp only [List.forall_mem_cons, List.forall_mem_append]
    and_intros
  all_goals
    first
    | exact consists.page
    | exact closed.ofList rfl
    | exact List.forall_mem_nil _

theorem FeatureView.stem_consists {layer : Text}
    (holds : ∀ character ∈ layer, property character) :
    ∀ character ∈ view.stem layer, property character :=
  closed.layerStem consists.page holds

namespace Layer

-- In each source, rewriting takes the lines apart; what is left are the names and the literals.

theorem viewLines_consist :
    ∀ line ∈ (lines view .view).1, ∀ character ∈ line, property character := by
  simp only [lines, List.flatten_cons, List.flatten_nil, List.forall_mem_append,
    List.forall_mem_cons]
  and_intros
  all_goals
    first
    | exact consists.page
    | exact consists.packageName
    | exact closed.ofList rfl
    | exact List.forall_mem_nil _
    | exact view.constructorLines_consist closed consists
    | exact closed.toRouteName consists.page
    | exact view.stem_consists closed consists (closed.ofList rfl)

theorem controllerLines_consist :
    ∀ line ∈ (lines view .controller).1, ∀ character ∈ line, property character := by
  have baseName := forall_mem_stripPageSuffix consists.page
  simp only [lines, List.flatten_cons, List.flatten_nil, List.forall_mem_append,
    List.forall_mem_cons, FeatureView.controllerClass, FeatureView.stateClass]
  and_intros
  all_goals
    first
    | exact baseName
    | exact consists.page
    | exact consists.packageName
    | exact consists.group
    | exact closed.ofList rfl
    | exact List.forall_mem_nil _
    | exact closed.toRouteName consists.page
    | exact view.stem_consists closed consists (closed.ofList rfl)

theorem stateLines_consist :
    ∀ line ∈ (lines view .state).1, ∀ character ∈ line, property character := by
  have baseName := forall_mem_stripPageSuffix consists.page
  simp only [lines, List.forall_mem_append, List.forall_mem_cons, FeatureView.stateClass]
  and_intros
  all_goals
    first
    | exact baseName
    | exact consists.page
    | exact closed.ofList rfl
    | exact List.forall_mem_nil _
    | exact view.stem_consists closed consists (closed.ofList rfl)

theorem repositoryLines_consist :
    ∀ line ∈ (lines view .repository).1, ∀ character ∈ line, property character := by
  have baseName := forall_mem_stripPageSuffix consists.page
  simp only [lines, List.forall_mem_append, List.forall_mem_cons, FeatureView.repositoryClass]
  and_intros
  all_goals
    first
    | exact baseName
    | exact consists.page
    | exact closed.ofList rfl
    | exact List.forall_mem_nil _
    | exact closed.toRouteName consists.page

/-- The lines of a source consist of such characters as the names in its view do. -/
theorem lines_consist (layer : Layer) :
    ∀ line ∈ (layer.lines view).1, ∀ character ∈ line, property character := by
  cases layer with
  | view => exact viewLines_consist closed consists
  | controller => exact controllerLines_consist closed consists
  | state => exact stateLines_consist closed consists
  | repository => exact repositoryLines_consist closed consists

end Layer

end Lines

/-- The sources of all layers have encodings if the names in their view have. -/
theorem Layer.source_isEncodable {view : FeatureView} (encodable : view.IsEncodable)
    (layer : Layer) : (layer.source view).IsEncodable := by
  rw [(layer.lines view).2]
  exact .ofLines (layer.lines_consist sourceClosed_surrogate? encodable.consists)

end DartRoutes
