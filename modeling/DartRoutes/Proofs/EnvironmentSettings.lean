import DartRoutes.Proofs.WordBoundary
import DartRoutes.Settings

/-!
# What the environment sets

Every field of the settings has a variable of its own, and only the table name can be refused: a word
that forbids scaffolding may be written in any letter case.
-/

namespace DartRoutes

theorem Checked.optional_singleton {α : Type} (name : Text) (preset : α) (read : Value → Checked α)
    (entries : List (Text × Value)) :
    optional [name] preset read entries =
      match Value.find? name entries with
      | none => .ok preset
      | some value => within (.key name) (read value) := by
  cases found : Value.find? name entries with
  | none => simp [optional, found]
  | some value => simp [optional, found]

namespace Settings

theorem lookup_toList (field : Text) (value? : Option Text) (key : Text) :
    (value?.map fun value => (field, Value.text value)).toList.lookup key =
      if key = field then value?.map .text else none := by
  cases value? with
  | none => simp
  | some value =>
      by_cases same : key = field
      · simp [same]
      · simp [same, List.lookup_cons, beq_false_of_ne same]

variable (environment : List (Text × Text))

/-- Does the environment turn scaffolding off? -/
def turnsScaffoldingOff : Bool :=
  yesWords.contains (((setting? environment "ROUTEGEN_NO_SCAFFOLD").map Text.lower).getD [])

/-- What the environment sets is found under the names of the fields. -/
theorem lookup_entriesOf (key : Text) :
    (entriesOf environment).lookup key =
      (((((if key = "project_root" then (setting? environment "ROUTEGEN_PROJECT_ROOT").map .text
        else none).or
      (if key = "package_name" then (setting? environment "ROUTEGEN_PACKAGE_NAME").map .text
        else none)).or
      (if key = "config_file" then (setting? environment "ROUTEGEN_CONFIG_FILE").map .text
        else none)).or
      (if key = "table_name" then (setting? environment "ROUTEGEN_TABLE_NAME").map .text
        else none))).or
      (if key = "scaffold" ∧ turnsScaffoldingOff environment then some (.bool false)
        else none) := by
  rw [entriesOf, turnsScaffoldingOff]
  generalize yesWords.contains _ = forbids
  have scaffold : (if forbids then [(("scaffold" : Text), Value.bool false)] else []).lookup key =
      if key = "scaffold" ∧ forbids then some (.bool false) else none := by
    cases forbids with
    | false => simp
    | true =>
        by_cases same : key = "scaffold"
        · simp [same]
        · rw [if_pos rfl, List.lookup_cons, beq_false_of_ne same, if_neg fun both => same both.1]
          rfl
  dsimp only
  rw [List.lookup_append, scaffold]
  simp only [List.filterMap_eq_flatMap_toList, List.flatMap_cons,
    List.flatMap_nil, List.append_nil, List.lookup_append, lookup_toList, Option.or_assoc]

theorem find?_entriesOf :
    Value.find? "project_root" (entriesOf environment) =
        (setting? environment "ROUTEGEN_PROJECT_ROOT").map .text ∧
      Value.find? "package_name" (entriesOf environment) =
        (setting? environment "ROUTEGEN_PACKAGE_NAME").map .text ∧
      Value.find? "config_file" (entriesOf environment) =
        (setting? environment "ROUTEGEN_CONFIG_FILE").map .text ∧
      Value.find? "table_name" (entriesOf environment) =
        (setting? environment "ROUTEGEN_TABLE_NAME").map .text ∧
      Value.find? "scaffold" (entriesOf environment) =
        if turnsScaffoldingOff environment then some (.bool false) else none := by
  have distinct : (["project_root", "package_name", "config_file", "table_name", "scaffold"] :
      List Text).Pairwise fun first second => first ≠ second ∧ second ≠ first := by
    decide
  simp only [List.pairwise_cons, List.forall_mem_cons] at distinct
  obtain ⟨root, package, config, table, -⟩ := distinct
  simp only [Value.find?, lookup_entriesOf, root, package, config, table, if_true, if_false,
    true_and, false_and, Option.or_none, Option.none_or, and_self]

/-- The table name that the environment sets. -/
def tableNameIn : Checked Text :=
  match setting? environment "ROUTEGEN_TABLE_NAME" with
  | none => .ok default.tableName
  | some name => Checked.within (.key "table_name") (Value.text name).asNonemptyText

/-- Nothing but the table name of an environment can be refused. -/
theorem ofEnvironment_eq :
    ofEnvironment environment = (tableNameIn environment).map fun tableName =>
      { projectRoot := ((setting? environment "ROUTEGEN_PROJECT_ROOT").map Path.ofText).getD
          default.projectRoot
        packageName := (setting? environment "ROUTEGEN_PACKAGE_NAME").getD default.packageName
        configFile := (setting? environment "ROUTEGEN_CONFIG_FILE").getD default.configFile
        tableName
        scaffold := !turnsScaffoldingOff environment } := by
  obtain ⟨root, package, config, table, scaffold⟩ := find?_entriesOf environment
  have rootField : Checked.optional ["project_root"] default.projectRoot pathOfValue
      (entriesOf environment) =
        .ok (((setting? environment "ROUTEGEN_PROJECT_ROOT").map Path.ofText).getD
          default.projectRoot) := by
    rw [Checked.optional_singleton, root]
    cases setting? environment "ROUTEGEN_PROJECT_ROOT" <;> rfl
  have packageField : Checked.optional ["package_name"] default.packageName Value.asText
      (entriesOf environment) =
        .ok ((setting? environment "ROUTEGEN_PACKAGE_NAME").getD default.packageName) := by
    rw [Checked.optional_singleton, package]
    cases setting? environment "ROUTEGEN_PACKAGE_NAME" <;> rfl
  have configField : Checked.optional ["config_file"] default.configFile Value.asText
      (entriesOf environment) =
        .ok ((setting? environment "ROUTEGEN_CONFIG_FILE").getD default.configFile) := by
    rw [Checked.optional_singleton, config]
    cases setting? environment "ROUTEGEN_CONFIG_FILE" <;> rfl
  have tableField : Checked.optional ["table_name"] default.tableName Value.asNonemptyText
      (entriesOf environment) = tableNameIn environment := by
    rw [Checked.optional_singleton, table, tableNameIn]
    cases setting? environment "ROUTEGEN_TABLE_NAME" <;> rfl
  have scaffoldField : Checked.optional ["scaffold"] default.scaffold Value.asFlag
      (entriesOf environment) = .ok (!turnsScaffoldingOff environment) := by
    rw [Checked.optional_singleton, scaffold]
    cases turnsScaffoldingOff environment <;> rfl
  change Checked.apply (Checked.apply (Checked.apply (Checked.apply (Checked.apply (.ok mk) _) _) _)
    _) _ = _
  rw [rootField, packageField, configField, tableField, scaffoldField]
  cases tableNameIn environment <;> rfl

/-- A word of the environment forbids scaffolding in any letter case. -/
theorem turnsScaffoldingOff_of_word {environment : List (Text × Text)} {value : Text}
    (set : environment.lookup ("ROUTEGEN_NO_SCAFFOLD" : Text) = some value)
    (word : value.map Char.toLower ∈ yesWords) : turnsScaffoldingOff environment = true := by
  have words : yesWords.all (·.all (·.toNat < 0x80)) = true := by decide
  have ascii : ∀ character ∈ value, character.toNat < 0x80 := by
    intro character member
    have small := List.all_eq_true.mp (List.all_eq_true.mp words _ word) _
      (List.mem_map_of_mem member)
    rcases toLower_cases character with same | ⟨-, last, -⟩
    · rw [same] at small
      exact of_decide_eq_true small
    · exact Nat.lt_of_le_of_lt last (by decide)
  have setting : setting? environment "ROUTEGEN_NO_SCAFFOLD" = some value := by
    rw [setting?, set]
    cases value with
    | nil => exact absurd word (by decide)
    | cons character rest => rfl
  rw [turnsScaffoldingOff, setting, Option.map_some, Option.getD_some, Text.lower_of_ascii ascii]
  exact List.contains_iff_mem.mpr word

end Settings

end DartRoutes
