import DartRoutes.Proofs.TableRefusal
import DartRoutes.Standard
import Mathlib.Data.List.Forall2

/-!
# Reading the configuration

The options of a project are those of its configuration file, with the defaults in place of the
fields that are missing, or all of them are the defaults: a file with an unfit value counts as
none. Whatever the loader of documents makes of a text, only a value that cannot be made, such as a
date in the thirteenth month, stops the reading; every other broken file is passed over.
-/

namespace DartRoutes

namespace Value

/-- The values that are taken for a text. -/
inductive IsText : Value → Text → Prop where
  | text (content : Text) : IsText (.text content) content
  | bytes {content : Bytes} {decoded : Text} :
      Utf8.decode content = .ok decoded → IsText (.bytes content) decoded

/-- The values that are taken for a list of texts. -/
inductive IsTexts : Value → List Text → Prop where
  | list {items : List Value} {texts : List Text} :
      List.Forall₂ IsText items texts → IsTexts (.list items) texts

/-- A field of a mapping under one of its names, of which the first one that is there counts. -/
inductive IsField {α : Type} (stands : Value → α → Prop) (default : α)
    (entries : List (Text × Value)) : (names : List Text) → α → Prop where
  | absent {names : List Text} :
      (∀ name ∈ names, find? name entries = none) → IsField stands default entries names default
  | present {front back : List Text} {name : Text} {value : Value} {result : α} :
      (∀ other ∈ front, find? other entries = none) → find? name entries = some value →
      stands value result → IsField stands default entries (front ++ name :: back) result

theorem asText_eq_ok_iff {value : Value} {content : Text} :
    value.asText = .ok content ↔ IsText value content := by
  constructor
  · intro read
    cases value with
    | text written =>
        cases read
        exact .text content
    | bytes written =>
        rw [asText] at read
        split at read
        · rename_i decoded
          cases read
          exact .bytes decoded
        · cases read
    | _ => cases read
  · intro isText
    cases isText with
    | text => rfl
    | bytes decoded => rw [asText, decoded]

end Value

namespace Checked

variable {α β : Type}

theorem apply_eq_ok_iff {function : Checked (α → β)} {argument : Checked α} {result : β} :
    apply function argument = .ok result ↔
      ∃ change value, function = .ok change ∧ argument = .ok value ∧ change value = result := by
  cases function <;> cases argument <;> simp [apply]

theorem within_eq_ok_iff {step : Step} {checked : Checked α} {result : α} :
    within step checked = .ok result ↔ checked = .ok result := by
  cases checked <;> simp [within]

theorem each_eq_ok_iff {read : Value → Checked α} {items : List Value} {results : List α}
    {start : Nat} :
    each read start items = .ok results ↔
      List.Forall₂ (fun item result => read item = .ok result) items results := by
  induction items generalizing start results with
  | nil =>
      rw [List.forall₂_nil_left_iff, each, Except.ok.injEq]
      exact eq_comm
  | cons item items induction =>
      simp only [each, apply_eq_ok_iff, within_eq_ok_iff, Except.ok.injEq, induction]
      constructor
      · rintro ⟨_, others, ⟨_, first, rfl, read, rfl⟩, further, rfl⟩
        exact .cons read further
      · intro all
        cases all with
        | cons read further => exact ⟨_, _, ⟨_, _, rfl, read, rfl⟩, further, rfl⟩

theorem optional_eq_ok_iff {read : Value → Checked α} {stands : Value → α → Prop}
    (reads : ∀ value result, read value = .ok result ↔ stands value result) {names : List Text}
    {default result : α} {entries : List (Text × Value)} :
    optional names default read entries = .ok result ↔
      Value.IsField stands default entries names result := by
  constructor
  · intro read
    rw [optional] at read
    split at read
    · rename_i missing
      cases read
      exact .absent fun name member => by simpa using List.find?_eq_none.mp missing name member
    · rename_i name chosen
      obtain ⟨isThere, front, back, rfl, others⟩ := List.find?_eq_some_iff_append.mp chosen
      split at read
      · rename_i value found
        have stand := (reads value result).mp (within_eq_ok_iff.mp read)
        exact .present (fun other member => by simpa using others other member) found stand
      · rename_i missing
        rw [missing] at isThere
        cases isThere
  · intro field
    cases field with
    | absent missing =>
        have unchosen : names.find? (fun name => (Value.find? name entries).isSome) = none :=
          List.find?_eq_none.mpr fun name member => by simp [missing name member]
        rw [optional, unchosen]
    | @present front back name value _ others found stand =>
        have chosen : (front ++ name :: back).find?
            (fun name => (Value.find? name entries).isSome) = some name :=
          List.find?_eq_some_iff_append.mpr ⟨by simp [found], front, back, rfl,
            fun other member => by simp [others other member]⟩
        rw [optional, chosen]
        simp only [found]
        exact within_eq_ok_iff.mpr ((reads value result).mpr stand)

end Checked

namespace Value

theorem asTexts_eq_ok_iff {value : Value} {texts : List Text} :
    value.asList .listType asText = .ok texts ↔ IsTexts value texts := by
  constructor
  · intro read
    cases value with
    | list items =>
        have all := Checked.each_eq_ok_iff.mp read
        exact .list (all.imp fun _ _ => asText_eq_ok_iff.mp)
    | _ => cases read
  · rintro ⟨all⟩
    exact Checked.each_eq_ok_iff.mpr (all.imp fun _ _ => asText_eq_ok_iff.mpr)

end Value

namespace BuilderOptions

open Value

/-- Every option is the field of the document, or its default if the document has no such field. -/
structure IsComplete (entries : List (Text × Value)) (options : BuilderOptions) : Prop where
  customImports : IsField IsTexts default.customImports entries
    ["customImports", "custom_imports"] options.customImports
  customCode : IsField IsText default.customCode entries
    ["customCode", "custom_code"] options.customCode
  ignoreDirs : IsField IsTexts default.ignoreDirs entries
    ["ignoreDirs", "ignore_dirs"] options.ignoreDirs
  fallbackPage : IsField IsText default.fallbackPage entries
    ["fallbackPage", "fallback_page"] options.fallbackPage
  shellWidget : IsField IsText default.shellWidget entries
    ["shellWidget", "shell_widget"] options.shellWidget

theorem ofValue_eq_ok_iff {entries : List (Text × Value)} {options : BuilderOptions} :
    ofValue (.map entries) = .ok options ↔ IsComplete entries options := by
  have text {names : List Text} {default result : Text} :=
    @Checked.optional_eq_ok_iff _ asText IsText (fun _ _ => asText_eq_ok_iff) names default result
      entries
  have texts {names : List Text} {default result : List Text} :=
    @Checked.optional_eq_ok_iff _ (asList .listType asText) IsTexts
      (fun _ _ => asTexts_eq_ok_iff) names default result entries
  change Checked.apply _ _ = _ ↔ _
  simp only [Checked.apply_eq_ok_iff, text, texts, Except.ok.injEq]
  constructor
  · rintro ⟨_, shell, ⟨_, fallback, ⟨_, ignored, ⟨_, code, ⟨_, imports, rfl, customImports, rfl⟩,
      customCode, rfl⟩, ignoreDirs, rfl⟩, fallbackPage, rfl⟩, shellWidget, rfl⟩
    exact ⟨customImports, customCode, ignoreDirs, fallbackPage, shellWidget⟩
  · rintro ⟨customImports, customCode, ignoreDirs, fallbackPage, shellWidget⟩
    exact ⟨_, _, ⟨_, _, ⟨_, _, ⟨_, _, ⟨_, _, rfl, customImports, rfl⟩, customCode, rfl⟩,
      ignoreDirs, rfl⟩, fallbackPage, rfl⟩, shellWidget, rfl⟩

/-- The options that a document gives: its own if all of them are fit, and otherwise the defaults. -/
def ofDocument (document : Value) : BuilderOptions :=
  match document with
  | .map entries =>
      match ofValue (.map entries) with
      | .ok options => options
      | .error _ => default
  | _ => default

theorem ofDocument_cases (document : Value) :
    (∃ entries, document = .map entries ∧ IsComplete entries (ofDocument document)) ∨
      ofDocument document = default ∧
        ∀ entries options, document = .map entries → ¬ IsComplete entries options := by
  cases document with
  | map entries =>
      cases read : ofValue (.map entries) with
      | ok options =>
          left
          rw [ofDocument, read]
          exact ⟨entries, rfl, ofValue_eq_ok_iff.mp read⟩
      | error issues =>
          right
          rw [ofDocument, read]
          refine ⟨rfl, fun _ options same complete => ?_⟩
          cases same
          rw [ofValue_eq_ok_iff.mpr complete] at read
          cases read
  | _ => exact .inr ⟨rfl, fun _ _ same => by cases same⟩

end BuilderOptions

namespace Action

theorem nameOf?_ne_nil (document : Value) : nameOf? document ≠ some [] := by
  unfold nameOf?
  split
  · split
    · simp
    · simp
  · simp

theorem nameOf?_getD_ne_nil (document : Value) :
    (nameOf? document).getD defaultPackageName ≠ [] := by
  cases named : nameOf? document with
  | none => decide
  | some name =>
      rintro rfl
      exact nameOf?_ne_nil document named

end Action

section Loading

variable [DocumentLoader]

/-- The document of a file, or why it has none. -/
def Disk.document (disk : Disk) (path : Path) : Except Failure Value :=
  match disk.read path with
  | .error fault => .error (.file fault)
  | .ok content =>
      match Utf8.decode content with
      | .error fault => .error (.encoding fault)
      | .ok text =>
          match DocumentLoader.load text.withLineFeeds with
          | .error fault => .error (.document fault)
          | .ok document => .ok document

/-- The file has a text that keeps the rules of documents, but one of the values in it cannot be
made. -/
inductive Disk.Stumbles (disk : Disk) (path : Path) : Prop where
  | ofText {content : Bytes} {text : Text} {fault : DocumentFault} :
      disk.read path = .ok content → Utf8.decode content = .ok text →
      DocumentLoader.load text.withLineFeeds = .error fault → fault.isMalformed = false →
      Stumbles disk path

theorem Disk.stumbles_iff {disk : Disk} {path : Path} (isThere : disk.pathExists path = .ok true) :
    disk.Stumbles path ↔
      ∃ failure, disk.document path = .error failure ∧ failure.isBrokenDocument = false := by
  constructor
  · rintro ⟨found, decoded, unmade, isWellFormed⟩
    refine ⟨.document _, ?_, isWellFormed⟩
    rw [document, found]
    simp only [decoded, unmade]
  · rintro ⟨failure, broken, isUnexpected⟩
    rw [document] at broken
    split at broken
    · rename_i fault refused
      cases broken
      rw [pathExists_of_read_eq_error refused isUnexpected] at isThere
      cases isThere
    · rename_i content found
      split at broken
      · cases broken
        cases isUnexpected
      · rename_i text decoded
        split at broken
        · rename_i fault unmade
          cases broken
          exact .ofText found decoded unmade isUnexpected
        · cases broken

theorem Disk.pathExists_of_document_eq_ok {disk : Disk} {path : Path} {document : Value}
    (isDocument : disk.document path = .ok document) : disk.pathExists path = .ok true := by
  rw [Disk.document] at isDocument
  split at isDocument
  · cases isDocument
  · rename_i content found
    exact pathExists_of_read_eq_ok found

theorem Disk.Stumbles.pathExists {disk : Disk} {path : Path} (stumbles : disk.Stumbles path) :
    disk.pathExists path = .ok true := by
  obtain ⟨found, -, -, -⟩ := stumbles
  exact pathExists_of_read_eq_ok found

namespace Action

open Effect

theorem readDocument_run (path : Path) (workspace : Workspace) :
    readDocument path workspace =
      match workspace.disk.document path with
      | .ok document => .ok document workspace
      | .error failure => .error failure workspace := by
  rw [Disk.document, readDocument, bind_run, readText, bind_run, ask_run]
  cases workspace.disk.read path with
  | error fault => rfl
  | ok content =>
      simp only
      cases Utf8.decode content with
      | error fault => rfl
      | ok text =>
          simp only [pure_run]
          cases DocumentLoader.load text.withLineFeeds <;> rfl

theorem attempt_readDocument_run (path : Path) (workspace : Workspace) :
    attempt Failure.isBrokenDocument (readDocument path) workspace =
      match workspace.disk.document path with
      | .ok document => .ok (.ok document) workspace
      | .error failure =>
          if failure.isBrokenDocument then .ok (.error failure) workspace
          else .error failure workspace := by
  rw [attempt_run, readDocument_run]
  cases workspace.disk.document path <;> rfl

/-- An action gives what it finds in the document at a path, and an answer of its own for a file that
is missing or broken. -/
def Loads {α : Type} (path : Path) (load : Action α) (ofDocument : Value → α) (absent : α) : Prop :=
  ∀ workspace, ∃ log, load workspace =
    match workspace.disk.pathExists path with
    | .error fault => .error (.file fault) workspace
    | .ok false => .ok absent { workspace with log }
    | .ok true =>
        match workspace.disk.document path with
        | .ok document => .ok (ofDocument document) { workspace with log }
        | .error failure =>
            if failure.isBrokenDocument then .ok absent { workspace with log }
            else .error failure workspace

theorem Loads.of_parts {α : Type} {path : Path} {load otherwise : Action α}
    {next : Except Failure Value → Action α} {ofDocument : Value → α} {absent : α}
    (parts : load = do
      if ← ask (·.pathExists path) then
        next (← attempt Failure.isBrokenDocument (readDocument path))
      else otherwise)
    (present : ∀ document workspace, ∃ log, next (.ok document) workspace =
      .ok (ofDocument document) { workspace with log })
    (broken : ∀ failure workspace, ∃ log, next (.error failure) workspace =
      .ok absent { workspace with log })
    (missing : ∀ workspace, ∃ log, otherwise workspace = .ok absent { workspace with log }) :
    Loads path load ofDocument absent := by
  intro workspace
  rw [parts, bind_run, ask_run]
  cases workspace.disk.pathExists path with
  | error fault => exact ⟨[], rfl⟩
  | ok isThere =>
      cases isThere with
      | false => exact missing workspace
      | true =>
          simp only [if_pos, bind_run, attempt_readDocument_run]
          cases workspace.disk.document path with
          | ok document => exact present document workspace
          | error failure =>
              by_cases isExpected : failure.isBrokenDocument
              · simp only [if_pos isExpected]
                exact broken failure workspace
              · simp only [if_neg isExpected]
                exact ⟨[], trivial⟩

namespace Loads

variable {α : Type} {path : Path} {load : Action α} {ofDocument : Value → α} {absent : α}
  {workspace : Workspace}

theorem of_missing (loads : Loads path load ofDocument absent)
    (missing : workspace.disk.pathExists path = .ok false) :
    ∃ later, load workspace = .ok absent later := by
  obtain ⟨log, same⟩ := loads workspace
  rw [missing] at same
  exact ⟨_, same⟩

theorem of_directory (loads : Loads path load ofDocument absent)
    (isThere : workspace.disk.pathExists path = .ok true)
    (unread : workspace.disk.read path = .error ⟨.isDirectory, path⟩) :
    ∃ later, load workspace = .ok absent later := by
  obtain ⟨log, same⟩ := loads workspace
  have broken : workspace.disk.document path = .error (.file ⟨.isDirectory, path⟩) := by
    rw [Disk.document, unread]
  rw [isThere, broken] at same
  exact ⟨_, same⟩

/-- Every file gives an answer, apart from one that stumbles. -/
theorem exists_ok_iff (loads : Loads path load ofDocument absent) :
    (∃ result later, load workspace = .ok result later) ↔
      (∃ isThere, workspace.disk.pathExists path = .ok isThere) ∧
        ¬ workspace.disk.Stumbles path := by
  obtain ⟨log, same⟩ := loads workspace
  rw [same]
  cases seen : workspace.disk.pathExists path with
  | error fault => simp
  | ok isThere =>
      cases isThere with
      | false =>
          have smooth : ¬ workspace.disk.Stumbles path := by
            intro stumbles
            rw [stumbles.pathExists] at seen
            cases seen
          simp [smooth]
      | true =>
          rw [Disk.stumbles_iff seen]
          cases workspace.disk.document path with
          | ok document => simp
          | error failure => cases isExpected : failure.isBrokenDocument <;> simp [isExpected]

theorem result (loads : Loads path load ofDocument absent) {answer : α} {later : Workspace}
    (answered : load workspace = .ok answer later) :
    (∃ document, workspace.disk.document path = .ok document ∧ answer = ofDocument document) ∨
      (∀ document, workspace.disk.document path ≠ .ok document) ∧ answer = absent := by
  obtain ⟨log, same⟩ := loads workspace
  rw [same] at answered
  cases seen : workspace.disk.pathExists path with
  | error fault =>
      rw [seen] at answered
      cases answered
  | ok isThere =>
      rw [seen] at answered
      cases isThere with
      | false =>
          cases answered
          refine .inr ⟨fun document isDocument => ?_, rfl⟩
          rw [Disk.pathExists_of_document_eq_ok isDocument] at seen
          cases seen
      | true =>
          cases read : workspace.disk.document path with
          | ok document =>
              simp only [read] at answered
              cases answered
              exact .inl ⟨document, rfl, rfl⟩
          | error failure =>
              simp only [read] at answered
              split at answered
              · cases answered
                refine .inr ⟨fun document isDocument => ?_, rfl⟩
                cases isDocument
              · cases answered

end Loads

variable [Console] {path : Path}

theorem loadOptions_loads (unmarked : IsUnmarked path.name) :
    Loads path (loadOptions path) BuilderOptions.ofDocument .default := by
  have absent : Console.fault? ("  " ++
      Markup.tagged "dim" (path.name ++ " not found, using defaults")) = none :=
    Console.fault?_of_isTidy (.append (IsUnmarked.isTidy (by decide))
      ((unmarked.append (by decide)).tagged (by decide)))
  have complete : Console.fault? ("  Loaded custom configuration from " ++
      Markup.tagged "bold" path.name) = none :=
    Console.fault?_of_isTidy (.append (IsUnmarked.isTidy (by decide))
      (unmarked.tagged (by decide)))
  refine .of_parts rfl (fun document workspace => ?_) (fun failure workspace => ?_)
    fun workspace => ?_
  · cases document with
    | map entries =>
        simp only [BuilderOptions.ofDocument]
        cases BuilderOptions.ofValue (.map entries) with
        | ok options =>
            simp only [bind_run, say_of_shown complete]
            exact ⟨_, rfl⟩
        | error issues =>
            simp only [bind_run, report_run]
            exact ⟨_, rfl⟩
    | null => exact ⟨_, rfl⟩
    | _ =>
        simp only [bind_run, report_run]
        exact ⟨_, rfl⟩
  · simp only [bind_run, report_run]
    exact ⟨_, rfl⟩
  · simp only [bind_run, say_of_shown absent]
    exact ⟨_, rfl⟩

theorem loadPackageName_loads (path : Path) :
    Loads path (loadPackageName path)
      (fun document => (nameOf? document).getD defaultPackageName) defaultPackageName := by
  refine .of_parts rfl (fun _ _ => ⟨_, rfl⟩) (fun failure workspace => ?_) fun _ => ⟨_, rfl⟩
  simp only [bind_run, report_run]
  exact ⟨_, rfl⟩

/--
Whatever the loader makes of texts, the options and the package name are found for every file that can
be looked for, unless the file stumbles. The options are those of the whole document, or all of them
are the defaults as no options are complete for the file. The name is never empty.
-/
theorem configuration_loaded_iff (workspace : Workspace) (unmarked : IsUnmarked path.name) :
    ((∃ options later, loadOptions path workspace = .ok options later) ↔
      (∃ isThere, workspace.disk.pathExists path = .ok isThere) ∧
        ¬ workspace.disk.Stumbles path) ∧
    (∀ options later, loadOptions path workspace = .ok options later →
      (∃ entries, workspace.disk.document path = .ok (.map entries) ∧
        BuilderOptions.IsComplete entries options) ∨
      options = .default ∧ ∀ entries complete,
        workspace.disk.document path = .ok (.map entries) →
          ¬ BuilderOptions.IsComplete entries complete) ∧
    ((∃ name later, loadPackageName path workspace = .ok name later) ↔
      (∃ isThere, workspace.disk.pathExists path = .ok isThere) ∧
        ¬ workspace.disk.Stumbles path) ∧
    ∀ name later, loadPackageName path workspace = .ok name later → name ≠ [] := by
  refine ⟨(loadOptions_loads unmarked).exists_ok_iff, fun options later answered => ?_,
    (loadPackageName_loads path).exists_ok_iff, fun name later answered => ?_⟩
  · obtain ⟨document, isDocument, rfl⟩ | ⟨isNone, rfl⟩ :=
      (loadOptions_loads unmarked).result answered
    · obtain ⟨entries, rfl, complete⟩ | ⟨isDefault, isUnfit⟩ :=
        BuilderOptions.ofDocument_cases document
      · exact .inl ⟨entries, isDocument, complete⟩
      · refine .inr ⟨isDefault, fun entries complete isMap => isUnfit entries complete ?_⟩
        rw [isDocument] at isMap
        cases isMap
        rfl
    · exact .inr ⟨rfl, fun entries complete isMap => absurd isMap (isNone _)⟩
  · obtain ⟨document, -, rfl⟩ | ⟨-, rfl⟩ := (loadPackageName_loads path).result answered
    · exact nameOf?_getD_ne_nil document
    · decide

end Action

end Loading

namespace Action

/-- A project with some content of its configuration file. -/
def configuredBy (content : Bytes) : Workspace :=
  ⟨⟨.directory [("routegen.yaml", .file content)], []⟩, [], []⟩

/-- A configuration with a fit value and an unfit one. -/
def mixedConfiguration : Text :=
  "fallbackPage: NotFoundPage\nignoreDirs: 7\n"

theorem load_mixedConfiguration :
    ∃ document, DocumentLoader.load mixedConfiguration.withLineFeeds = .ok document ∧
      BuilderOptions.ofDocument document = .default := by
  have seen : (DocumentLoader.load mixedConfiguration.withLineFeeds).toOption.map
      BuilderOptions.ofDocument = some .default := by decide +kernel
  cases loaded : DocumentLoader.load mixedConfiguration.withLineFeeds with
  | ok document =>
      rw [loaded] at seen
      exact ⟨document, rfl, Option.some.inj seen⟩
  | error fault =>
      rw [loaded] at seen
      cases seen

/-- One unfit value, and the fit one does not count either. -/
theorem configuration_loaded_mixed :
    IsUnmarked (Path.ofText "routegen.yaml").name ∧
      ∃ later, loadOptions (.ofText "routegen.yaml")
        (configuredBy (Utf8.encode mixedConfiguration)) = .ok .default later := by
  have unmarked : IsUnmarked (Path.ofText "routegen.yaml").name := by decide
  have decoded : Utf8.decode (Utf8.encode mixedConfiguration) = .ok mixedConfiguration := by decide
  obtain ⟨document, loaded, isDefault⟩ := load_mixedConfiguration
  have isDocument : (configuredBy (Utf8.encode mixedConfiguration)).disk.document
      (.ofText "routegen.yaml") = .ok document := by
    have found : (configuredBy (Utf8.encode mixedConfiguration)).disk.read
        (.ofText "routegen.yaml") = .ok (Utf8.encode mixedConfiguration) := rfl
    rw [Disk.document, found]
    simp only [decoded, loaded]
  have smooth : ¬ (configuredBy (Utf8.encode mixedConfiguration)).disk.Stumbles
      (.ofText "routegen.yaml") := by
    rw [Disk.stumbles_iff rfl, isDocument]
    rintro ⟨_, broken, -⟩
    cases broken
  obtain ⟨exists_ok, found, -⟩ :=
    configuration_loaded_iff (configuredBy (Utf8.encode mixedConfiguration)) unmarked
  obtain ⟨options, later, answered⟩ := exists_ok.mpr ⟨⟨true, rfl⟩, smooth⟩
  suffices options = .default by
    subst this
    exact ⟨unmarked, later, answered⟩
  obtain ⟨entries, isMap, complete⟩ | ⟨isDefault, -⟩ := found options later answered
  · cases isDocument.symm.trans isMap
    rw [BuilderOptions.ofDocument, BuilderOptions.ofValue_eq_ok_iff.mpr complete] at isDefault
    exact isDefault
  · exact isDefault

/-- A configuration with a date in the thirteenth month. -/
def datedConfiguration : Text :=
  "when: 2020-13-45\n"

/-- Does a reading end with a fault? -/
def endsWithFault (fault : Yaml.Fault) : Yaml.Read Value → Bool
  | .ok _ => false
  | .error other => other == fault

theorem endsWithFault_iff {fault : Yaml.Fault} {read : Yaml.Read Value} :
    endsWithFault fault read = true ↔ read = .error fault := by
  cases read <;> simp [endsWithFault]

theorem load_datedConfiguration :
    DocumentLoader.load datedConfiguration = .error Yaml.Fault.monthRange.asDocumentFault := by
  have unmade : Yaml.load datedConfiguration = .error .monthRange :=
    endsWithFault_iff.mp (by decide +kernel)
  change (Yaml.load datedConfiguration).mapError Yaml.Fault.asDocumentFault = _
  rw [unmade]
  rfl

theorem configuredBy_stumbles :
    (configuredBy (Utf8.encode datedConfiguration)).disk.Stumbles (.ofText "routegen.yaml") := by
  have decoded : Utf8.decode (Utf8.encode datedConfiguration) = .ok datedConfiguration := by decide
  have plain : datedConfiguration.withLineFeeds = datedConfiguration := by decide
  have unmade : DocumentLoader.load datedConfiguration.withLineFeeds =
      .error Yaml.Fault.monthRange.asDocumentFault := by
    rw [plain]
    exact load_datedConfiguration
  exact .ofText rfl decoded unmade rfl

/-- A month beyond the twelfth stops the reading. -/
theorem not_forall_configuration_loaded :
    ¬ ∀ content, ∃ options later,
      loadOptions (.ofText "routegen.yaml") (configuredBy content) = .ok options later := by
  intro loaded
  have loads : Loads (.ofText "routegen.yaml") (loadOptions (.ofText "routegen.yaml"))
      BuilderOptions.ofDocument .default := loadOptions_loads (by decide)
  exact (loads.exists_ok_iff.mp (loaded _)).2 configuredBy_stumbles

end Action

end DartRoutes
