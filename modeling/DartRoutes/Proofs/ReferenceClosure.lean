import DartRoutes.Proofs.NameCharacters
import DartRoutes.Proofs.ReferenceValue
import DartRoutes.Proofs.RouterCode

/-!
# Declared references

The router refers to constants in its quick navigation list, in its branch order and in its login
gate. The lists only use names of routes, and every name of a route is declared. The gate sends
everyone who is logged in to a constant `home`, and the landing route of the home group does not
declare it, because a landing route takes the name of its group. So every reference is declared
exactly if some other route has the name `home`.
-/

namespace DartRoutes

theorem isNamePart_iff {character : Char} :
    isNamePart character = true ↔
      65 ≤ character.toNat ∧ character.toNat ≤ 90 ∨ 97 ≤ character.toNat ∧ character.toNat ≤ 122 ∨
        48 ≤ character.toNat ∧ character.toNat ≤ 57 ∨ character = '_' ∨ character = '$' := by
  unfold isNamePart Char.isAlphanum Char.isAlpha Char.isUpper Char.isLower Char.isDigit
  simp only [Bool.or_eq_true, Bool.and_eq_true, decide_eq_true_eq, ge_iff_le, beq_iff_eq,
    UInt32.le_iff_toNat_le, or_assoc]
  rfl

theorem caseClosed_isNamePart : CaseClosed fun character => isNamePart character = true where
  underscore := rfl
  finalSigma := fun part => by cases part
  lowered := by
    intro character part lowered member
    have ascii : character.toNat < 0x80 := by
      rcases isNamePart_iff.mp part with capital | small | digit | rfl | rfl
      · omega
      · omega
      · omega
      · decide
      · decide
    rw [lowerCharacter, if_pos ascii] at member
    obtain rfl := List.mem_singleton.mp member
    rcases toLower_cases character with same | ⟨first, last, moved⟩
    · rw [same]
      exact part
    · exact isNamePart_iff.mpr (.inr (.inl (by omega)))

def HasNames (routes : List Route) : Prop :=
  ∀ route ∈ routes, IsName route.group ∧ IsName route.page

instance (routes : List Route) : Decidable (HasNames routes) :=
  inferInstanceAs (Decidable (∀ route ∈ routes, IsName route.group ∧ IsName route.page))

namespace NavigationPlan

variable {routes : List Route}

theorem isName_name (names : HasNames routes) {route : Route} (listed : route ∈ routes) :
    IsName route.name := by
  obtain ⟨group, page⟩ := names route listed
  rw [Route.name]
  split
  · exact group
  · exact caseClosed_isNamePart.toRouteName page

theorem pageImport_staysQuoted (names : HasNames routes) {route : Route}
    (listed : route ∈ routes) : StaysQuoted (pageImport defaultPackageName route) := by
  obtain ⟨group, page⟩ := names route listed
  have stem : IsName route.fileStem :=
    caseClosed_isNamePart.layerStem page (List.all_eq_true.mp (by decide))
  have package : StaysQuoted ("package:" ++ defaultPackageName ++ "/features/") :=
    .append (.append (.ofList (by decide)) (.ofList (by decide))) (.ofList (by decide))
  have slash : StaysQuoted "/" := .ofList (by decide)
  have folder := (package.append (.of_isName group)).append slash
  exact (folder.append (.of_isName stem)).append (.ofList (by decide))

theorem branchOrder_cases {packageName reference : Text}
    (member : reference ∈ (ofRoutes routes packageName).branchOrder) :
    reference = "'/'" ∨
      ∃ group ∈ shellGroups routes, group ≠ [] ∧ reference = constantRef group := by
  obtain ⟨branch, branchMember, rfl⟩ := List.mem_map.mp member
  rw [Branch.orderRef]
  by_cases home : branch.group = []
  · rw [if_pos (by simpa using home)]
    exact .inl rfl
  · rw [if_neg (by simpa using home)]
    exact .inr ⟨branch.group, (arranges_of_mem_branches branchMember).1, home, rfl⟩

theorem mem_declared_iff {packageName name : Text} {options : BuilderOptions} :
    name ∈ ((ofRoutes routes packageName).view options).declared ↔
      name ≠ [] ∧ ∃ route ∈ routes, route.name = name := by
  have written : ((ofRoutes routes packageName).view options).declared =
      (ofRoutes routes packageName).routeConstants.map RouteConstant.name := List.map_map
  rw [written, (listsFirsts_routeConstants routes packageName).mem_keys_iff]
  constructor
  · rintro ⟨route, listed, named, rfl⟩
    exact ⟨named, route, listed, rfl⟩
  · rintro ⟨named, route, listed, rfl⟩
    exact ⟨route, listed, named, rfl⟩

theorem constant_mem_quickEntries {packageName name : Text} {options : BuilderOptions}
    (member : .constant name ∈ ((ofRoutes routes packageName).view options).quickEntries) :
    name ≠ [] ∧ ∃ route ∈ routes, route.name = name := by
  obtain ⟨route, listed, -, written⟩ := mem_quickEntries_iff.mp member
  rw [QuickNavItem.entry] at written
  split at written
  · cases written
  · rename_i named
    cases written
    exact ⟨by simpa [quickItem] using named, route, listed, rfl⟩

theorem isNamed_view (names : HasNames routes) :
    ((ofRoutes routes defaultPackageName).view .default).IsNamed where
  customImports := rfl
  pageImports := by
    intro uri member
    obtain ⟨route, selected, rfl⟩ := List.mem_map.mp (mem_of_mem_firsts member)
    exact pageImport_staysQuoted names (List.mem_of_mem_filter selected)
  constants := by
    intro constant member
    obtain ⟨-, route, listed, same⟩ := mem_declared_iff.mp (List.mem_map_of_mem member)
    exact same ▸ isName_name names listed
  quickEntries := by
    intro name member
    obtain ⟨-, route, listed, rfl⟩ := constant_mem_quickEntries member
    exact isName_name names listed
  branchRefs := by
    intro reference member
    rcases branchOrder_cases member with home | ⟨group, shell, -, written⟩
    · exact .inl home
    · obtain ⟨-, route, listed, rfl⟩ := mem_shellGroups_iff.mp shell
      exact .inr ⟨route.group, (names route listed).1, written⟩
  fallbackPage := by
    change IsName BuilderOptions.default.fallbackPage
    exact List.all_eq_true.mp (by decide)
  shellWidget := by
    change IsName BuilderOptions.default.shellWidget
    exact List.all_eq_true.mp (by decide)
  authRoutes := by
    intro mounted member
    obtain ⟨route, selected, rfl⟩ := List.mem_map.mp member
    exact (names route (List.mem_of_mem_filter selected)).2
  branches := by
    intro mounted member
    obtain ⟨branch, branchMember, rfl⟩ := List.mem_map.mp member
    refine ⟨?_, ?_⟩
    · exact (names branch.root (mem_of_mem_branch branchMember List.mem_cons_self)).2
    · intro child childMember
      obtain ⟨route, inside, rfl⟩ := List.mem_map.mp childMember
      exact (names route (mem_of_mem_branch branchMember (List.mem_cons_of_mem _ inside))).2

theorem mem_declared_of_mem_quickEntries {packageName name : Text} {options : BuilderOptions}
    (member : name ∈ ((ofRoutes routes packageName).view options).quickEntries.flatMap
      QuickEntry.names) :
    name ∈ ((ofRoutes routes packageName).view options).declared := by
  obtain ⟨entry, entryMember, mentioned⟩ := List.mem_flatMap.mp member
  cases entry with
  | constant other =>
      obtain rfl := List.mem_singleton.mp mentioned
      exact mem_declared_iff.mpr (constant_mem_quickEntries entryMember)
  | location path => cases mentioned

/-- A group is the name of its landing route. -/
theorem mem_declared_of_mem_branchRefs (landings : HasLandings routes)
    {packageName name : Text} {options : BuilderOptions}
    (member : name ∈ ((ofRoutes routes packageName).view options).branchRefs.flatMap
      RouterView.referenceNames) :
    name ∈ ((ofRoutes routes packageName).view options).declared := by
  obtain ⟨reference, referenceMember, mentioned⟩ := List.mem_flatMap.mp member
  rcases branchOrder_cases referenceMember with rfl | ⟨group, shell, named, rfl⟩
  · have silent : RouterView.referenceNames "'/'" = [] := by decide
    rw [silent] at mentioned
    cases mentioned
  · have read : RouterView.referenceNames (constantRef group) = [group] :=
      RouterView.referenceNames_routeNames group
    rw [read] at mentioned
    obtain rfl := List.mem_singleton.mp mentioned
    obtain ⟨route, listed, rfl, landing⟩ := landings name shell named
    exact mem_declared_iff.mpr ⟨named, route, listed, Route.name_of_isRoot landing⟩

theorem mem_declared_or_home
    (login : ∃ route ∈ routes, route.isAuth = true ∧ route.isRoot = true)
    (landings : HasLandings routes) {packageName name : Text} {options : BuilderOptions}
    (member : name ∈ ((ofRoutes routes packageName).view options).referenced) :
    name ∈ ((ofRoutes routes packageName).view options).declared ∨ name = "home" := by
  rcases List.mem_append.mp member with lists | gate
  · rcases List.mem_append.mp lists with quick | order
    · exact .inl (mem_declared_of_mem_quickEntries quick)
    · exact .inl (mem_declared_of_mem_branchRefs landings order)
  · have names : name = "auth" ∨ name = "home" := by
      simpa [RouterView.gateReferences] using gate
    refine names.imp ?_ id
    rintro rfl
    obtain ⟨route, listed, auth, landing⟩ := login
    have loginName : route.name = authGroup :=
      (Route.name_of_isRoot landing).trans (beq_iff_eq.mp auth)
    exact mem_declared_iff.mpr ⟨by decide, route, listed, loginName⟩

theorem referenced_declared_iff
    (login : ∃ route ∈ routes, route.isAuth = true ∧ route.isRoot = true)
    (landings : HasLandings routes) {packageName : Text} {options : BuilderOptions} :
    let view := (ofRoutes routes packageName).view options
    (∀ name ∈ view.referenced, name ∈ view.declared) ↔ ∃ route ∈ routes, route.name = "home" := by
  intro view
  constructor
  · intro closed
    have gate : ("home" : Text) ∈ RouterView.gateReferences := by decide
    exact (mem_declared_iff.mp (closed _ (List.mem_append_right _ gate))).2
  · intro home name member
    rcases mem_declared_or_home login landings member with declared | rfl
    · exact declared
    · exact mem_declared_iff.mpr ⟨by decide, home⟩

/-- Whatever the routes are called, every name that the router uses is a constant exactly if some
route has the name `home`. The text says the same as long as the names are identifiers, and then
`home` is the only constant that can be missing. -/
theorem references_declared_iff
    (login : ∃ route ∈ routes, route.isAuth = true ∧ route.isRoot = true)
    (landings : HasLandings routes) :
    let view := (ofRoutes routes defaultPackageName).view .default
    let source := navigationSource routes .default defaultPackageName
    let homeNamed := ∃ route ∈ routes, route.name = "home"
    ((∀ name ∈ view.referenced, name ∈ view.declared) ↔ homeNamed) ∧
      (HasNames routes →
        (∀ name ∈ references source, name ∈ declarations source ∨ name = "home") ∧
          ((∀ name ∈ references source, name ∈ declarations source) ↔ homeNamed)) := by
  intro view source homeNamed
  refine ⟨referenced_declared_iff login landings, fun names => ?_⟩
  have referenced : references source = view.referenced :=
    RouterView.references_source (isNamed_view names)
  have declared : declarations source = view.declared :=
    RouterView.declarations_source (isNamed_view names)
  rw [referenced, declared]
  exact ⟨fun name => mem_declared_or_home login landings, referenced_declared_iff login landings⟩

/-- A page of the home group that bears the name `home` closes the gap. -/
theorem references_declared_shop :
    let routes : List Route := [⟨"auth", "/", "LoginPage", false⟩, ⟨"", "/", "WelcomePage", false⟩,
      ⟨"", "/home", "HomePage", false⟩, ⟨"shop", "/", "ShopPage", false⟩,
      ⟨"shop", "/cart", "CartPage", true⟩]
    let source := navigationSource routes .default defaultPackageName
    (∃ route ∈ routes, route.isAuth = true ∧ route.isRoot = true) ∧ HasLandings routes ∧
      HasNames routes ∧ ("shop" : Text) ∈ references source ∧
        ∀ name ∈ references source, name ∈ declarations source := by
  intro routes source
  have login : ∃ route ∈ routes, route.isAuth = true ∧ route.isRoot = true := by decide
  have groups : shellGroups routes = [[], "shop"] :=
    shellGroups_of_pairwise (by decide) (by decide)
  have landings : HasLandings routes := by
    rw [HasLandings, groups]
    decide
  have names : HasNames routes := by decide
  have home : ∃ route ∈ routes, route.name = "home" := by decide
  have referenced : references source = _ := RouterView.references_source (isNamed_view names)
  refine ⟨login, landings, names, ?_, ((references_declared_iff login landings).2 names).2.mpr home⟩
  rw [referenced]
  exact List.mem_append_left _ (List.mem_append_left _ (by decide))

/-- With one landing route for the login and one for the home group, the gate refers to a constant
that no line declares. -/
theorem not_references_declared :
    let routes : List Route := [⟨"auth", "/", "LoginPage", false⟩, ⟨"", "/", "HomePage", false⟩]
    let source := navigationSource routes .default defaultPackageName
    (∃ route ∈ routes, route.isAuth = true ∧ route.isRoot = true) ∧
      (∀ group ∈ shellGroups routes, ∃ route ∈ routes, route.group = group ∧ route.isRoot = true) ∧
        (("home" : Text) ∈ references source ∧ ("home" : Text) ∉ declarations source) := by
  intro routes source
  have groups : shellGroups routes = [[]] := shellGroups_of_pairwise (by decide) (by decide)
  have named : ((ofRoutes routes defaultPackageName).view .default).IsNamed :=
    isNamed_view (by decide)
  have referenced : references source = _ := RouterView.references_source named
  have declared : declarations source = _ := RouterView.declarations_source named
  refine ⟨by decide, ?_, ?_, ?_⟩
  · rw [groups]
    decide
  · rw [referenced]
    exact List.mem_append_right _ (by decide)
  · have unnamed : ¬ ∃ route ∈ routes, route.name = "home" := by decide
    rw [declared, mem_declared_iff]
    exact fun member => unnamed member.2

end NavigationPlan

end DartRoutes
