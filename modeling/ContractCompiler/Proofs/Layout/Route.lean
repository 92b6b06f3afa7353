import ContractCompiler.Proofs.Layout.Alias
import ContractCompiler.Proofs.Text.Case

/-!
# Where a relative specifier leads

Without an alias a module is imported by the way from the directory of the importing model to the
file of the other: up to where the two directories part, then down to the file.

* `walkInside?_route` — the way between two directories of names leads from the one to the other.
* `relativeSpecifier_eq` — a specifier writes the way and the name of the file.
* `resolve_leads_to_file` — it leads to the file of its target and never leaves the project, as long
  as the output directories do not leave it.
-/

namespace ContractCompiler

namespace Path

/-! ## Walking inside a project -/

/-- Where components lead from a location without leaving the tree that it stands in: `..` takes
away a name, which has to be there, and nothing leads to the root of the file system. -/
def walkInside? (l : Location) : List PathComponent → Option Location
  | [] => some l
  | .root :: _ => none
  | .here :: rest => walkInside? l rest
  | .up :: rest => if l = [] then none else walkInside? l.dropLast rest
  | .name n :: rest => walkInside? (l ++ [n]) rest

/-- A walk that stays inside leads where the components lead. -/
theorem follow_of_walkInside? {cs : List PathComponent} :
    ∀ {l m : Location}, walkInside? l cs = some m → follow l cs = m := by
  induction cs with
  | nil =>
    intro l m h
    exact Option.some.inj h
  | cons c rest ih =>
    intro l m h
    cases c with
    | root => cases h
    | here => exact ih h
    | up =>
      simp only [walkInside?] at h
      split at h
      · cases h
      · exact ih h
    | name n => exact ih h

theorem walkInside?_names (names : List String) (back : List PathComponent) :
    ∀ l : Location, walkInside? l (names.map .name ++ back) = walkInside? (l ++ names) back := by
  induction names with
  | nil =>
    intro l
    simp
  | cons n rest ih =>
    intro l
    simp [walkInside?, ih]

/-- As many steps up as there are names behind a location lead back to it. -/
theorem walkInside?_up (back : List PathComponent) (names : List String) :
    ∀ l : Location,
      walkInside? (l ++ names) (List.replicate names.length .up ++ back) = walkInside? l back := by
  induction names generalizing back with
  | nil =>
    intro l
    simp
  | cons n rest ih =>
    intro l
    have h := ih (.up :: back) (l ++ [n])
    rw [List.append_assoc, List.singleton_append] at h
    rw [List.length_cons, List.replicate_succ', List.append_assoc, List.singleton_append, h]
    simp [walkInside?]

/-- A leading `.` leads nowhere. -/
theorem walkInside?_namedComponents (cs : List PathComponent) :
    ∀ l : Location, walkInside? l (Layout.namedComponents cs) = walkInside? l cs := by
  induction cs with
  | nil => exact fun _ => rfl
  | cons c rest ih =>
    intro l
    cases c with
    | root => rfl
    | here => exact ih l
    | up =>
      show (if l = [] then none else walkInside? l.dropLast (Layout.namedComponents rest)) = _
      rw [ih]
      rfl
    | name n => exact ih (l ++ [n])

/-! ## Paths that stay inside -/

/-- A path that does not leave the directory that it is seen from: it starts there, and writes no
`..`. -/
structure IsInner (p : Path) : Prop where
  relative : p.isAbsolute = false
  descending : .up ∉ p.components

instance (p : Path) : Decidable p.IsInner :=
  decidable_of_iff (p.isAbsolute = false ∧ .up ∉ p.components)
    ⟨fun h => ⟨h.1, h.2⟩, fun h => ⟨h.relative, h.descending⟩⟩

/-- Steps that write no `..` are names. -/
theorem exists_names {cs : List PathComponent} (h : ∀ c ∈ cs, ∃ n, c = .name n) :
    ∃ names : List String, cs = names.map .name := by
  induction cs with
  | nil => exact ⟨[], rfl⟩
  | cons c rest ih =>
    obtain ⟨⟨n, rfl⟩, hrest⟩ := List.forall_mem_cons.1 h
    obtain ⟨names, rfl⟩ := ih hrest
    exact ⟨n :: names, rfl⟩

theorem IsInner.exists_names {p : Path} (h : p.IsInner) :
    ∃ names : List String, Layout.namedComponents p.components = names.map .name := by
  apply Path.exists_names
  intro c hc
  rw [Layout.namedComponents_components, h.relative] at hc
  rcases eq_of_mem_steps hc with rfl | hname
  · refine absurd ?_ h.descending
    rw [components_eq]
    exact List.mem_append_right _ hc
  · exact hname

end Path

namespace Layout

variable {l : Layout} {importer target : Contract}

/-! ## The way between two directories -/

/-- The way from one directory to another: up to where they part, then down. -/
def route (from' to' : List PathComponent) : List PathComponent :=
  List.replicate (from'.length - commonLength from' to') .up ++ to'.drop (commonLength from' to')

theorem stepsBetween_eq (from' to' : List PathComponent) :
    stepsBetween from' to' = (route from' to').map PathComponent.text := by
  simp [stepsBetween, route, PathComponent.text]

/-- What both directories start with is no part of the way. -/
theorem route_cons (c : PathComponent) (from' to' : List PathComponent) :
    route (c :: from') (c :: to') = route from' to' := by
  simp [route, commonLength]

/-- Directories that part at once are joined by all of both. -/
theorem route_cons_of_ne {c d : PathComponent} (h : c ≠ d) (from' to' : List PathComponent) :
    route (c :: from') (d :: to') = List.replicate (from'.length + 1) .up ++ d :: to' := by
  simp [route, commonLength, h]

/-- **The way between two directories of names leads from the one to the other**, inside any
directory that both are seen from. -/
theorem walkInside?_route (back : List PathComponent) (from' : List String) :
    ∀ (to' : List String) (l : Location),
      Path.walkInside? (l ++ from') (route (from'.map .name) (to'.map .name) ++ back) =
        Path.walkInside? (l ++ to') back := by
  induction from' with
  | nil =>
    intro to' l
    have hroute : route [] (to'.map .name) = to'.map .name := by simp [route, commonLength]
    rw [List.map_nil, hroute, List.append_nil, Path.walkInside?_names]
  | cons a rest ih =>
    intro to' l
    cases to' with
    | nil =>
      have hroute : route ((a :: rest).map .name) [] =
          List.replicate (a :: rest).length .up := by simp [route, commonLength]
      rw [List.map_nil, hroute, Path.walkInside?_up, List.append_nil]
    | cons b more =>
      by_cases hab : a = b
      · -- both walks go through the common directory
        subst hab
        have h := ih more (l ++ [a])
        rw [List.map_cons, List.map_cons, route_cons]
        rwa [List.append_assoc, List.append_assoc] at h
      · have hne : PathComponent.name a ≠ PathComponent.name b := fun h =>
          hab (PathComponent.name.inj h)
        rw [List.map_cons, List.map_cons, route_cons_of_ne hne, List.length_map,
          ← List.length_cons (a := a), List.append_assoc, Path.walkInside?_up, ← List.map_cons,
          Path.walkInside?_names]

/-! ## The text of a specifier -/

/-- The way between the directories of two models. -/
def wayBetween (l : Layout) (importer target : Contract) : List PathComponent :=
  route (namedComponents (l.modelDir importer).components)
    (namedComponents (l.modelDir target).components)

theorem text_ne_empty_of_mem {p : Path} {c : PathComponent}
    (h : c ∈ namedComponents p.components) : c.text ≠ "" := by
  by_cases hroot : c = .root
  · subst hroot
    decide
  · exact (isStep_of_mem_namedComponents h hroot).text_ne_empty

theorem mem_route {c : PathComponent} {from' to' : List PathComponent} (h : c ∈ route from' to') :
    c = .up ∨ c ∈ to' := by
  rcases List.mem_append.1 h with h | h
  · exact Or.inl (List.eq_of_mem_replicate h)
  · exact Or.inr (List.mem_of_mem_drop h)

theorem intercalate_ne_empty {s t : String} (ht : t ≠ "") (ts : List String) :
    s.intercalate (t :: ts) ≠ "" := by
  cases ts with
  | nil => simpa using ht
  | cons u us =>
    rw [String.intercalate_cons_cons]
    simp [ht]

/-- **A relative specifier writes the way, or `./` where there is none, and the name of the file.** -/
theorem relativeSpecifier_eq (l : Layout) (importer target : Contract) :
    l.relativeSpecifier importer target =
      (if l.wayBetween importer target = [] then "./"
        else Path.folderOf (l.wayBetween importer target)) ++ target.fileStem := by
  have hsteps : l.relativeSpecifier importer target =
      (let way := "/".intercalate ((l.wayBetween importer target).map PathComponent.text)
       if way.isEmpty then "./" ++ target.fileStem else way ++ "/" ++ target.fileStem) := by
    rw [relativeSpecifier, stepsBetween_eq]
    rfl
  rw [hsteps]
  cases hway : l.wayBetween importer target with
  | nil => rfl
  | cons c rest =>
    have hc : c.text ≠ "" := by
      have hmem : c ∈ l.wayBetween importer target := by simp [hway]
      rcases mem_route hmem with rfl | hmem
      · decide
      · exact text_ne_empty_of_mem hmem
    have hway : ("/".intercalate ((c :: rest).map PathComponent.text)).isEmpty = false := by
      simpa using intercalate_ne_empty hc (rest.map PathComponent.text)
    simp only [hway, Bool.false_eq_true, if_false, Path.intercalate_slash (List.cons_ne_nil c rest),
      List.cons_ne_nil]

/-! ## Where a specifier leads -/

theorem slash_not_mem_fileStem (h : '/' ∉ target.controllerName.toList) :
    '/' ∉ target.fileStem.toList := by
  have hlower : '/' ∉ (Text.lowercase target.controllerName).toList := by
    intro hmem
    exact h (Text.mem_of_mem_lowercase (by decide) hmem)
  rw [Contract.fileStem, String.toList_append, List.mem_append, not_or]
  exact ⟨hlower, by decide⟩

/-- The name of a file, with any ending, is one step: it is neither empty nor `.` or `..`. -/
theorem steps_fileStem_append {ending : String} (hslash : '/' ∉ target.controllerName.toList)
    (hending : '/' ∉ ending.toList) :
    Path.steps (target.fileStem ++ ending) = [.name (target.fileStem ++ ending)] := by
  have hlength : 2 < (target.fileStem ++ ending).toList.length := by
    have hmodel : ".model".toList.length = 6 := by decide
    simp only [Contract.fileStem, String.toList_append, List.length_append, hmodel]
    omega
  have hne : ∀ s : String, s.toList.length ≤ 2 → target.fileStem ++ ending ≠ s := by
    intro s hs heq
    rw [heq] at hlength
    omega
  have hname : '/' ∉ (target.fileStem ++ ending).toList := by
    simp [slash_not_mem_fileStem hslash, hending]
  exact Path.steps_of_name hname (hne "" (by decide)) (hne "." (by decide)) (hne ".." (by decide))

/-- The output directories stay inside the project. -/
structure IsInner (l : Layout) : Prop where
  generated : l.generatedDir.IsInner
  source : l.sourceDir.IsInner

theorem isAbsolute_modelDir (hl : l.IsInner) (c : Contract) : (l.modelDir c).isAbsolute = false := by
  unfold modelDir
  rw [Path.isAbsolute_join (by decide)]
  split
  · exact hl.source.relative
  · exact hl.generated.relative

/-- The directory of a model is given by names. -/
theorem exists_names_modelDir (hl : l.IsInner) (c : Contract) :
    ∃ names : List String, namedComponents (l.modelDir c).components = names.map .name := by
  have hdir : ((if c.isModuleContract then l.sourceDir else l.generatedDir) : Path).IsInner := by
    split
    · exact hl.source
    · exact hl.generated
  obtain ⟨names, hnames⟩ := hdir.exists_names
  refine ⟨names ++ ["models"], ?_⟩
  rw [modelDir, components_join_models, namedComponents_append, hnames, List.map_append]
  rfl

theorem isStep_of_mem_wayBetween (hl : l.IsInner) {c : PathComponent}
    (h : c ∈ l.wayBetween importer target) : Path.IsStep c := by
  rcases mem_route h with rfl | hc
  · decide
  · rw [namedComponents_components, isAbsolute_modelDir hl, if_neg (by decide), List.nil_append] at hc
    exact Path.isStep_of_mem_steps hc

theorem resolve_of_no_alias (halias : l.alias? = none) (useAlias : Bool) :
    l.resolve importer target useAlias = l.relativeSpecifier importer target := by
  unfold resolve
  rw [halias]
  cases useAlias <;> rfl

/-- A relative specifier is read as the way and the name of the file. -/
theorem namedComponents_relativeSpecifier (hl : l.IsInner)
    (hslash : '/' ∉ target.controllerName.toList) :
    namedComponents (Path.mk (l.relativeSpecifier importer target)).components =
      l.wayBetween importer target ++ [.name target.fileStem] := by
  have hfile : Path.steps target.fileStem = [.name target.fileStem] := by
    simpa using steps_fileStem_append hslash (by decide : '/' ∉ "".toList)
  have hway : ∀ c ∈ l.wayBetween importer target, Path.IsStep c := fun _ hc =>
    isStep_of_mem_wayBetween hl hc
  rw [namedComponents_components, relativeSpecifier_eq]
  cases hcs : l.wayBetween importer target with
  | nil =>
    have hdot : "./" = "." ++ "/" := rfl
    have hhere : Path.steps "." = [] := by decide
    have hrelative : (Path.mk ("./" ++ target.fileStem)).isAbsolute = (Path.mk "./").isAbsolute :=
      Path.isAbsolute_append (by decide)
    rw [if_pos rfl, hrelative, if_neg (by decide), hdot, Path.steps_slash, hhere, hfile]
    rfl
  | cons c rest =>
    rw [hcs] at hway
    have hrelative : (Path.mk (Path.folderOf (c :: rest) ++ target.fileStem)).isAbsolute = false := by
      have hc : Path.IsStep c := hway c List.mem_cons_self
      rw [Path.folderOf_cons, String.append_assoc, String.append_assoc,
        Path.isAbsolute_append hc.text_ne_empty]
      exact Path.isAbsolute_of_slash_not_mem hc.slash_not_mem
    simp [hrelative, Path.steps_folderOf hway, hfile]

/-- **A relative specifier leads from the directory of the importing model to the file of the other**,
without its ending, and never leaves the project. -/
theorem resolve_leads_to_file {config : Config} (halias : config.app.importAlias = none)
    (hgenerated : (Path.mk config.app.generatedDir).IsInner)
    (hsource : (Path.mk config.app.sourceDir).IsInner) (importer : Contract) {target : Contract}
    (hslash : '/' ∉ target.controllerName.toList) (useAlias : Bool) :
    ∃ dir : Location,
      Path.walkInside? (((ofConfig config).modelDir importer).place [])
          (Path.mk ((ofConfig config).resolve importer target useAlias)).components =
        some (dir ++ [target.fileStem]) ∧
      ((ofConfig config).modelPath target).place [] = dir ++ [target.fileStem ++ ".ts"] := by
  have hl : (ofConfig config).IsInner := ⟨hgenerated, hsource⟩
  obtain ⟨start, hstart⟩ := exists_names_modelDir hl importer
  obtain ⟨dir, hdir⟩ := exists_names_modelDir hl target
  have hplace : ((ofConfig config).modelDir importer).place [] = start := by
    have hwalk := Path.walkInside?_names start [] []
    apply Path.follow_of_walkInside?
    rw [← Path.walkInside?_namedComponents, hstart]
    simpa [Path.walkInside?] using hwalk
  have hfile : Path.steps (target.fileStem ++ ".ts") = [.name (target.fileStem ++ ".ts")] :=
    steps_fileStem_append hslash (by decide)
  refine ⟨dir, ?_, ?_⟩
  · have hway := walkInside?_route [.name target.fileStem] start dir []
    rw [hplace, resolve_of_no_alias halias, ← Path.walkInside?_namedComponents,
      namedComponents_relativeSpecifier hl hslash, wayBetween, hstart, hdir]
    simpa [Path.walkInside?] using hway
  · apply Path.follow_of_walkInside?
    have hrelative : Relative target :=
      Path.isAbsolute_of_slash_not_mem (slash_not_mem_fileStem hslash)
    rw [← Path.walkInside?_namedComponents, namedComponents_modelPath hrelative, hdir, hfile,
      Path.walkInside?_names]
    simp [Path.walkInside?]

/-- A project that generates into a folder beside the models of its own source tree. -/
def nestedConfig : Config :=
  { Config.default with app := { AppSection.default with generatedDir := "src/models/generated" } }

theorem resolve_leads_to_file_nested :
    nestedConfig.app.importAlias = none ∧ (Path.mk nestedConfig.app.generatedDir).IsInner ∧
      (Path.mk nestedConfig.app.sourceDir).IsInner ∧ '/' ∉ account.controllerName.toList ∧
      ∃ dir : Location,
        Path.walkInside? (((ofConfig nestedConfig).modelDir member).place [])
            (Path.mk ((ofConfig nestedConfig).resolve member account true)).components =
          some (dir ++ ["user.model"]) ∧
        ((ofConfig nestedConfig).modelPath account).place [] = dir ++ ["user.model.ts"] :=
  ⟨rfl, by decide, by decide, by decide,
    resolve_leads_to_file rfl (by decide) (by decide) member (by decide) true⟩

end Layout

end ContractCompiler
