import ContractCompiler.Layout.Basic
import ContractCompiler.Proofs.Layout.Join

/-!
# What an aliased specifier means

An alias stands for both output directories: behind it a specifier writes the place of its target in
the directory that the target belongs to, and not which of the two directories that is.

* `resolve_eq_iff_behindAlias` — two aliased specifiers are the same when what they write behind the
  alias is.
* `resolve_eq_iff_fileStem` — between targets with one place in their output directories, a specifier
  tells exactly the names of the files.
* `sameFile_of_nested` — where the models of module contracts lie below the generated directory, a
  specifier means one file.
* `aliasMeaning_of_importAlias` — the cases together.
* `not_sameFile_members` — two files with one specifier, in the directories of a configuration that
  says nothing about them.
-/

namespace ContractCompiler

namespace Path

/-- The two paths have the same components but for a leading `.`. -/
def SameFile (p q : Path) : Prop :=
  Layout.namedComponents p.components = Layout.namedComponents q.components

instance (p q : Path) : Decidable (p.SameFile q) :=
  inferInstanceAs
    (Decidable (Layout.namedComponents p.components = Layout.namedComponents q.components))

end Path

namespace Layout

variable {l : Layout} {a b c d : Contract}

/-! ## Components but for a leading `.` -/

theorem namedComponents_append (cs ds : List PathComponent) :
    namedComponents (cs ++ ds) = namedComponents cs ++ namedComponents ds := List.filter_append ..

theorem namedComponents_of_steps {cs : List PathComponent} (h : ∀ c ∈ cs, Path.IsStep c) :
    namedComponents cs = cs :=
  List.filter_eq_self.2 fun c hc => bne_iff_ne.2 (h c hc).ne_here

/-- But for a leading `.`, a path is the root, if it starts there, and its steps. -/
theorem namedComponents_components (p : Path) :
    namedComponents p.components =
      (if p.isAbsolute then [.root] else []) ++ Path.steps p.text := by
  rw [Path.components_eq, namedComponents_append,
    namedComponents_of_steps fun _ => Path.isStep_of_mem_steps]
  unfold Path.opening
  split
  · rfl
  · split <;> rfl

/-- A component other than the root and a leading `.` is a step. -/
theorem isStep_of_mem_namedComponents {p : Path} {c : PathComponent}
    (h : c ∈ namedComponents p.components) (hroot : c ≠ .root) : Path.IsStep c := by
  rw [namedComponents_components] at h
  rcases List.mem_append.1 h with h | h
  · split at h
    · exact absurd (List.mem_singleton.1 h) hroot
    · cases h
  · exact Path.isStep_of_mem_steps h

theorem namedComponents_join {q : String} (hq : (Path.mk q).isAbsolute = false) (p : Path) :
    namedComponents (p.join q).components = namedComponents p.components ++ Path.steps q := by
  rw [namedComponents_components, namedComponents_components, Path.isAbsolute_join hq,
    Path.steps_join hq, List.append_assoc]

/-! ## Places in the output directories -/

theorem componentsBelow?_eq_some {p base : Path} {cs : List PathComponent}
    (h : p.components = base.components ++ cs) : p.componentsBelow? base = some cs := by
  unfold Path.componentsBelow?
  rw [h, if_pos (List.isPrefixOf_iff_prefix.2 (List.prefix_append _ _)), List.drop_left]

theorem components_join_models (p : Path) :
    (p.join "models").components = p.components ++ [.name "models"] := by
  rw [Path.components_join (by decide)]
  rfl

/-- The models of module contracts lie below the generated directory. -/
def Nested (l : Layout) : Prop :=
  l.generatedDir.components <+: (l.sourceDir.join "models").components

instance (l : Layout) : Decidable l.Nested :=
  inferInstanceAs (Decidable (l.generatedDir.components <+: (l.sourceDir.join "models").components))

theorem modelDir_of_generated (h : b.isModuleContract = false) :
    l.modelDir b = l.generatedDir.join "models" := by
  rw [modelDir, h]
  rfl

theorem modelDir_of_module (h : b.isModuleContract = true) :
    l.modelDir b = l.sourceDir.join "models" := by
  rw [modelDir, h]
  rfl

theorem placeInOutput_of_generated (h : b.isModuleContract = false) :
    l.placeInOutput b = [.name "models"] := by
  have hdir : (l.modelDir b).components = l.generatedDir.components ++ [.name "models"] := by
    rw [modelDir_of_generated h, components_join_models]
  simp only [placeInOutput, componentsBelow?_eq_some hdir]

/-- Where the output directories are apart, every model has the same place in its own. -/
theorem placeInOutput_of_not_nested (hapart : ¬l.Nested) (b : Contract) :
    l.placeInOutput b = [.name "models"] := by
  cases h : b.isModuleContract with
  | false => exact placeInOutput_of_generated h
  | true =>
    have hgenerated : (l.modelDir b).componentsBelow? l.generatedDir = none := by
      rw [modelDir_of_module h, Path.componentsBelow?, if_neg]
      exact fun hprefix => hapart (List.isPrefixOf_iff_prefix.1 hprefix)
    have hsource : (l.modelDir b).componentsBelow? l.sourceDir = some [.name "models"] := by
      rw [modelDir_of_module h]
      exact componentsBelow?_eq_some (components_join_models l.sourceDir)
    simp only [placeInOutput, hgenerated, hsource]

/-- Where they are not, the place of every model is seen from the generated directory. -/
theorem components_modelDir_of_nested (hnested : l.Nested) (b : Contract) :
    (l.modelDir b).components = l.generatedDir.components ++ l.placeInOutput b := by
  cases h : b.isModuleContract with
  | false =>
    rw [placeInOutput_of_generated h, modelDir_of_generated h, components_join_models]
  | true =>
    obtain ⟨place, hplace⟩ := hnested
    rw [← modelDir_of_module h] at hplace
    simp only [placeInOutput, componentsBelow?_eq_some hplace.symm]
    exact hplace.symm

/-! ## What is written behind the alias -/

/-- Components as a specifier writes them. -/
def written (cs : List PathComponent) : String := String.join (cs.map fun c => "/" ++ c.text)

/-- What the specifier of a target writes behind the alias. -/
def behindAlias (l : Layout) (target : Contract) : String :=
  written (namedComponents (l.placeInOutput target)) ++ "/" ++ target.fileStem

theorem resolve_of_alias {stem : String} (halias : l.alias? = some stem) :
    l.resolve a b true = l.aliasedSpecifier stem b := by
  unfold resolve
  rw [halias]

theorem aliasedSpecifier_eq (l : Layout) (stem : String) (target : Contract) :
    l.aliasedSpecifier stem target = withoutTrailingSlashes stem ++ l.behindAlias target := by
  unfold aliasedSpecifier behindAlias written
  simp only [String.append_assoc]

/-- **Aliased specifiers are the same exactly when they write the same behind the alias**, whatever
modules they stand in. -/
theorem resolve_eq_iff_behindAlias {stem : String} (halias : l.alias? = some stem) :
    l.resolve a b true = l.resolve c d true ↔ l.behindAlias b = l.behindAlias d := by
  rw [resolve_of_alias halias, resolve_of_alias halias, aliasedSpecifier_eq, aliasedSpecifier_eq]
  exact String.append_right_inj _

theorem written_cons (c : PathComponent) (cs : List PathComponent) :
    written (c :: cs) = "/" ++ c.text ++ written cs := by
  rw [written, List.map_cons, String.join_cons]
  rfl

theorem written_append_slash (cs : List PathComponent) :
    written cs ++ "/" = "/" ++ Path.folderOf cs := by
  induction cs with
  | nil => rfl
  | cons c rest ih =>
    rw [written_cons, Path.folderOf_cons, String.append_assoc, ih]
    simp only [String.append_assoc]

/-- Steps that are written behind a text are the steps behind its own. -/
theorem steps_written {cs : List PathComponent} (h : ∀ c ∈ cs, Path.IsStep c) (front back : String) :
    Path.steps (front ++ (written cs ++ "/" ++ back)) =
      Path.steps front ++ cs ++ Path.steps back := by
  rw [written_append_slash, String.append_assoc, ← String.append_assoc, Path.steps_slash,
    Path.steps_folderOf h, List.append_assoc]

/-! ## Targets with one place -/

/-- **Between targets with one place in their output directories, an aliased specifier tells exactly
the names of the files.** -/
theorem resolve_eq_iff_fileStem {stem : String} (halias : l.alias? = some stem)
    (hplace : l.placeInOutput b = l.placeInOutput d) :
    l.resolve a b true = l.resolve c d true ↔ b.fileStem = d.fileStem := by
  rw [resolve_eq_iff_behindAlias halias, behindAlias, behindAlias, hplace, String.append_right_inj]

theorem placeInOutput_congr (h : b.isModuleContract = d.isModuleContract) :
    l.placeInOutput b = l.placeInOutput d := by
  simp only [placeInOutput, modelDir, h]

theorem modelPath_congr (h : b.isModuleContract = d.isModuleContract)
    (hstem : b.fileStem = d.fileStem) : l.modelPath b = l.modelPath d := by
  rw [modelPath, modelPath, modelDir, modelDir, h, hstem]

/-! ## Nested output directories -/

/-- The name of a contract's file does not start at the root. -/
def Relative (target : Contract) : Prop := (Path.mk target.fileStem).isAbsolute = false

instance (target : Contract) : Decidable (Relative target) :=
  inferInstanceAs (Decidable ((Path.mk target.fileStem).isAbsolute = false))

/-- But for a leading `.`, the file of a model is its directory and the steps of its name. -/
theorem namedComponents_modelPath (hb : Relative b) :
    namedComponents (l.modelPath b).components =
      namedComponents (l.modelDir b).components ++ Path.steps (b.fileStem ++ ".ts") := by
  have hne : b.fileStem ≠ "" := by
    intro h
    have hlength := congrArg (fun s => s.toList.length) h
    simp [Contract.fileStem] at hlength
  have hrelative : (Path.mk (b.fileStem ++ ".ts")).isAbsolute = false := by
    rw [Path.isAbsolute_append hne]
    exact hb
  exact namedComponents_join hrelative _

theorem root_not_mem_steps (text : String) : PathComponent.root ∉ Path.steps text :=
  fun h => absurd (Path.isStep_of_mem_steps h) (by decide)

/-- The root stands only at the front of a path, and steps follow it. -/
theorem eq_root_cons_steps {p : Path} {front back : List PathComponent}
    (h : p.components = front ++ back) (hroot : .root ∈ back) :
    front = [] ∧ back = .root :: Path.steps p.text := by
  have hmem : PathComponent.root ∈ p.components := h ▸ List.mem_append_right _ hroot
  have hopening : p.components = .root :: Path.steps p.text := by
    rw [Path.components_eq] at hmem ⊢
    unfold Path.opening at hmem ⊢
    split at hmem
    · rename_i habsolute
      rw [if_pos habsolute]
      rfl
    · split at hmem
      · rcases List.mem_cons.1 hmem with heq | hmem
        · cases heq
        · exact absurd hmem (root_not_mem_steps _)
      · exact absurd hmem (root_not_mem_steps _)
  rw [hopening] at h
  cases front with
  | nil => exact ⟨rfl, h.symm⟩
  | cons first rest =>
    have hsteps : Path.steps p.text = rest ++ back := (List.cons.inj h).2
    exact absurd (hsteps ▸ List.mem_append_right _ hroot) (root_not_mem_steps _)

/-- What a specifier writes for a place without the root tells the place and the steps of the file. -/
theorem steps_behindAlias (hnested : l.Nested) (hroot : .root ∉ l.placeInOutput b) :
    Path.steps (l.behindAlias b ++ ".ts") =
      namedComponents (l.placeInOutput b) ++ Path.steps (b.fileStem ++ ".ts") := by
  have hsteps : ∀ c ∈ namedComponents (l.placeInOutput b), Path.IsStep c := by
    intro c hc
    have hne : c ≠ .root := fun heq => hroot (heq ▸ (List.mem_filter.1 hc).1)
    have hdir : c ∈ namedComponents (l.modelDir b).components := by
      rw [components_modelDir_of_nested hnested, namedComponents_append]
      exact List.mem_append_right _ hc
    exact isStep_of_mem_namedComponents hdir hne
  have h := steps_written hsteps "" (b.fileStem ++ ".ts")
  rw [String.empty_append, Path.steps_empty, List.nil_append, ← String.append_assoc] at h
  exact h

/-- A place that starts at the root is written unlike the place of a generated model. -/
theorem behindAlias_ne_of_root (hnested : l.Nested) (hb : b.isModuleContract = false)
    (hroot : .root ∈ l.placeInOutput d) : l.behindAlias b ≠ l.behindAlias d := by
  obtain ⟨-, hplace⟩ := eq_root_cons_steps (components_modelDir_of_nested hnested d) hroot
  have hnamed : namedComponents (l.placeInOutput d) =
      .root :: Path.steps (l.modelDir d).text := by
    rw [hplace]
    exact congrArg (.root :: ·) (namedComponents_of_steps fun _ => Path.isStep_of_mem_steps)
  intro h
  rw [behindAlias, behindAlias, placeInOutput_of_generated hb, hnamed, written_cons] at h
  have hsecond := congrArg (fun s => s.toList[1]?) h
  simp [written, namedComponents, PathComponent.text] at hsecond

theorem sameFile_of_behindAlias_eq (hnested : l.Nested) (hb : Relative b) (hd : Relative d)
    (hplaces : .root ∉ l.placeInOutput b ∧ .root ∉ l.placeInOutput d)
    (h : l.behindAlias b = l.behindAlias d) : (l.modelPath b).SameFile (l.modelPath d) := by
  have hsteps := congrArg (fun s => Path.steps (s ++ ".ts")) h
  simp only [steps_behindAlias hnested hplaces.1, steps_behindAlias hnested hplaces.2] at hsteps
  unfold Path.SameFile
  rw [namedComponents_modelPath hb, namedComponents_modelPath hd,
    components_modelDir_of_nested hnested, components_modelDir_of_nested hnested,
    namedComponents_append, namedComponents_append, List.append_assoc, List.append_assoc, hsteps]

/-- **Where the models of module contracts lie below the generated directory, an aliased specifier
means one file**, as long as no name of a file starts at the root. -/
theorem sameFile_of_nested {stem : String} (halias : l.alias? = some stem) (hnested : l.Nested)
    (hb : Relative b) (hd : Relative d) (h : l.resolve a b true = l.resolve c d true) :
    (l.modelPath b).SameFile (l.modelPath d) := by
  have hbehind := (resolve_eq_iff_behindAlias halias).1 h
  by_cases hsame : b.isModuleContract = d.isModuleContract
  · have hstem := (resolve_eq_iff_fileStem halias (placeInOutput_congr hsame)).1 h
    rw [modelPath_congr hsame hstem]
    rfl
  · have hgenerated {t : Contract} (ht : t.isModuleContract = false) :
        .root ∉ l.placeInOutput t := by
      rw [placeInOutput_of_generated ht]
      decide
    refine sameFile_of_behindAlias_eq hnested hb hd ?_ hbehind
    cases hmodule : b.isModuleContract with
    | false =>
      exact ⟨hgenerated hmodule, fun hroot => behindAlias_ne_of_root hnested hmodule hroot hbehind⟩
    | true =>
      have hother : d.isModuleContract = false := by
        rw [hmodule] at hsame
        exact Bool.eq_false_iff.2 (Ne.symm hsame)
      exact ⟨fun hroot => behindAlias_ne_of_root hnested hother hroot hbehind.symm,
        hgenerated hother⟩

example : Nested ⟨⟨"out"⟩, ⟨"out/app"⟩, none⟩ ∧ ¬Nested ⟨⟨".generated"⟩, ⟨"src"⟩, none⟩ := by decide

/-! ## Output directories that are apart -/

/-- Where the output directories are apart, models of one name in both are one file only if the
directories are the same but for a leading `.`. -/
theorem sameFile_iff_of_ne (hb : b.isModuleContract = false) (hd : d.isModuleContract = true)
    (hrelative : Relative b) (hstem : b.fileStem = d.fileStem) :
    (l.modelPath b).SameFile (l.modelPath d) ↔ l.generatedDir.SameFile l.sourceDir := by
  have hrelative' : Relative d := by
    unfold Relative
    rwa [← hstem]
  unfold Path.SameFile
  rw [namedComponents_modelPath hrelative, namedComponents_modelPath hrelative', hstem,
    List.append_left_inj, modelDir_of_generated hb, modelDir_of_module hd, components_join_models,
    components_join_models, namedComponents_append, namedComponents_append, List.append_left_inj]

/-! ## The meaning of an aliased specifier -/

/-- What it says of two targets that modules import them by one aliased specifier. -/
structure AliasMeaning (l : Layout) (a b c d : Contract) : Prop where
  /-- Within one output directory, and between directories that are apart, it says that their files
  have one name. -/
  name : b.isModuleContract = d.isModuleContract ∨ ¬l.Nested →
    (l.resolve a b true = l.resolve c d true ↔ b.fileStem = d.fileStem)
  /-- Within one output directory, it says that they are one file. -/
  within : b.isModuleContract = d.isModuleContract →
    l.resolve a b true = l.resolve c d true → l.modelPath b = l.modelPath d
  /-- It says so in nested directories too, unless a name starts at the root. -/
  nested : l.Nested → Relative b → Relative d →
    l.resolve a b true = l.resolve c d true → (l.modelPath b).SameFile (l.modelPath d)
  /-- Between directories that are apart, it says so only if they are the same directory. -/
  apart : b.isModuleContract = false → d.isModuleContract = true → ¬l.Nested → Relative b →
    l.resolve a b true = l.resolve c d true →
      ((l.modelPath b).SameFile (l.modelPath d) ↔ l.generatedDir.SameFile l.sourceDir)

/-- **What an aliased specifier means**, under every configuration with an alias and for all
contracts. -/
theorem aliasMeaning_of_importAlias {config : Config} {stem : String}
    (halias : config.app.importAlias = some stem) (a b c d : Contract) :
    (ofConfig config).AliasMeaning a b c d := by
  have hlayout : (ofConfig config).alias? = some stem := halias
  have hname : b.isModuleContract = d.isModuleContract ∨ ¬(ofConfig config).Nested →
      ((ofConfig config).resolve a b true = (ofConfig config).resolve c d true ↔
        b.fileStem = d.fileStem) := by
    rintro (hsame | hapart)
    · exact resolve_eq_iff_fileStem hlayout (placeInOutput_congr hsame)
    · refine resolve_eq_iff_fileStem hlayout ?_
      rw [placeInOutput_of_not_nested hapart, placeInOutput_of_not_nested hapart]
  refine ⟨hname, fun hsame h => ?_, fun hnested hb hd h => ?_, fun hb hd hapart hrelative h => ?_⟩
  · exact modelPath_congr hsame ((hname (Or.inl hsame)).1 h)
  · exact sameFile_of_nested hlayout hnested hb hd h
  · exact sameFile_iff_of_ne hb hd hrelative ((hname (Or.inr hapart)).1 h)

def aliased : Config :=
  { Config.default with app := { AppSection.default with importAlias := some "@models" } }

def account : Contract := .named "Account" "User"

def member : Contract :=
  { Contract.named "Member" "User" with
    options := some { ContractOptions.empty with moduleContract := true } }

theorem aliasMeaning_members :
    aliased.app.importAlias = some "@models" ∧
      (ofConfig aliased).AliasMeaning member account account member :=
  ⟨rfl, aliasMeaning_of_importAlias rfl member account account member⟩

/-- The modules of two contracts import each other's by one specifier, and are two files. -/
theorem not_sameFile_members :
    aliased.app.generatedDir ≠ aliased.app.sourceDir ∧
      (ofConfig aliased).resolve member account true =
        (ofConfig aliased).resolve account member true ∧
      ¬((ofConfig aliased).modelPath account).SameFile ((ofConfig aliased).modelPath member) := by
  refine ⟨by decide, ?_, ?_⟩
  · decide +kernel
  · decide +kernel

end Layout

end ContractCompiler
