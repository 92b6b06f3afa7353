import ContractCompiler.Proofs.Compiler.Delivery

/-!
# The manifest pass

The manifest is a pair of files that are written one after the other. What the report names holds
the manifest; but when the second file cannot be written the report names neither, so that it tells
of every change exactly when the pass succeeds or the first file is as it was before.

* `readText_of_delivered` — every path that the report names holds its rendering.
* `accountsFor_compileManifest_iff` — when the report accounts for every file that differs.
* `not_accountsFor_blockedProject` — a directory in place of the second file, and a first file that
  the report does not name.
-/

namespace ContractCompiler.Compiler

variable {c : Compiler} {root : Path} {contracts : List Contract} {t t' : FileTree}

/-! ## The two files -/

theorem endsWith_jsonPath (c : Compiler) (root : Path) : (c.jsonPath root).EndsWith 'n' := by
  have hname : (Path.mk "schema.json").EndsWith 'n' := by decide
  exact hname.join (c.generatedDir root)

theorem endsWith_yamlPath (c : Compiler) (root : Path) : (c.yamlPath root).EndsWith 'l' := by
  have hname : (Path.mk "schema.yml").EndsWith 'l' := by decide
  exact hname.join (c.generatedDir root)

theorem jsonPlace_ne_yamlPlace (c : Compiler) (root : Path) (workingDir : Location) :
    (c.jsonPath root).place workingDir ≠ (c.yamlPath root).place workingDir :=
  Path.place_ne_of_endsWith (c.endsWith_jsonPath root) (c.endsWith_yamlPath root) (by decide)
    (by decide) (by decide) workingDir

theorem manifestFiles_pairwise (c : Compiler) (root : Path) (contracts : List Contract)
    (workingDir : Location) :
    (c.manifestFiles root contracts).Pairwise fun d e =>
      d.1.place workingDir ≠ e.1.place workingDir := by
  refine List.pairwise_cons.2 ⟨fun e he => ?_, List.pairwise_singleton _ _⟩
  rw [List.mem_singleton.1 he]
  exact c.jsonPlace_ne_yamlPlace root workingDir

/-- What stands before a file of the manifest is at most the JSON file. -/
theorem eq_jsonPath_of_before {before after : List (Path × String)} {e : Path × String}
    (h : c.manifestFiles root contracts = before ++ e :: after) :
    ∀ d ∈ before, d.1 = c.jsonPath root := by
  intro d hd
  match before, hd with
  | [_], hd =>
    rw [List.mem_singleton.1 hd]
    exact (congrArg Prod.fst (List.cons.inj h).1).symm
  | _ :: _ :: more, _ =>
    have hlength := congrArg List.length h
    simp [manifestFiles] at hlength

/-! ## How the pass ends -/

theorem compileManifest_of_invalid {e : SchemaError} (h : firstInvalid contracts = some e)
    (t : FileTree) :
    c.compileManifest root contracts t = (.failed manifestName (.schema e), t) := by
  simp only [compileManifest, h]

theorem compileManifest_of_off (h : firstInvalid contracts = none)
    (hoff : c.config.app.generateSchema = false) (t : FileTree) :
    c.compileManifest root contracts t = (.empty, t) := by
  simp [compileManifest, h, hoff]

theorem compileManifest_of_on (h : firstInvalid contracts = none)
    (hon : c.config.app.generateSchema = true) (t : FileTree) :
    c.compileManifest root contracts t = writeAll t .empty (c.manifestFiles root contracts) := by
  simp [compileManifest, h, hon]

/-- **The pass leaves the files alone and names none, or it delivers them all, or it delivers those
before the first that fails.** -/
theorem compileManifest_cases (c : Compiler) (root : Path) (contracts : List Contract)
    (t : FileTree) :
    (∃ r, c.compileManifest root contracts t = (r, t) ∧ r.delivered = []) ∨
      (∃ r t', Delivery t (c.manifestFiles root contracts) r t' ∧
        c.compileManifest root contracts t = (r, t')) ∨
      ∃ before p content after r t₁ e t₂,
        c.manifestFiles root contracts = before ++ (p, content) :: after ∧
        Delivery t before r t₁ ∧ t₁.writeArtifact p content = (.error e, t₂) ∧
        c.compileManifest root contracts t = (.failed manifestName (.file e), t₂) := by
  cases hvalid : firstInvalid contracts with
  | some e => exact Or.inl ⟨_, compileManifest_of_invalid hvalid t, rfl⟩
  | none =>
    cases hgenerate : c.config.app.generateSchema with
    | false => exact Or.inl ⟨_, compileManifest_of_off hvalid hgenerate t, rfl⟩
    | true =>
      rw [compileManifest_of_on hvalid hgenerate]
      exact Or.inr (writeAll_cases (c.manifestFiles root contracts) t .empty)

/-- **Every path that the report names holds its rendering.** -/
theorem readText_of_delivered {p : Path}
    (hp : p ∈ (c.compileManifest root contracts t).1.delivered) :
    ∃ content, (p, content) ∈ c.manifestFiles root contracts ∧
      (c.compileManifest root contracts t).2.readText p = .ok content := by
  rcases compileManifest_cases c root contracts t with
    ⟨r, hrun, hnone⟩ | ⟨r, t', hdelivery, hrun⟩ | ⟨_, _, _, _, _, _, _, _, -, -, -, hrun⟩
  · rw [hrun, hnone] at hp
    cases hp
  · rw [hrun] at hp ⊢
    obtain ⟨e, he, rfl⟩ := List.mem_map.1 (hdelivery.delivered_perm.mem_iff.1 hp)
    exact ⟨e.2, he, hdelivery.readText_of_pairwise (c.manifestFiles_pairwise root contracts _) he⟩
  · rw [hrun] at hp
    cases hp

/-- A pass that fails changes no file but the JSON file. -/
theorem locate_jsonPath_of_changed {before after : List (Path × String)} {e : Path × String}
    {r : CompileReport} {t₁ t₂ : FileTree} {l : Location}
    (hsplit : c.manifestFiles root contracts = before ++ e :: after)
    (hbefore : Delivery t before r t₁) (hgains : t₁.GainsDirectories t₂)
    (hl : t₂.fileAt l ≠ t.fileAt l) : t₂.locate (c.jsonPath root) = .ok l := by
  rw [hgains.fileAt] at hl
  obtain ⟨p, hp, hlocate⟩ := hbefore.accountsFor l hl
  have hmem : p ∈ before.map (·.1) :=
    hbefore.delivered_perm.mem_iff.1 (List.mem_append_left _ hp)
  obtain ⟨d, hd, rfl⟩ := List.mem_map.1 hmem
  rw [← eq_jsonPath_of_before hsplit d hd]
  exact FileTree.locate_of_growsTo hgains.toGrowsTo hlocate

/-- **When the report of the manifest pass accounts for the files.** It names every file that differs
exactly when the pass succeeds or the JSON file is as it was before; and every path that it names
holds the rendering of the manifest that belongs there. -/
theorem accountsFor_compileManifest_iff (c : Compiler) (root : Path) (contracts : List Contract)
    (t : FileTree) :
    ((c.compileManifest root contracts t).1.AccountsFor t (c.compileManifest root contracts t).2 ↔
      (c.compileManifest root contracts t).1.isSuccess = true ∨
        ∀ l, (c.compileManifest root contracts t).2.locate (c.jsonPath root) = .ok l →
          (c.compileManifest root contracts t).2.fileAt l = t.fileAt l) ∧
    ∀ p ∈ (c.compileManifest root contracts t).1.delivered, ∃ content,
      (p, content) ∈ c.manifestFiles root contracts ∧
        (c.compileManifest root contracts t).2.readText p = .ok content := by
  refine ⟨?_, fun p hp => readText_of_delivered hp⟩
  rcases compileManifest_cases c root contracts t with
    ⟨r, hrun, -⟩ | ⟨r, t', hdelivery, hrun⟩ |
    ⟨before, p, content, after, r, t₁, e, t₂, hsplit, hbefore, hfails, hrun⟩
  · rw [hrun]
    exact iff_of_true (CompileReport.accountsFor_of_gainsDirectories (.refl t))
      (Or.inr fun _ _ => rfl)
  · rw [hrun]
    refine iff_of_true hdelivery.accountsFor (Or.inl ?_)
    rw [CompileReport.isSuccess, hdelivery.failures_eq_nil]
    rfl
  · rw [hrun]
    have hgains := FileTree.gainsDirectories_of_writeArtifact hfails
    constructor
    · intro haccounts
      refine Or.inr fun l _ => Classical.byContradiction fun hl => ?_
      obtain ⟨q, hq, -⟩ := haccounts l hl
      cases hq
    · rintro (hsuccess | hjson) l hl
      · cases hsuccess
      · exact absurd (hjson l (locate_jsonPath_of_changed hsplit hbefore hgains hl)) hl

/-! ## A manifest that is written in part -/

def blockedProject : FileTree :=
  ((FileTree.empty []).put [".generated"] .directory).put [".generated", "schema.yml"] .directory

def plain : Compiler := .ofConfig .default .empty

/-- The JSON file is written, the YAML file cannot be, and the report names neither. -/
theorem not_accountsFor_blockedProject :
    ¬(plain.compileManifest ⟨"."⟩ [.named "User" "User"] blockedProject).1.AccountsFor blockedProject
      (plain.compileManifest ⟨"."⟩ [.named "User" "User"] blockedProject).2 := by
  intro haccounts
  have hwritten : (plain.compileManifest ⟨"."⟩ [.named "User" "User"] blockedProject).1.written = [] :=
    rfl
  have hjson : (plain.compileManifest ⟨"."⟩ [.named "User" "User"] blockedProject).2.fileAt
      [".generated", "schema.json"] ≠ blockedProject.fileAt [".generated", "schema.json"] := by
    intro h
    cases h
  obtain ⟨p, hp, -⟩ := haccounts [".generated", "schema.json"] hjson
  rw [hwritten] at hp
  cases hp

end ContractCompiler.Compiler
