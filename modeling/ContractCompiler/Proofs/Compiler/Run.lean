import ContractCompiler.Proofs.Compiler.Manifest
import ContractCompiler.Proofs.Compiler.Models
import ContractCompiler.Proofs.Files.Preservation

/-!
# Whole runs

A run in which no file fails is one delivery: the files of the manifest, then the module of every
contract that can be emitted, in order. What it reports as failed then hangs on the contracts alone.

* `compile_of_delivery`, `exists_delivery_of_compile` — a run without file failures is the delivery
  of what is planned.
* `compile_again` — such a run, repeated, changes nothing and reports the same.
* `compile_grounded` — every run, also one in which files fail, leaves a well-formed tree.
-/

namespace ContractCompiler

/-- No failure of the report comes from a file. -/
def CompileReport.FilesSucceed (r : CompileReport) : Prop :=
  ∀ f ∈ r.failures, ∀ e, f.failure ≠ .file e

theorem CompileReport.filesSucceed_append {a b : CompileReport} :
    (a ++ b).FilesSucceed ↔ a.FilesSucceed ∧ b.FilesSucceed := by
  unfold FilesSucceed
  rw [failures_append]
  exact List.forall_mem_append

theorem CompileReport.not_filesSucceed_failed (contract : String) (e : FileError) :
    ¬(failed contract (.file e)).FilesSucceed :=
  fun h => h ⟨contract, .file e⟩ (List.mem_singleton_self _) e rfl

namespace Compiler

variable {c : Compiler} {root : Path} {contracts : List Contract} {contract : Contract}
  {t t' : FileTree} {r : CompileReport}

/-! ## What a run delivers -/

/-- The files that the manifest pass delivers: none when a contract is not well formed, and none
when the configuration asks for no manifest. -/
def plannedManifest (c : Compiler) (root : Path) (contracts : List Contract) :
    List (Path × String) :=
  match firstInvalid contracts with
  | some _ => []
  | none => if c.config.app.generateSchema then c.manifestFiles root contracts else []

/-- The file that the model pass delivers for a contract, when it can be emitted. -/
def plannedModel? (c : Compiler) (root : Path) (contracts : List Contract) (contract : Contract) :
    Option (Path × String) :=
  match c.emitModel contracts contract with
  | .ok code => some (c.modelPath root contract, code)
  | .error _ => none

/-- The files that a run delivers, in order. -/
def planned (c : Compiler) (root : Path) (contracts : List Contract) : List (Path × String) :=
  c.plannedManifest root contracts ++ contracts.filterMap (c.plannedModel? root contracts)

/-- What the manifest pass fails with before it comes to files. -/
def manifestRefusals (contracts : List Contract) : List ArtifactFailure :=
  match firstInvalid contracts with
  | some e => [⟨manifestName, .schema e⟩]
  | none => []

/-- What the model pass fails with for a contract that cannot be emitted. -/
def modelRefusal? (c : Compiler) (contracts : List Contract) (contract : Contract) :
    Option ArtifactFailure :=
  match c.emitModel contracts contract with
  | .ok _ => none
  | .error e => some ⟨contract.contractName, e⟩

/-- What a run fails with before it comes to files, in order. -/
def refusals (c : Compiler) (contracts : List Contract) : List ArtifactFailure :=
  manifestRefusals contracts ++ contracts.filterMap (c.modelRefusal? contracts)

theorem plannedModel?_of_ok {code : String} (h : c.emitModel contracts contract = .ok code) :
    c.plannedModel? root contracts contract = some (c.modelPath root contract, code) := by
  rw [plannedModel?, h]

theorem plannedModel?_of_error {e : Failure} (h : c.emitModel contracts contract = .error e) :
    c.plannedModel? root contracts contract = none := by
  rw [plannedModel?, h]

theorem modelRefusal?_of_ok {code : String} (h : c.emitModel contracts contract = .ok code) :
    c.modelRefusal? contracts contract = none := by
  rw [modelRefusal?, h]

theorem modelRefusal?_of_error {e : Failure} (h : c.emitModel contracts contract = .error e) :
    c.modelRefusal? contracts contract = some ⟨contract.contractName, e⟩ := by
  rw [modelRefusal?, h]

theorem plannedModel?_eq_some_iff {e : Path × String} :
    c.plannedModel? root contracts contract = some e ↔
      c.emitModel contracts contract = .ok e.2 ∧ e.1 = c.modelPath root contract := by
  obtain ⟨p, text⟩ := e
  unfold plannedModel?
  cases c.emitModel contracts contract with
  | error e => simp
  | ok code => simp [and_comm, eq_comm]

theorem modelRefusal?_eq_none_iff :
    c.modelRefusal? contracts contract = none ↔ ∃ code, c.emitModel contracts contract = .ok code := by
  unfold modelRefusal?
  cases c.emitModel contracts contract <;> simp

/-! ## The manifest pass -/

theorem compileManifest_of_delivery (h : Delivery t (c.plannedManifest root contracts) r t') :
    c.compileManifest root contracts t =
      (⟨r.written, r.unchanged, manifestRefusals contracts⟩, t') := by
  have hfailures := h.failures_eq_nil
  unfold plannedManifest at h
  unfold manifestRefusals
  cases hvalid : firstInvalid contracts with
  | some e =>
    rw [hvalid] at h
    cases h
    exact compileManifest_of_invalid hvalid t
  | none =>
    cases hgenerate : c.config.app.generateSchema with
    | false =>
      simp only [hvalid, hgenerate] at h
      cases h
      exact compileManifest_of_off hvalid hgenerate t
    | true =>
      simp only [hvalid, hgenerate, if_true] at h
      rw [compileManifest_of_on hvalid hgenerate, writeAll_of_delivery h, CompileReport.empty_append,
        ← hfailures]

theorem exists_delivery_of_compileManifest
    (h : (c.compileManifest root contracts t).1.FilesSucceed) :
    ∃ r, Delivery t (c.plannedManifest root contracts) r (c.compileManifest root contracts t).2 := by
  unfold plannedManifest
  cases hvalid : firstInvalid contracts with
  | some e =>
    rw [compileManifest_of_invalid hvalid]
    exact ⟨_, .nil t⟩
  | none =>
    cases hgenerate : c.config.app.generateSchema with
    | false =>
      rw [compileManifest_of_off hvalid hgenerate]
      exact ⟨_, .nil t⟩
    | true =>
      rw [compileManifest_of_on hvalid hgenerate] at h ⊢
      rcases writeAll_cases (c.manifestFiles root contracts) t .empty with
        ⟨r, t', hdelivery, hall⟩ | ⟨_, _, _, _, _, _, e, _, -, -, -, hall⟩
      · rw [hall]
        exact ⟨r, hdelivery⟩
      · rw [hall] at h
        exact absurd h (CompileReport.not_filesSucceed_failed _ e)

/-! ## The model pass -/

theorem compileEach_of_delivery {part : List Contract} :
    ∀ {t : FileTree} {r : CompileReport},
      Delivery t (part.filterMap (c.plannedModel? root contracts)) r t' →
        c.compileEach root contracts part t =
          (⟨r.written, r.unchanged, part.filterMap (c.modelRefusal? contracts)⟩, t') := by
  induction part with
  | nil =>
    intro t r h
    rw [List.filterMap_nil] at h
    cases h
    rfl
  | cons d rest ih =>
    intro t r h
    cases hemit : c.emitModel contracts d with
    | error e =>
      rw [List.filterMap_cons_none (plannedModel?_of_error hemit)] at h
      rw [List.filterMap_cons_some (modelRefusal?_of_error hemit)]
      simp only [compileEach, compileModel_of_error hemit, ih h]
      rfl
    | ok code =>
      rw [List.filterMap_cons_some (plannedModel?_of_ok hemit)] at h
      rw [List.filterMap_cons_none (modelRefusal?_of_ok hemit)]
      obtain ⟨o, t₁, r', rfl, first, others⟩ := h.exists_of_cons
      simp only [compileEach, compileModel_of_ok hemit first, ih others]
      cases o <;> rfl

theorem exists_delivery_of_compileEach {part : List Contract} :
    ∀ {t : FileTree}, (c.compileEach root contracts part t).1.FilesSucceed →
      ∃ r, Delivery t (part.filterMap (c.plannedModel? root contracts)) r
        (c.compileEach root contracts part t).2 := by
  induction part with
  | nil => exact fun _ => ⟨_, .nil _⟩
  | cons d rest ih =>
    intro t h
    obtain ⟨hfirst, hothers⟩ := CompileReport.filesSucceed_append.1 h
    obtain ⟨r, hdelivery⟩ := ih hothers
    cases hemit : c.emitModel contracts d with
    | error e =>
      rw [List.filterMap_cons_none (plannedModel?_of_error hemit)]
      rw [compileModel_of_error hemit] at hdelivery
      refine ⟨r, ?_⟩
      simp only [compileEach, compileModel_of_error hemit]
      exact hdelivery
    | ok code =>
      rw [List.filterMap_cons_some (plannedModel?_of_ok hemit)]
      rcases hw : t.writeArtifact (c.modelPath root d) code with ⟨made, t₁⟩
      cases made with
      | error e =>
        rw [compileModel_of_blocked hemit hw] at hfirst
        exact absurd hfirst (CompileReport.not_filesSucceed_failed _ e)
      | ok o =>
        rw [compileModel_of_ok hemit hw] at hdelivery
        refine ⟨.single (c.modelPath root d) o ++ r, ?_⟩
        simp only [compileEach, compileModel_of_ok hemit hw]
        exact .cons hw hdelivery

/-! ## Both passes -/

/-- **A run that delivers what is planned** reports what became of it, and the refusals. -/
theorem compile_of_delivery (h : Delivery t (c.planned root contracts) r t') :
    c.compile root contracts t = (⟨r.written, r.unchanged, c.refusals contracts⟩, t') := by
  obtain ⟨r₁, t₁, r₂, rfl, hmanifest, hmodels⟩ := h.exists_of_append
  simp only [compile, compileManifest_of_delivery hmanifest, compileModels,
    compileEach_of_delivery hmodels]
  rfl

/-- **A run in which no file fails delivers what is planned.** -/
theorem exists_delivery_of_compile (h : (c.compile root contracts t).1.FilesSucceed) :
    ∃ r, Delivery t (c.planned root contracts) r (c.compile root contracts t).2 := by
  obtain ⟨hmanifest, hmodels⟩ := CompileReport.filesSucceed_append.1 h
  obtain ⟨r₁, h₁⟩ := exists_delivery_of_compileManifest hmanifest
  obtain ⟨r₂, h₂⟩ := exists_delivery_of_compileEach hmodels
  exact ⟨r₁ ++ r₂, h₁.append h₂⟩

/-! ## Places -/

theorem endsWith_modelPath (c : Compiler) (root : Path) (contract : Contract) :
    (c.modelPath root contract).EndsWith 's' := by
  have hending : (Path.mk ".ts").EndsWith 's' := by decide
  have hmodel : ((Layout.ofConfig c.config).modelPath contract).EndsWith 's' :=
    (hending.append contract.fileStem).join ((Layout.ofConfig c.config).modelDir contract)
  exact hmodel.join root

/-- No module goes to the place of a file of the manifest. -/
theorem manifestPlace_ne_modelPlace {e : Path × String} (he : e ∈ c.manifestFiles root contracts)
    (contract : Contract) (workingDir : Location) :
    e.1.place workingDir ≠ (c.modelPath root contract).place workingDir := by
  have hmodel := c.endsWith_modelPath root contract
  -- Manifests end in `n` and `l` and modules in `s`, whatever the directories are.
  rcases List.mem_cons.1 he with rfl | he
  · exact Path.place_ne_of_endsWith (c.endsWith_jsonPath root) hmodel (by decide) (by decide)
      (by decide) workingDir
  · rw [List.mem_singleton.1 he]
    exact Path.place_ne_of_endsWith (c.endsWith_yamlPath root) hmodel (by decide) (by decide)
      (by decide) workingDir

theorem mem_manifestFiles_of_planned {e : Path × String}
    (h : e ∈ c.plannedManifest root contracts) : e ∈ c.manifestFiles root contracts := by
  unfold plannedManifest at h
  split at h
  · cases h
  · split at h
    · exact h
    · cases h

theorem plannedManifest_pairwise (c : Compiler) (root : Path) (contracts : List Contract)
    (workingDir : Location) :
    (c.plannedManifest root contracts).Pairwise fun d e =>
      d.1.place workingDir ≠ e.1.place workingDir := by
  unfold plannedManifest
  split
  · exact .nil
  · split
    · exact c.manifestFiles_pairwise root contracts workingDir
    · exact .nil

/-- When the modules of the contracts go to different places, everything that is planned does. -/
theorem planned_pairwise {workingDir : Location}
    (h : contracts.Pairwise fun a b =>
      (c.modelPath root a).place workingDir ≠ (c.modelPath root b).place workingDir) :
    (c.planned root contracts).Pairwise fun d e =>
      d.1.place workingDir ≠ e.1.place workingDir := by
  refine List.pairwise_append.2
    ⟨c.plannedManifest_pairwise root contracts workingDir, List.pairwise_filterMap.2 ?_, ?_⟩
  · refine h.imp fun hab d hd e he => ?_
    rw [(plannedModel?_eq_some_iff.1 hd).2, (plannedModel?_eq_some_iff.1 he).2]
    exact hab
  · intro d hd e he
    obtain ⟨contract, -, hmodel⟩ := List.mem_filterMap.1 he
    rw [(plannedModel?_eq_some_iff.1 hmodel).2]
    exact manifestPlace_ne_modelPlace (mem_manifestFiles_of_planned hd) contract workingDir

/-! ## A second run -/

/-- **A run in which no file fails, and whose modules go to different places, has nothing left to do.**
The second run leaves the tree as it is, writes nothing, finds unchanged what the first run delivered,
and fails with the same failures in the same order. -/
theorem compile_again
    (hplaces : contracts.Pairwise fun a b =>
      (c.modelPath root a).place t.workingDir ≠ (c.modelPath root b).place t.workingDir)
    (hfiles : (c.compile root contracts t).1.FilesSucceed) :
    ∃ unchanged,
      c.compile root contracts (c.compile root contracts t).2 =
        (⟨[], unchanged, (c.compile root contracts t).1.failures⟩, (c.compile root contracts t).2) ∧
      unchanged.Perm
        ((c.compile root contracts t).1.written ++ (c.compile root contracts t).1.unchanged) := by
  obtain ⟨r, hdelivery⟩ := exists_delivery_of_compile hfiles
  have hfirst := compile_of_delivery hdelivery
  -- No artifact goes to the place of another one, so each is current when the first run is over.
  have hcurrent : Delivery _ (c.planned root contracts) _ _ :=
    .current fun e he => hdelivery.readText_of_pairwise (planned_pairwise hplaces) he
  refine ⟨(c.planned root contracts).map (·.1), ?_, ?_⟩
  · rw [compile_of_delivery hcurrent, hfirst]
  · rw [hfirst]
    exact hdelivery.delivered_perm.symm

/-- The second contract is linked to a contract that is not there. -/
def withOrphan : List Contract :=
  [.named "User" "User",
   { Contract.named "Orphan" "Orphan" with
     fields := [{ Field.plain "parent" (.known .string) with link := [.to "Missing"] }] },
   .named "Post" "Post"]

theorem failures_withOrphan :
    (plain.compile ⟨"."⟩ withOrphan (.empty [])).1.failures =
      [⟨"Orphan", .schema (.unknownLink "parent" "Missing" "Orphan")⟩] := by
  decide +kernel

theorem compile_again_withOrphan :
    (withOrphan.Pairwise fun a b =>
      (plain.modelPath ⟨"."⟩ a).place [] ≠ (plain.modelPath ⟨"."⟩ b).place []) ∧
    (plain.compile ⟨"."⟩ withOrphan (.empty [])).1.FilesSucceed ∧
    ∃ unchanged,
      plain.compile ⟨"."⟩ withOrphan (plain.compile ⟨"."⟩ withOrphan (.empty [])).2 =
        (⟨[], unchanged, (plain.compile ⟨"."⟩ withOrphan (.empty [])).1.failures⟩,
          (plain.compile ⟨"."⟩ withOrphan (.empty [])).2) ∧
      unchanged.Perm
        ((plain.compile ⟨"."⟩ withOrphan (.empty [])).1.written ++
          (plain.compile ⟨"."⟩ withOrphan (.empty [])).1.unchanged) := by
  have hplaces : withOrphan.Pairwise fun a b =>
      (plain.modelPath ⟨"."⟩ a).place [] ≠ (plain.modelPath ⟨"."⟩ b).place [] := by decide +kernel
  have hfiles : (plain.compile ⟨"."⟩ withOrphan (.empty [])).1.FilesSucceed := by
    intro f hf e
    rw [failures_withOrphan, List.mem_singleton] at hf
    rw [hf]
    exact Failure.noConfusion
  exact ⟨hplaces, hfiles, compile_again hplaces hfiles⟩

/-! ## Well-formed trees -/

theorem writeAll_grounded (files : List (Path × String)) :
    ∀ {t : FileTree} (report : CompileReport), t.Grounded → (writeAll t report files).2.Grounded := by
  induction files with
  | nil => exact fun _ ht => ht
  | cons file rest ih =>
    intro t report ht
    have hfile := FileTree.writeArtifact_grounded ht file.1 file.2
    unfold writeAll
    split
    · rename_i h
      rwa [h] at hfile
    · rename_i h
      rw [h] at hfile
      exact ih _ hfile

theorem compileManifest_grounded (ht : t.Grounded) :
    (c.compileManifest root contracts t).2.Grounded := by
  unfold compileManifest
  split
  · exact ht
  · split
    · exact writeAll_grounded _ _ ht
    · exact ht

theorem compileModel_grounded (contract : Contract) (ht : t.Grounded) :
    (c.compileModel root contracts contract t).2.Grounded := by
  unfold compileModel
  split
  · exact ht
  · rename_i code _
    have hmodule := FileTree.writeArtifact_grounded ht (c.modelPath root contract) code
    split
    · rename_i h
      rwa [h] at hmodule
    · rename_i h
      rwa [h] at hmodule

theorem compileEach_grounded (part : List Contract) :
    ∀ {t : FileTree}, t.Grounded → (c.compileEach root contracts part t).2.Grounded := by
  induction part with
  | nil => exact fun ht => ht
  | cons contract rest ih => exact fun ht => ih (compileModel_grounded contract ht)

/-- **A run leaves a well-formed tree**, whatever fails in it. -/
theorem compile_grounded (ht : t.Grounded) : (c.compile root contracts t).2.Grounded :=
  compileEach_grounded contracts (compileManifest_grounded ht)

end Compiler

end ContractCompiler
