import ContractCompiler.Proofs.Collection.Table
import ContractCompiler.Proofs.Compiler.Run
import ContractCompiler.Proofs.Module.Model

/-!
# Successful runs

A run that reports no failure delivers the manifest and the module of every contract. What it
delivers stays where it is, except that contracts share places: modules go where the lowercase
controller name says, and the manifest has one entry for a name.

* `delivery_of_isSuccess` — nothing is refused in a successful run.
* `kept_of_isSuccess` — after a successful run every contract has its module and its entry in the
  manifest, except where a later contract takes its place.
* `not_kept_clashing` — three contracts that take each other's place.
-/

namespace ContractCompiler.Compiler

variable {c : Compiler} {root : Path} {contracts : List Contract} {contract : Contract}
  {t t' : FileTree} {r : CompileReport}

/-! ## What a successful run leaves behind -/

/-- The file of the contract's module holds it. -/
def HasModule (c : Compiler) (root : Path) (contracts : List Contract) (contract : Contract)
    (t : FileTree) : Prop :=
  ∃ code, c.emitModel contracts contract = .ok code ∧
    t.readText (c.modelPath root contract) = .ok code

/-- Nothing is refused in a successful run, which delivers what is planned. -/
theorem delivery_of_isSuccess (h : (c.compile root contracts t).1.isSuccess = true) :
    firstInvalid contracts = none ∧
      (∀ d ∈ contracts, ∃ code, c.emitModel contracts d = .ok code) ∧
      ∃ r, Delivery t (c.planned root contracts) r (c.compile root contracts t).2 := by
  have hnone : (c.compile root contracts t).1.failures = [] := List.isEmpty_iff.1 h
  have hfiles : (c.compile root contracts t).1.FilesSucceed := by
    intro f hf
    rw [hnone] at hf
    cases hf
  obtain ⟨r, hdelivery⟩ := exists_delivery_of_compile hfiles
  rw [compile_of_delivery hdelivery] at hnone
  obtain ⟨hmanifest, hmodels⟩ := List.append_eq_nil_iff.1 hnone
  refine ⟨?_, fun d hd => ?_, r, hdelivery⟩
  · unfold manifestRefusals at hmanifest
    split at hmanifest
    · cases hmanifest
    · assumption
  · exact modelRefusal?_eq_none_iff.1 (List.filterMap_eq_nil_iff.1 hmodels d hd)

/-- A planned module stays where it is delivered, unless a later contract with another module takes
its place. -/
theorem hasModule_of_delivery {before after : List Contract} {code : String}
    (h : Delivery t (c.planned root contracts) r t') (hsplit : contracts = before ++ contract :: after)
    (hemit : c.emitModel contracts contract = .ok code)
    (hplaces : ∀ d ∈ after,
      (c.modelPath root d).place t.workingDir = (c.modelPath root contract).place t.workingDir →
        c.emitModel contracts d = c.emitModel contracts contract) :
    c.HasModule root contracts contract t' := by
  have hplanned : c.planned root contracts =
      (c.plannedManifest root contracts ++ before.filterMap (c.plannedModel? root contracts)) ++
        (c.modelPath root contract, code) :: after.filterMap (c.plannedModel? root contracts) := by
    have hmodels : contracts.filterMap (c.plannedModel? root contracts) =
        before.filterMap (c.plannedModel? root contracts) ++
          (c.modelPath root contract, code) :: after.filterMap (c.plannedModel? root contracts) := by
      rw [← List.filterMap_cons_some (plannedModel?_of_ok hemit), ← List.filterMap_append, ← hsplit]
    rw [planned, hmodels, List.append_assoc]
  rw [hplanned] at h
  refine ⟨code, hemit, h.readText_of_last fun e he hplace => ?_⟩
  obtain ⟨d, hd, hmodel⟩ := List.mem_filterMap.1 he
  obtain ⟨hcode, hpath⟩ := plannedModel?_eq_some_iff.1 hmodel
  rw [hpath] at hplace
  rw [hplaces d hd hplace, hemit] at hcode
  exact (Except.ok.inj hcode).symm

/-- The files of the manifest stay as they are delivered. -/
theorem readText_manifest_of_delivery (h : Delivery t (c.planned root contracts) r t')
    {e : Path × String} (he : e ∈ c.plannedManifest root contracts) : t'.readText e.1 = .ok e.2 := by
  obtain ⟨r₁, t₁, r₂, -, hmanifest, hmodels⟩ := h.exists_of_append
  refine hmodels.readText_kept (fun d hd hplace => ?_)
    (hmanifest.readText_of_pairwise (c.plannedManifest_pairwise root contracts _) he)
  obtain ⟨contract, -, hmodel⟩ := List.mem_filterMap.1 hd
  rw [(plannedModel?_eq_some_iff.1 hmodel).2] at hplace
  exact absurd hplace.symm
    (manifestPlace_ne_modelPlace (mem_manifestFiles_of_planned he) contract t₁.workingDir)

/-- **No artifact is lost in a successful run**, except to a later contract. Every contract has its
module on disk, unless a later contract with another module has its module at the same place; and
when manifests are written, the manifest is on disk, with an entry for every contract that no later
one of its name replaces. -/
theorem kept_of_isSuccess (h : (c.compile root contracts t).1.isSuccess = true) :
    (∀ before contract after, contracts = before ++ contract :: after →
      (∀ d ∈ after,
        (c.modelPath root d).place t.workingDir = (c.modelPath root contract).place t.workingDir →
          c.emitModel contracts d = c.emitModel contracts contract) →
      c.HasModule root contracts contract (c.compile root contracts t).2) ∧
    (c.config.app.generateSchema = true →
      (∀ e ∈ c.manifestFiles root contracts,
        (c.compile root contracts t).2.readText e.1 = .ok e.2) ∧
      ∀ before contract after, contracts = before ++ contract :: after →
        (∀ d ∈ after, d.contractName = contract.contractName → d = contract) →
        (Manifest.build contracts c.capabilities).contracts.get? contract.contractName =
          some contract) := by
  obtain ⟨hvalid, hemits, r, hdelivery⟩ := delivery_of_isSuccess h
  refine ⟨fun before contract after hsplit hplaces => ?_, fun hgenerate => ⟨fun e he => ?_, ?_⟩⟩
  · obtain ⟨code, hemit⟩ := hemits contract (by rw [hsplit]; simp)
    exact hasModule_of_delivery hdelivery hsplit hemit hplaces
  · refine readText_manifest_of_delivery hdelivery ?_
    simp only [plannedManifest, hvalid, hgenerate, if_true]
    exact he
  · intro before contract after hsplit hnames
    simp only [Manifest.build, hsplit, List.map_append, List.map_cons]
    refine Table.get?_ofEntries_of_last fun e he hname => ?_
    obtain ⟨d, hd, rfl⟩ := List.mem_map.1 he
    exact hnames d hd hname

/-! ## Contracts that take each other's place -/

/-- The second contract takes the place of the first one's module, the third one that of its entry
in the manifest. -/
def clashing : List Contract :=
  [.named "First" "Shared", .named "Second" "shared", .named "First" "Own"]

def jsonProject (json : String) : FileTree :=
  ((FileTree.empty []).put [".generated"] .directory).put [".generated", "schema.json"]
    (.file (.text json))

def manifestProject (json yaml : String) : FileTree :=
  (jsonProject json).put [".generated", "schema.yml"] (.file (.text yaml))

def modelProject (json yaml shared : String) : FileTree :=
  ((manifestProject json yaml).put [".generated", "models"] .directory).put
    [".generated", "models", "shared.model.ts"] (.file (.text shared))

/-- The files of a run over contracts with clashing modules can be delivered. -/
theorem exists_delivery_shared {first second : String} (h : first ≠ second)
    (json yaml own : String) :
    ∃ r t', Delivery (.empty [])
      [(⟨"./.generated/schema.json"⟩, json), (⟨"./.generated/schema.yml"⟩, yaml),
       (⟨"./.generated/models/shared.model.ts"⟩, first),
       (⟨"./.generated/models/shared.model.ts"⟩, second),
       (⟨"./.generated/models/own.model.ts"⟩, own)] r t' := by
  have hjson : (FileTree.empty []).writeArtifact ⟨"./.generated/schema.json"⟩ json =
      (.ok .written, jsonProject json) := rfl
  have hyaml : (jsonProject json).writeArtifact ⟨"./.generated/schema.yml"⟩ yaml =
      (.ok .written, manifestProject json yaml) := rfl
  have hfirst : (manifestProject json yaml).writeArtifact
      ⟨"./.generated/models/shared.model.ts"⟩ first =
      (.ok .written, modelProject json yaml first) := rfl
  have hsecond : (modelProject json yaml first).writeArtifact
      ⟨"./.generated/models/shared.model.ts"⟩ second =
      (.ok .written, modelProject json yaml second) := by
    have hread : (modelProject json yaml first).readText ⟨"./.generated/models/shared.model.ts"⟩ =
        .ok first := rfl
    have hholds : ¬(modelProject json yaml first).holds
        ⟨"./.generated/models/shared.model.ts"⟩ second = true := by
      rw [FileTree.holds_iff, hread]
      exact fun heq => h (Except.ok.inj heq)
    rw [FileTree.writeArtifact, if_neg hholds]
    rfl
  have hown : (modelProject json yaml second).writeArtifact
      ⟨"./.generated/models/own.model.ts"⟩ own =
      (.ok .written, (modelProject json yaml second).put [".generated", "models", "own.model.ts"]
        (.file (.text own))) := rfl
  exact ⟨_, _, .cons hjson (.cons hyaml (.cons hfirst (.cons hsecond (.cons hown (.nil _)))))⟩

/-- The contracts can be emitted, and the modules with one place differ. -/
theorem exists_emitModel_clashing :
    ∃ first second own,
      plain.emitModel clashing (.named "First" "Shared") = .ok first ∧
      plain.emitModel clashing (.named "Second" "shared") = .ok second ∧
      plain.emitModel clashing (.named "First" "Own") = .ok own ∧ first ≠ second := by
  obtain ⟨first, hfirst⟩ : ∃ code, plain.emitModel clashing (.named "First" "Shared") = .ok code :=
    ⟨_, rfl⟩
  obtain ⟨second, hsecond⟩ : ∃ code, plain.emitModel clashing (.named "Second" "shared") = .ok code :=
    ⟨_, rfl⟩
  obtain ⟨own, hown⟩ : ∃ code, plain.emitModel clashing (.named "First" "Own") = .ok code :=
    ⟨_, rfl⟩
  refine ⟨first, second, own, hfirst, hsecond, hown, fun heq => ?_⟩
  rw [heq] at hfirst
  have hname : (Contract.named "First" "Shared").generatedName =
      (Contract.named "Second" "shared").generatedName :=
    Contract.generatedName_eq_of_emitModel_eq (by decide) (by decide) hfirst hsecond
  exact absurd hname (by decide)

/-- The run over the clashing contracts delivers a module for each and fails nowhere. -/
theorem exists_delivery_clashing :
    (plain.compile ⟨"."⟩ clashing (.empty [])).1.isSuccess = true ∧
      ∃ r, Delivery (.empty []) (plain.planned ⟨"."⟩ clashing) r
        (plain.compile ⟨"."⟩ clashing (.empty [])).2 := by
  obtain ⟨first, second, own, hfirst, hsecond, hown, hne⟩ := exists_emitModel_clashing
  have hmodels : clashing.filterMap (plain.plannedModel? ⟨"."⟩ clashing) =
      [(⟨"./.generated/models/shared.model.ts"⟩, first),
       (⟨"./.generated/models/shared.model.ts"⟩, second),
       (⟨"./.generated/models/own.model.ts"⟩, own)] := by
    conv => lhs; arg 2; unfold clashing
    rw [List.filterMap_cons_some (plannedModel?_of_ok hfirst),
      List.filterMap_cons_some (plannedModel?_of_ok hsecond),
      List.filterMap_cons_some (plannedModel?_of_ok hown)]
    rfl
  have hrefusals : plain.refusals clashing = [] := by
    have hnone : clashing.filterMap (plain.modelRefusal? clashing) = [] := by
      conv => lhs; arg 2; unfold clashing
      rw [List.filterMap_cons_none (modelRefusal?_of_ok hfirst),
        List.filterMap_cons_none (modelRefusal?_of_ok hsecond),
        List.filterMap_cons_none (modelRefusal?_of_ok hown)]
      rfl
    rw [refusals, hnone]
    rfl
  obtain ⟨r, t', hdelivery⟩ := exists_delivery_shared hne
    (Manifest.build clashing .empty).jsonText (Manifest.build clashing .empty).yamlText own
  have hplanned : Delivery (.empty []) (plain.planned ⟨"."⟩ clashing) r t' := by
    rw [planned, hmodels]
    exact hdelivery
  rw [compile_of_delivery hplanned, hrefusals]
  exact ⟨rfl, r, hplanned⟩

theorem ownPlace_ne_sharedPlace :
    (plain.modelPath ⟨"."⟩ (.named "First" "Own")).place [] ≠
      (plain.modelPath ⟨"."⟩ (.named "Second" "shared")).place [] := by
  decide +kernel

theorem kept_clashing :
    (plain.compile ⟨"."⟩ clashing (.empty [])).1.isSuccess = true ∧
      plain.HasModule ⟨"."⟩ clashing (.named "Second" "shared")
        (plain.compile ⟨"."⟩ clashing (.empty [])).2 ∧
      (Manifest.build clashing plain.capabilities).contracts.get? "First" =
        some (.named "First" "Own") := by
  have hsuccess := exists_delivery_clashing.1
  obtain ⟨hmodels, hmanifest⟩ := kept_of_isSuccess hsuccess
  refine ⟨hsuccess, hmodels [.named "First" "Shared"] _ [.named "First" "Own"] rfl ?_,
    (hmanifest rfl).2 [.named "First" "Shared", .named "Second" "shared"] _ [] rfl ?_⟩
  · intro d hd hplace
    rw [List.mem_singleton.1 hd] at hplace
    exact absurd hplace ownPlace_ne_sharedPlace
  · intro d hd
    cases hd

/-- The run is a success, yet the first contract has neither its module on disk nor its entry in the
manifest. -/
theorem not_kept_clashing :
    (plain.compile ⟨"."⟩ clashing (.empty [])).1.isSuccess = true ∧
      plain.config.app.generateSchema = true ∧ .named "First" "Shared" ∈ clashing ∧
      ¬plain.HasModule ⟨"."⟩ clashing (.named "First" "Shared")
        (plain.compile ⟨"."⟩ clashing (.empty [])).2 ∧
      (Manifest.build clashing plain.capabilities).contracts.get? "First" ≠
        some (.named "First" "Shared") := by
  obtain ⟨hsuccess, r, hdelivery⟩ := exists_delivery_clashing
  refine ⟨hsuccess, rfl, List.mem_cons_self, ?_, by decide⟩
  rintro ⟨code, hemit, hread⟩
  obtain ⟨first, second, own, hfirst, hsecond, -, hne⟩ := exists_emitModel_clashing
  have hlater : ∀ d ∈ [Contract.named "First" "Own"],
      (plain.modelPath ⟨"."⟩ d).place [] =
        (plain.modelPath ⟨"."⟩ (.named "Second" "shared")).place [] →
        plain.emitModel clashing d = plain.emitModel clashing (.named "Second" "shared") := by
    intro d hd hplace
    rw [List.mem_singleton.1 hd] at hplace
    exact absurd hplace ownPlace_ne_sharedPlace
  have hsplit : clashing =
      [.named "First" "Shared"] ++ .named "Second" "shared" :: [.named "First" "Own"] := rfl
  obtain ⟨text, htext, hheld⟩ := hasModule_of_delivery hdelivery hsplit hsecond hlater
  have hpath : plain.modelPath ⟨"."⟩ (.named "First" "Shared") =
      plain.modelPath ⟨"."⟩ (.named "Second" "shared") := by decide +kernel
  -- The place holds the second module, which is not the first one.
  rw [hpath, hheld] at hread
  rw [hfirst] at hemit
  rw [hsecond] at htext
  cases hemit
  cases htext
  cases hread
  exact hne rfl

end ContractCompiler.Compiler
