import ContractCompiler.Proofs.Command.Validation
import ContractCompiler.Proofs.Compiler.Run
import ContractCompiler.Proofs.Contract.Document
import ContractCompiler.Proofs.Contract.Load
import ContractCompiler.Proofs.Module.Policy

/-!
# Validation and compilation agree

Both commands load the contracts below a directory, and go different ways from there: validation
resolves links and nothing else, compilation writes a manifest and emits a module for each contract.
They refuse the same contracts, since a contract that could be loaded is well formed, and what else
emission fails with concerns a field or a message.

* `LoadedContracts.check_of_mem_load` — every loaded contract is well formed.
* `schemaFailures_compileEach` — the model pass refuses the contracts whose links are refused.
* `validate_agrees_with_compile` — what the exit codes of the two commands have to do with each other.
-/

namespace ContractCompiler

/-! ## Loaded contracts -/

namespace LoadedContracts

variable {t : FileTree} {path : Path}

theorem contracts_append (a b : LoadedContracts) : (a ++ b).contracts = a.contracts ++ b.contracts :=
  rfl

theorem ok_mem_of_mem_ofEntries {entries : List (Except SchemaError Contract)} {c : Contract}
    (h : c ∈ (ofEntries path entries).contracts) : .ok c ∈ entries := by
  induction entries with
  | nil => cases h
  | cons verdict rest ih =>
    cases verdict with
    | error e => exact List.mem_cons_of_mem _ (ih h)
    | ok d =>
      rcases List.mem_cons.1 h with rfl | h
      · exact List.mem_cons_self
      · exact List.mem_cons_of_mem _ (ih h)

theorem check_of_mem_ofFile {c : Contract} (h : c ∈ (ofFile t path).contracts) :
    c.check = .ok () := by
  unfold ofFile at h
  split at h
  · cases h
  · split at h
    · cases h
    · rename_i verdicts hdocument
      obtain ⟨v, -, hload⟩ := Contract.exists_value_of_document hdocument (ok_mem_of_mem_ofEntries h)
      exact (Contract.load_eq_ok_iff.1 hload).2.2

theorem check_of_mem_ofFiles {paths : List Path} {c : Contract}
    (h : c ∈ (ofFiles t paths).contracts) : c.check = .ok () := by
  induction paths with
  | nil => cases h
  | cons p rest ih =>
    rw [ofFiles, contracts_append, List.mem_append] at h
    rcases h with h | h
    · exact check_of_mem_ofFile h
    · exact ih h

/-- **Every contract that is loaded is well formed.** -/
theorem check_of_mem_load {loaded : LoadedContracts} (h : load t path = .ok loaded) {c : Contract}
    (hc : c ∈ loaded.contracts) : c.check = .ok () := by
  unfold load at h
  split at h
  · cases h
  · cases h
    exact check_of_mem_ofFiles hc

end LoadedContracts

/-! ## What the passes fail with -/

/-- A contract that is well formed is refused by emission as its links are. -/
theorem Contract.emitModel_eq_schema_iff {c : Contract} {contracts : List Contract}
    {ctx : EmissionContext} {resolver : Resolver} (hcheck : c.check = .ok ()) {e : SchemaError} :
    c.emitModel contracts ctx resolver = .error (.schema e) ↔
      c.resolveLinks contracts = .error e := by
  rw [emitModel_eq_error_iff, modelModule_eq_error_iff]
  constructor
  · rintro (⟨s, hs | ⟨-, hs⟩, he⟩ | ⟨_, -, -, ⟨_, -, he⟩ | ⟨_, _, -, -, he⟩⟩)
    · rw [hcheck] at hs
      cases hs
    · cases he
      exact hs
    · cases he
    · cases he
  · exact fun h => Or.inl ⟨e, .links hcheck h, rfl⟩

/-- The failures of a report for which a contract itself is at fault. -/
def CompileReport.schemaFailures (r : CompileReport) : List ArtifactFailure :=
  r.failures.filter fun f => f.failure.isSchema

namespace Compiler

variable {c : Compiler} {root : Path} {contracts : List Contract}

/-- What the model pass fails with for a contract whose links are refused. -/
def linkRefusal? (contracts : List Contract) (contract : Contract) : Option ArtifactFailure :=
  match contract.resolveLinks contracts with
  | .error e => some ⟨contract.contractName, .schema e⟩
  | .ok _ => none

theorem linkRefusal?_of_error {contract : Contract} {e : SchemaError}
    (h : contract.resolveLinks contracts = .error e) :
    linkRefusal? contracts contract = some ⟨contract.contractName, .schema e⟩ := by
  rw [linkRefusal?, h]

theorem linkRefusal?_eq_none {contract : Contract}
    (h : ∀ e, contract.resolveLinks contracts ≠ .error e) : linkRefusal? contracts contract = none := by
  unfold linkRefusal?
  split
  · rename_i e he
    exact absurd he (h e)
  · rfl

/-- A step of the model pass refuses a well-formed contract as its links are refused. -/
theorem ModelStep.schemaFailures_report {contract : Contract} {entry : ArtifactEntry}
    {t t' : FileTree} (h : c.ModelStep root contracts contract t entry t')
    (hcheck : contract.check = .ok ()) :
    entry.report.schemaFailures = (linkRefusal? contracts contract).toList := by
  -- a contract that is emitted, or that fails in one of its parts, has links that can be resolved
  have hresolved : (∀ e, c.emitModel contracts contract ≠ .error (.schema e)) →
      linkRefusal? contracts contract = none := fun h =>
    linkRefusal?_eq_none fun e he => h e ((Contract.emitModel_eq_schema_iff hcheck).2 he)
  cases h with
  | refused emission kind =>
    rcases kind with ⟨s, rfl⟩ | ⟨m, rfl⟩
    · rw [linkRefusal?_of_error ((Contract.emitModel_eq_schema_iff hcheck).1 emission)]
      rfl
    · rw [hresolved fun e => by rw [emission]; exact fun h => by cases h]
      rfl
  | blocked emission | unchanged emission | written emission =>
    rw [hresolved fun e => by rw [emission]; exact fun h => by cases h]
    rfl

/-- **The model pass refuses the contracts whose links are refused**, in their order, whatever the
settings are and whatever it finds on disk. -/
theorem schemaFailures_compileEach (c : Compiler) (root : Path) {part : List Contract}
    (hcheck : ∀ d ∈ part, d.check = .ok ()) :
    ∀ t, (c.compileEach root contracts part t).1.schemaFailures =
      part.filterMap (linkRefusal? contracts) := by
  induction part with
  | nil => exact fun _ => rfl
  | cons d rest ih =>
    intro t
    obtain ⟨hd, hrest⟩ := List.forall_mem_cons.1 hcheck
    obtain ⟨entry, hreport, hstep⟩ := modelStep_compileModel c root contracts d t
    have hfirst := hstep.schemaFailures_report hd
    have hsplit : (c.compileEach root contracts (d :: rest) t).1.schemaFailures =
        (c.compileModel root contracts d t).1.schemaFailures ++
          (c.compileEach root contracts rest (c.compileModel root contracts d t).2).1.schemaFailures :=
      List.filter_append _ _
    rw [hsplit, hreport, hfirst, ih hrest]
    cases hlinks : linkRefusal? contracts d with
    | none => rw [List.filterMap_cons_none hlinks]; rfl
    | some f => rw [List.filterMap_cons_some hlinks]; rfl

/-- A step fails with what emission fails with for its contract, or with the contract's file. -/
theorem ModelStep.cause {contract : Contract} {entry : ArtifactEntry} {t t' : FileTree}
    (h : c.ModelStep root contracts contract t entry t') :
    ∀ f ∈ entry.report.failures,
      c.emitModel contracts contract = .error f.failure ∨ ∃ e, f.failure = .file e := by
  intro f hf
  cases h with
  | refused emission =>
    rw [List.mem_singleton.1 hf]
    exact Or.inl emission
  | blocked =>
    rw [List.mem_singleton.1 hf]
    exact Or.inr ⟨_, rfl⟩
  | unchanged | written => cases hf

/-- **The model pass fails with what emission fails with for its contracts, and with files.** -/
theorem cause_of_mem_compileEach {part : List Contract} :
    ∀ {t : FileTree}, ∀ f ∈ (c.compileEach root contracts part t).1.failures,
      (∃ d ∈ part, c.emitModel contracts d = .error f.failure) ∨ ∃ e, f.failure = .file e := by
  induction part with
  | nil =>
    intro t f hf
    cases hf
  | cons d rest ih =>
    intro t f hf
    rw [compileEach, CompileReport.failures_append, List.mem_append] at hf
    rcases hf with hf | hf
    · obtain ⟨entry, hreport, hstep⟩ := modelStep_compileModel c root contracts d t
      rw [hreport] at hf
      exact (hstep.cause f hf).imp_left fun hemit => ⟨d, List.mem_cons_self, hemit⟩
    · refine (ih f hf).imp_left ?_
      rintro ⟨b, hb, hemit⟩
      exact ⟨b, List.mem_cons_of_mem _ hb, hemit⟩

theorem firstInvalid_eq_none (h : ∀ d ∈ contracts, d.check = .ok ()) : firstInvalid contracts = none := by
  induction contracts with
  | nil => rfl
  | cons d rest ih =>
    obtain ⟨hd, hrest⟩ := List.forall_mem_cons.1 h
    rw [firstInvalid, hd]
    exact ih hrest

/-- The manifest pass over well-formed contracts fails with its files only. -/
theorem cause_of_mem_compileManifest (h : ∀ d ∈ contracts, d.check = .ok ()) {t : FileTree} :
    ∀ f ∈ (c.compileManifest root contracts t).1.failures, ∃ e, f.failure = .file e := by
  intro f hf
  have hvalid := firstInvalid_eq_none h
  cases hgenerate : c.config.app.generateSchema with
  | false =>
    rw [compileManifest_of_off hvalid hgenerate] at hf
    cases hf
  | true =>
    rw [compileManifest_of_on hvalid hgenerate] at hf
    rcases writeAll_cases (c.manifestFiles root contracts) t .empty with
      ⟨r, t', hdelivery, hall⟩ | ⟨_, _, _, _, _, _, e, _, -, -, -, hall⟩
    · rw [hall, CompileReport.empty_append, hdelivery.failures_eq_nil] at hf
      cases hf
    · rw [hall] at hf
      rw [List.mem_singleton.1 hf]
      exact ⟨e, rfl⟩

end Compiler

/-! ## The two commands -/

theorem EmissionContext.under_self (ctx : EmissionContext) : ctx.under ctx.policy = ctx := rfl

/-- Under the placeholder policy no field and no message makes emission fail. -/
theorem Contract.emitModel_ne_emission {c : Contract} {contracts : List Contract}
    {ctx : EmissionContext} {resolver : Resolver} (hpolicy : ctx.policy = .placeholder)
    {e : EmissionError} : c.emitModel contracts ctx resolver ≠ .error (.emission e) := by
  intro h
  rw [← ctx.under_self, hpolicy, emitModel_placeholder_eq_error_iff] at h
  obtain ⟨s, -, hs⟩ := h
  cases hs

namespace Command

variable {p : ProjectArguments} {t : FileTree} {config : Config} {loaded : LoadedContracts}

def compilerOf (config : Config) (p : ProjectArguments) : Compiler :=
  .ofConfig config (.ofNames p.modules)

/-- What compiling the loaded contracts of a project reports. -/
def compileReport (config : Config) (p : ProjectArguments) (loaded : LoadedContracts)
    (t : FileTree) : CompileReport :=
  ((compilerOf config p).compile p.root loaded.contracts t).1

theorem runCompile_of_load (hconfig : Config.load t p.config? = .ok config)
    (hload : LoadedContracts.load t p.contracts = .ok loaded) :
    (runCompile .all p t).1 =
      if (compileReport config p loaded t).failures.length + loaded.failures.length = 0 then
        .success (compileReport config p loaded t).outputLines
      else
        .failed (compileReport config p loaded t).outputLines
          (compileReport config p loaded t).errorLines
          (.general (.artifactsFailed
            ((compileReport config p loaded t).failures.length + loaded.failures.length))) := by
  rw [runCompile, hconfig, hload]
  exact apply_ite Prod.fst _ (_, _) (_, _)

theorem exitCode_runCompile_of_load (hconfig : Config.load t p.config? = .ok config)
    (hload : LoadedContracts.load t p.contracts = .ok loaded) :
    (runCompile .all p t).1.exitCode =
      if (compileReport config p loaded t).failures.length + loaded.failures.length = 0 then 0
      else 1 := by
  rw [runCompile_of_load hconfig hload]
  split <;> rfl

/-- **Validation counts what compilation refuses**: the number of invalid items is the number of load
failures and of contracts that the model pass refuses, under all settings. -/
theorem invalidCount_eq (hload : LoadedContracts.load t p.contracts = .ok loaded) (c : Compiler)
    (root : Path) (t' : FileTree) :
    invalidCount loaded = loaded.failures.length +
      (c.compileModels root loaded.contracts t').1.schemaFailures.length := by
  have hrefused : loaded.danglingLinks.map (fun d => ArtifactFailure.mk d.1.contractName (.schema d.2)) =
      loaded.contracts.filterMap (Compiler.linkRefusal? loaded.contracts) := by
    unfold LoadedContracts.danglingLinks
    rw [List.map_filterMap]
    refine List.filterMap_congr fun d _ => ?_
    unfold Compiler.linkRefusal?
    cases d.resolveLinks loaded.contracts <;> rfl
  have hmodels : (c.compileModels root loaded.contracts t').1.schemaFailures =
      loaded.contracts.filterMap (Compiler.linkRefusal? loaded.contracts) :=
    c.schemaFailures_compileEach root (fun _ => LoadedContracts.check_of_mem_load hload) t'
  rw [hmodels, ← hrefused, List.length_map, invalidCount]

/-- Compilation fails in a file, in a part of a contract, or with a contract that validation
refuses. -/
theorem cause_of_mem_compileReport (hload : LoadedContracts.load t p.contracts = .ok loaded) :
    ∀ f ∈ (compileReport config p loaded t).failures,
      (∃ e, f.failure = .file e) ∨
      (∃ e, f.failure = .emission e ∧ config.app.emissionPolicy ≠ .placeholder) ∨
      0 < loaded.danglingLinks.length := by
  intro f hf
  rw [compileReport, Compiler.compile, CompileReport.failures_append, List.mem_append] at hf
  rcases hf with hf | hf
  · exact Or.inl (Compiler.cause_of_mem_compileManifest
      (fun _ => LoadedContracts.check_of_mem_load hload) f hf)
  · rcases Compiler.cause_of_mem_compileEach f hf with ⟨d, hd, hemit⟩ | hfile
    · rcases Compiler.kind_of_emitModel hemit with ⟨s, hs⟩ | ⟨e, he⟩
      · rw [hs] at hemit
        have hlinks := (Contract.emitModel_eq_schema_iff
          (LoadedContracts.check_of_mem_load hload hd)).1 hemit
        exact Or.inr (Or.inr (List.length_pos_of_mem
          (LoadedContracts.mem_danglingLinks_iff.2 ⟨hd, hlinks⟩)))
      · refine Or.inr (Or.inl ⟨e, he, fun hpolicy => ?_⟩)
        rw [he] at hemit
        exact Contract.emitModel_ne_emission hpolicy hemit
    · exact Or.inl hfile

/-- What compilation succeeds with, validation accepts. -/
theorem validate_of_compile (hconfig : Config.load t p.config? = .ok config)
    (h : (runCompile .all p t).1.exitCode = 0) : (runValidate p.contracts t).exitCode = 0 := by
  cases hload : LoadedContracts.load t p.contracts with
  | error e => simp [runCompile, hconfig, hload, CommandResult.failed] at h
  | ok loaded =>
    rw [exitCode_runCompile_of_load hconfig hload] at h
    have hnone : (compileReport config p loaded t).failures.length + loaded.failures.length = 0 := by
      by_contra hsome
      rw [if_neg hsome] at h
      cases h
    refine exitCode_runValidate_eq_zero_iff.2 ⟨loaded, hload, ?_⟩
    rw [invalidCount_eq hload (compilerOf config p) p.root
      ((compilerOf config p).compileManifest p.root loaded.contracts t).2]
    have hrefused := List.length_filter_le (fun f : ArtifactFailure => f.failure.isSchema)
      ((compilerOf config p).compileModels p.root loaded.contracts
        ((compilerOf config p).compileManifest p.root loaded.contracts t).2).1.failures
    rw [compileReport, Compiler.compile, CompileReport.failures_append, List.length_append] at hnone
    rw [CompileReport.schemaFailures]
    omega

/-- What validation accepts, compilation fails with in files and in parts of contracts only, and not
in the latter under the placeholder policy. -/
theorem cause_of_validate (config : Config)
    (h : (runValidate p.contracts t).exitCode = 0) :
    ∃ loaded, LoadedContracts.load t p.contracts = .ok loaded ∧ loaded.failures = [] ∧
      ∀ f ∈ (compileReport config p loaded t).failures, (∃ e, f.failure = .file e) ∨
        ∃ e, f.failure = .emission e ∧ config.app.emissionPolicy ≠ .placeholder := by
  obtain ⟨loaded, hload, hcount⟩ := exitCode_runValidate_eq_zero_iff.1 h
  rw [invalidCount, Nat.add_eq_zero_iff] at hcount
  refine ⟨loaded, hload, List.eq_nil_of_length_eq_zero hcount.1, fun f hf => ?_⟩
  rcases cause_of_mem_compileReport hload f hf with hfile | hpart | hdangling
  · exact Or.inl hfile
  · exact Or.inr hpart
  · omega

/-- Under the placeholder policy, and when no file fails, compilation succeeds with what validation
accepts. -/
theorem compile_of_validate (hconfig : Config.load t p.config? = .ok config)
    (hpolicy : config.app.emissionPolicy = .placeholder)
    (hfiles : ∀ loaded, LoadedContracts.load t p.contracts = .ok loaded →
      (compileReport config p loaded t).FilesSucceed)
    (h : (runValidate p.contracts t).exitCode = 0) : (runCompile .all p t).1.exitCode = 0 := by
  obtain ⟨loaded, hload, hloaded, hcause⟩ := cause_of_validate config h
  have hnone : (compileReport config p loaded t).failures = [] := by
    refine List.eq_nil_iff_forall_not_mem.2 fun f hf => ?_
    rcases hcause f hf with ⟨e, he⟩ | ⟨e, -, hstrict⟩
    · exact hfiles loaded hload f hf e he
    · exact hstrict hpolicy
  rw [exitCode_runCompile_of_load hconfig hload, hnone, hloaded]
  rfl

/-- **Validation and compilation agree.** Validation counts the load failures and the contracts that
the model pass refuses, whatever its settings and the state of the disk that it runs on. So what
compilation succeeds with, validation accepts; under the placeholder policy the converse holds when
no file fails; and what validation accepts, compilation fails with in files and in parts of contracts
only. -/
theorem validate_agrees_with_compile (p : ProjectArguments) (t : FileTree) :
    (∀ loaded, LoadedContracts.load t p.contracts = .ok loaded →
      ∀ (c : Compiler) (root : Path) (t' : FileTree) (count : Nat),
        count = loaded.failures.length +
            (c.compileModels root loaded.contracts t').1.schemaFailures.length →
          runValidate p.contracts t =
            if count = 0 then .success loaded.countLine
            else .failed "" (loaded.failureLines ++ loaded.linkLines)
              (.general (.contractsInvalid count))) ∧
    ∀ config, Config.load t p.config? = .ok config →
      ((runCompile .all p t).1.exitCode = 0 → (runValidate p.contracts t).exitCode = 0) ∧
      (config.app.emissionPolicy = .placeholder →
        (∀ loaded, LoadedContracts.load t p.contracts = .ok loaded →
          (compileReport config p loaded t).FilesSucceed) →
        ((runValidate p.contracts t).exitCode = 0 ↔ (runCompile .all p t).1.exitCode = 0)) ∧
      ((runValidate p.contracts t).exitCode = 0 →
        ∃ loaded, LoadedContracts.load t p.contracts = .ok loaded ∧
          ∀ f ∈ (compileReport config p loaded t).failures,
            (∃ e, f.failure = .file e) ∨ ∃ e, f.failure = .emission e) := by
  refine ⟨fun loaded hload c root t' count hcount => ?_, fun config hconfig => ⟨?_, ?_, ?_⟩⟩
  · rw [hcount, ← invalidCount_eq hload c root t']
    exact runValidate_of_load hload
  · exact validate_of_compile hconfig
  · exact fun hpolicy hfiles =>
      ⟨compile_of_validate hconfig hpolicy hfiles, validate_of_compile hconfig⟩
  · intro h
    obtain ⟨loaded, hload, -, hcause⟩ := cause_of_validate config h
    refine ⟨loaded, hload, fun f hf => (hcause f hf).imp_right ?_⟩
    rintro ⟨e, he, -⟩
    exact ⟨e, he⟩

/-- A user whose mail address is checked in a way that no decorator stands for. -/
def mailedUser : Contract :=
  { Contract.named "User" "User" with
    fields := [{ Field.plain "email" (.known .string) with validations := [.ofKind (.name "is email")] }] }

def ownedPost (owner : String) : Contract :=
  { Contract.named "Post" "Post" with
    fields := [{ Field.plain "owner" (.known .string) with link := [.to owner] }] }

def lenient : Config :=
  { Config.default with app := { Config.default.app with emissionPolicy := .placeholder } }

def blogProject (owner : String) : FileTree :=
  ((FileTree.empty []).put ["config.yml"]
      (.file (.text "app:\n  emissionPolicy: placeholder\n"))).put ["contracts.yml"] (.file (.text (
    "- contractName: User\n  controllerName: User\n  fields:\n" ++
    "    - propertyKey: email\n      protoType: string\n      validations: [is email]\n" ++
    "- contractName: Post\n  controllerName: Post\n  fields:\n" ++
    "    - propertyKey: owner\n      protoType: string\n      link:\n        - contract: " ++
    owner ++ "\n")))

def blogArguments : ProjectArguments := ⟨⟨"contracts.yml"⟩, ⟨"."⟩, some ⟨"config.yml"⟩, []⟩

/-- The post's owner is there: both commands succeed, though the user is emitted in part only. -/
theorem both_accept_blogProject :
    (Config.load (blogProject "User") blogArguments.config? = .ok lenient ∧
      LoadedContracts.load (blogProject "User") blogArguments.contracts =
        .ok ⟨[mailedUser, ownedPost "User"], []⟩ ∧
      (compileReport lenient blogArguments ⟨[mailedUser, ownedPost "User"], []⟩
        (blogProject "User")).FilesSucceed) ∧
    (runValidate blogArguments.contracts (blogProject "User")).exitCode = 0 ∧
      (runCompile .all blogArguments (blogProject "User")).1.exitCode = 0 := by
  have hconfig : Config.load (blogProject "User") blogArguments.config? = .ok lenient := by
    decide +kernel
  have hload : LoadedContracts.load (blogProject "User") blogArguments.contracts =
      .ok ⟨[mailedUser, ownedPost "User"], []⟩ := by
    decide +kernel
  have hnone : (compileReport lenient blogArguments ⟨[mailedUser, ownedPost "User"], []⟩
      (blogProject "User")).failures = [] := by
    decide +kernel
  have hfiles : (compileReport lenient blogArguments ⟨[mailedUser, ownedPost "User"], []⟩
      (blogProject "User")).FilesSucceed := by
    intro f hf
    rw [hnone] at hf
    cases hf
  obtain ⟨hcounts, hagree⟩ := validate_agrees_with_compile blogArguments (blogProject "User")
  have hvalid : (runValidate blogArguments.contracts (blogProject "User")).exitCode = 0 := by
    rw [hcounts _ hload (compilerOf lenient blogArguments) ⟨"."⟩ (blogProject "User") 0
      (by decide +kernel)]
    rfl
  refine ⟨⟨hconfig, hload, hfiles⟩, hvalid, ((hagree lenient hconfig).2.1 rfl ?_).1 hvalid⟩
  intro loaded hloaded
  rw [hload] at hloaded
  cases hloaded
  exact hfiles

end Command

end ContractCompiler
