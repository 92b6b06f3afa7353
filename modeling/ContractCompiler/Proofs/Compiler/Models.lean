import ContractCompiler.Proofs.Compiler.Delivery
import ContractCompiler.Proofs.Module.Model

/-!
# The model pass

The model pass takes one step for each contract, in order. A step depends on the contract set and on
the files that it finds, not on what became of the other contracts; a contract that cannot be
emitted leaves no trace but its failure.

* `modelStep_compileModel` — the four ways in which a step ends.
* `accountsFor_compileEach` — the report of the pass accounts for every file that it changes.
* `compileEach_emitted` — without the contracts that cannot be emitted the pass does the same.
* `compileModels_isolated` — all of it for the whole pass.
-/

namespace ContractCompiler

/-- What became of one artifact. -/
inductive ArtifactEntry where
  | written (path : Path)
  | unchanged (path : Path)
  | failed (failure : ArtifactFailure)
deriving DecidableEq, Repr

namespace ArtifactEntry

def report : ArtifactEntry → CompileReport
  | written p => .single p .written
  | unchanged p => .single p .unchanged
  | failed f => .failed f.contract f.failure

/-- The report of entries in their order. -/
def reportAll (entries : List ArtifactEntry) : CompileReport :=
  entries.foldr (fun e r => e.report ++ r) .empty

end ArtifactEntry

namespace Compiler

variable {c : Compiler} {root : Path} {contracts : List Contract} {contract : Contract}
  {t t' : FileTree}

/-- What one step of the model pass does: the contract cannot be emitted and the tree stays as it
is; or its module cannot be written and no file changes; or the file holds the module already; or
the file is brought to hold it, and no other file changes. -/
inductive ModelStep (c : Compiler) (root : Path) (contracts : List Contract) (contract : Contract)
    (t : FileTree) : ArtifactEntry → FileTree → Prop where
  | refused {e : Failure} (emission : c.emitModel contracts contract = .error e)
      (kind : (∃ s, e = .schema s) ∨ ∃ m, e = .emission m) :
      ModelStep c root contracts contract t (.failed ⟨contract.contractName, e⟩) t
  | blocked {code : String} {e : FileError} {t' : FileTree}
      (emission : c.emitModel contracts contract = .ok code)
      (write : t.writeArtifact (c.modelPath root contract) code = (.error e, t'))
      (files : ∀ l, t'.fileAt l = t.fileAt l) :
      ModelStep c root contracts contract t (.failed ⟨contract.contractName, .file e⟩) t'
  | unchanged {code : String} (emission : c.emitModel contracts contract = .ok code)
      (before : t.readText (c.modelPath root contract) = .ok code) :
      ModelStep c root contracts contract t (.unchanged (c.modelPath root contract)) t
  | written {code : String} {t' : FileTree} (emission : c.emitModel contracts contract = .ok code)
      (before : t.readText (c.modelPath root contract) ≠ .ok code)
      (after : t'.readText (c.modelPath root contract) = .ok code)
      (files : ∀ l, t'.fileAt l ≠ t.fileAt l → t'.locate (c.modelPath root contract) = .ok l) :
      ModelStep c root contracts contract t (.written (c.modelPath root contract)) t'

/-- A step for each contract of a list, in order. -/
inductive ModelRun (c : Compiler) (root : Path) (contracts : List Contract) :
    List Contract → FileTree → List ArtifactEntry → FileTree → Prop where
  | nil (t : FileTree) : ModelRun c root contracts [] t [] t
  | cons {contract : Contract} {rest : List Contract} {t t₁ t₂ : FileTree} {entry : ArtifactEntry}
      {entries : List ArtifactEntry} (first : ModelStep c root contracts contract t entry t₁)
      (others : ModelRun c root contracts rest t₁ entries t₂) :
      ModelRun c root contracts (contract :: rest) t (entry :: entries) t₂

/-! ## One step -/

/-- What emission fails with concerns the contract or one of its parts. -/
theorem kind_of_emitModel {e : Failure} (h : c.emitModel contracts contract = .error e) :
    (∃ s, e = .schema s) ∨ ∃ m, e = .emission m := by
  rcases Contract.modelModule_eq_error_iff.1 (Contract.emitModel_eq_error_iff.1 h) with
    ⟨s, -, rfl⟩ | ⟨_, -, -, ⟨m, -, rfl⟩ | ⟨_, m, -, -, rfl⟩⟩
  · exact Or.inl ⟨s, rfl⟩
  · exact Or.inr ⟨m, rfl⟩
  · exact Or.inr ⟨m, rfl⟩

theorem compileModel_of_error {e : Failure} (h : c.emitModel contracts contract = .error e)
    (t : FileTree) :
    c.compileModel root contracts contract t = (.failed contract.contractName e, t) := by
  simp only [compileModel, h]

theorem compileModel_of_blocked {code : String} {e : FileError}
    (h : c.emitModel contracts contract = .ok code)
    (hw : t.writeArtifact (c.modelPath root contract) code = (.error e, t')) :
    c.compileModel root contracts contract t = (.failed contract.contractName (.file e), t') := by
  simp only [compileModel, h, hw]

theorem compileModel_of_ok {code : String} {o : WriteOutcome}
    (h : c.emitModel contracts contract = .ok code)
    (hw : t.writeArtifact (c.modelPath root contract) code = (.ok o, t')) :
    c.compileModel root contracts contract t = (.single (c.modelPath root contract) o, t') := by
  simp only [compileModel, h, hw]

/-- **A step of the model pass ends in one of four ways**, and its report has one entry. -/
theorem modelStep_compileModel (c : Compiler) (root : Path) (contracts : List Contract)
    (contract : Contract) (t : FileTree) :
    ∃ entry, (c.compileModel root contracts contract t).1 = entry.report ∧
      c.ModelStep root contracts contract t entry (c.compileModel root contracts contract t).2 := by
  cases hemit : c.emitModel contracts contract with
  | error e =>
    rw [compileModel_of_error hemit]
    exact ⟨_, rfl, .refused hemit (kind_of_emitModel hemit)⟩
  | ok code =>
    rcases FileTree.writeArtifact_cases t (c.modelPath root contract) code with
      ⟨hread, hw⟩ | ⟨hread, t', hw, hwrote⟩ | ⟨e, t', hw, hgains⟩
    · rw [compileModel_of_ok hemit hw]
      exact ⟨.unchanged _, rfl, .unchanged hemit hread⟩
    · rw [compileModel_of_ok hemit hw]
      refine ⟨.written _, rfl, .written hemit hread hwrote.readText fun l hl => ?_⟩
      exact Classical.byContradiction fun hother => hl (hwrote.fileAt l hother)
    · rw [compileModel_of_blocked hemit hw]
      exact ⟨_, rfl, .blocked hemit hw hgains.fileAt⟩

/-- The entry of a step accounts for every file that the step changes. -/
theorem ModelStep.accountsFor {entry : ArtifactEntry}
    (h : c.ModelStep root contracts contract t entry t') : entry.report.AccountsFor t t' := by
  intro l hl
  cases h with
  | refused => exact absurd rfl hl
  | blocked _ _ files => exact absurd (files l) hl
  | unchanged => exact absurd rfl hl
  | written _ _ _ files => exact ⟨_, List.mem_singleton_self _, files l hl⟩

theorem growsTo_compileModel (c : Compiler) (root : Path) (contracts : List Contract)
    (contract : Contract) (t : FileTree) :
    t.GrowsTo (c.compileModel root contracts contract t).2 := by
  cases hemit : c.emitModel contracts contract with
  | error e =>
    rw [compileModel_of_error hemit]
    exact .refl t
  | ok code =>
    have hgrows := FileTree.growsTo_writeArtifact t (c.modelPath root contract) code
    rcases hw : t.writeArtifact (c.modelPath root contract) code with ⟨made, t'⟩
    rw [hw] at hgrows
    cases made with
    | error e =>
      rw [compileModel_of_blocked hemit hw]
      exact hgrows
    | ok o =>
      rw [compileModel_of_ok hemit hw]
      exact hgrows

/-! ## The whole pass -/

theorem modelRun_compileEach (c : Compiler) (root : Path) (contracts : List Contract)
    (part : List Contract) :
    ∀ t : FileTree, ∃ entries, c.ModelRun root contracts part t entries
        (c.compileEach root contracts part t).2 ∧
      (c.compileEach root contracts part t).1 = ArtifactEntry.reportAll entries := by
  induction part with
  | nil => exact fun t => ⟨[], .nil t, rfl⟩
  | cons d rest ih =>
    intro t
    obtain ⟨entry, hreport, hstep⟩ := modelStep_compileModel c root contracts d t
    obtain ⟨entries, hrun, hreports⟩ := ih (c.compileModel root contracts d t).2
    refine ⟨entry :: entries, .cons hstep hrun, ?_⟩
    show _ ++ _ = entry.report ++ ArtifactEntry.reportAll entries
    rw [hreport, hreports]

theorem ModelRun.length_eq {part : List Contract} {entries : List ArtifactEntry}
    (h : c.ModelRun root contracts part t entries t') : entries.length = part.length := by
  induction h with
  | nil => rfl
  | cons _ _ ih => rw [List.length_cons, List.length_cons, ih]

/-- **The report of the pass accounts for every file that it changes.** -/
theorem accountsFor_compileEach (c : Compiler) (root : Path) (contracts : List Contract)
    (part : List Contract) :
    ∀ t : FileTree, t.GrowsTo (c.compileEach root contracts part t).2 ∧
      (c.compileEach root contracts part t).1.AccountsFor t
        (c.compileEach root contracts part t).2 := by
  induction part with
  | nil => exact fun t => ⟨.refl t, CompileReport.accountsFor_of_gainsDirectories (.refl t)⟩
  | cons d rest ih =>
    intro t
    obtain ⟨entry, hreport, hstep⟩ := modelStep_compileModel c root contracts d t
    obtain ⟨hgrows, hothers⟩ := ih (c.compileModel root contracts d t).2
    have hfirst := hstep.accountsFor
    rw [← hreport] at hfirst
    exact ⟨(growsTo_compileModel c root contracts d t).trans hgrows, hfirst.append hothers hgrows⟩

/-- The contracts of a list whose modules can be emitted. -/
def emitted (c : Compiler) (contracts part : List Contract) : List Contract :=
  part.filter fun d => (c.emitModel contracts d).isOk

/-- **Without the contracts that cannot be emitted the pass does the same**: it leaves the same tree
and names the same artifacts. -/
theorem compileEach_emitted (c : Compiler) (root : Path) (contracts : List Contract)
    (part : List Contract) :
    ∀ t : FileTree,
      (c.compileEach root contracts (c.emitted contracts part) t).2 =
          (c.compileEach root contracts part t).2 ∧
        (c.compileEach root contracts (c.emitted contracts part) t).1.written =
          (c.compileEach root contracts part t).1.written ∧
        (c.compileEach root contracts (c.emitted contracts part) t).1.unchanged =
          (c.compileEach root contracts part t).1.unchanged := by
  induction part with
  | nil => exact fun t => ⟨rfl, rfl, rfl⟩
  | cons d rest ih =>
    intro t
    cases hemit : c.emitModel contracts d with
    | error e =>
      have hrest : c.emitted contracts (d :: rest) = c.emitted contracts rest := by
        simp [emitted, hemit, Except.isOk, Except.toBool]
      have hstep : c.compileModel root contracts d t = (.failed d.contractName e, t) :=
        compileModel_of_error hemit t
      rw [hrest]
      simp only [compileEach, hstep]
      exact ih t
    | ok code =>
      have hrest : c.emitted contracts (d :: rest) = d :: c.emitted contracts rest := by
        simp [emitted, hemit, Except.isOk, Except.toBool]
      obtain ⟨htree, hwritten, hunchanged⟩ := ih (c.compileModel root contracts d t).2
      rw [hrest]
      simp only [compileEach, CompileReport.written_append, CompileReport.unchanged_append]
      exact ⟨htree, by rw [hwritten], by rw [hunchanged]⟩

/-- **Isolation of the model pass.** The pass takes one step for each contract, in order, and its
report has one entry for each; the files that differ afterwards are among those it names as written;
and the contracts that cannot be emitted leave no trace in the tree or on the other contracts. -/
theorem compileModels_isolated (c : Compiler) (root : Path) (contracts : List Contract)
    (t : FileTree) :
    (∃ entries, c.ModelRun root contracts contracts t entries
        (c.compileModels root contracts t).2 ∧
      entries.length = contracts.length ∧
      (c.compileModels root contracts t).1 = ArtifactEntry.reportAll entries) ∧
    (c.compileModels root contracts t).1.AccountsFor t (c.compileModels root contracts t).2 ∧
    (c.compileEach root contracts (c.emitted contracts contracts) t).2 =
      (c.compileModels root contracts t).2 ∧
    (c.compileEach root contracts (c.emitted contracts contracts) t).1.written =
      (c.compileModels root contracts t).1.written ∧
    (c.compileEach root contracts (c.emitted contracts contracts) t).1.unchanged =
      (c.compileModels root contracts t).1.unchanged := by
  obtain ⟨entries, hrun, hreport⟩ := modelRun_compileEach c root contracts contracts t
  exact ⟨⟨entries, hrun, hrun.length_eq, hreport⟩,
    (accountsFor_compileEach c root contracts contracts t).2,
    compileEach_emitted c root contracts contracts t⟩

end Compiler

end ContractCompiler
