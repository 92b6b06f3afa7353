import ContractCompiler.Command.Run
import ContractCompiler.Proofs.Contract.Resolution
import ContractCompiler.Proofs.Module.Closure

/-!
# What validation accepts

Validation loads contracts and resolves their links, and succeeds when neither fails for any of
them.

* `exitCode_runValidate_eq_zero_iff` — validation succeeds when there is nothing to report.
* `refused_iff_firstLinks` — a link that dangles is refused by resolution, emission and validation
  where it is the first link of its field; elsewhere it makes no difference.
* `accepted_secondLink` — a link that dangles, and that nothing refuses.
-/

namespace ContractCompiler

namespace LoadedContracts

variable {l : LoadedContracts}

/-- The contracts that validation reports are those whose links are refused. -/
theorem mem_danglingLinks_iff {c : Contract} {e : SchemaError} :
    (c, e) ∈ l.danglingLinks ↔ c ∈ l.contracts ∧ c.resolveLinks l.contracts = .error e := by
  unfold danglingLinks
  rw [List.mem_filterMap]
  constructor
  · rintro ⟨d, hd, h⟩
    split at h
    · rename_i hlinks
      cases h
      exact ⟨hd, hlinks⟩
    · cases h
  · rintro ⟨hc, hlinks⟩
    exact ⟨c, hc, by rw [hlinks]⟩

end LoadedContracts

namespace Command

variable {path : Path} {t : FileTree} {loaded : LoadedContracts}

/-- The number of invalid items: what could not be loaded, and the contracts whose links are
refused. -/
def invalidCount (loaded : LoadedContracts) : Nat :=
  loaded.failures.length + loaded.danglingLinks.length

theorem runValidate_of_load (h : LoadedContracts.load t path = .ok loaded) :
    runValidate path t =
      if invalidCount loaded = 0 then .success loaded.countLine
      else .failed "" (loaded.failureLines ++ loaded.linkLines)
        (.general (.contractsInvalid (invalidCount loaded))) := by
  rw [runValidate, h]
  rfl

theorem exitCode_runValidate_of_load (h : LoadedContracts.load t path = .ok loaded) :
    (runValidate path t).exitCode = if invalidCount loaded = 0 then 0 else 1 := by
  rw [runValidate_of_load h]
  split <;> rfl

/-- **Validation succeeds exactly when the contracts can be found and there is nothing to report.** -/
theorem exitCode_runValidate_eq_zero_iff :
    (runValidate path t).exitCode = 0 ↔
      ∃ loaded, LoadedContracts.load t path = .ok loaded ∧ invalidCount loaded = 0 := by
  cases h : LoadedContracts.load t path with
  | error e => simp [runValidate, h, CommandResult.failed]
  | ok loaded =>
    rw [exitCode_runValidate_of_load h]
    by_cases hcount : invalidCount loaded = 0 <;> simp [hcount]

/-- One contract whose links are refused makes validation fail. -/
theorem exitCode_runValidate_of_refused (h : LoadedContracts.load t path = .ok loaded)
    {c : Contract} (hc : c ∈ loaded.contracts) {e : SchemaError}
    (hlinks : c.resolveLinks loaded.contracts = .error e) : (runValidate path t).exitCode = 1 := by
  have hmem : (c, e) ∈ loaded.danglingLinks := LoadedContracts.mem_danglingLinks_iff.2 ⟨hc, hlinks⟩
  have hpos := List.length_pos_of_mem hmem
  rw [exitCode_runValidate_of_load h, if_neg]
  unfold invalidCount
  omega

end Command

namespace Contract

/-! ## Dangling links -/

/-- **A link that dangles is refused where it is the first of its field, and only there.** Resolution
ends with the first field whose first link is at fault; links behind the first one make no
difference to it; and a contract with a first link that dangles is neither resolved, nor emitted
under any settings, nor does validation accept a set of contracts that it is part of. -/
theorem refused_iff_firstLinks (c : Contract) (contracts : List Contract) :
    (∀ e, c.resolveLinks contracts = .error e ↔
      ∃ before f after, c.fields = before ++ f :: after ∧
        (∀ g ∈ before, ∀ e', ¬c.LinkFault contracts g e') ∧ c.LinkFault contracts f e) ∧
    c.keepFirstLinks.resolveLinks contracts = c.resolveLinks contracts ∧
    ∀ f ∈ c.fields, ∀ link, f.link.head? = some link → link.Dangles contracts →
      (∃ e, c.resolveLinks contracts = .error e) ∧
      (∀ ctx resolver, ∃ e, c.emitModel contracts ctx resolver = .error (.schema e)) ∧
      ∀ t path failures, c ∈ contracts → LoadedContracts.load t path = .ok ⟨contracts, failures⟩ →
        (Command.runValidate path t).exitCode = 1 := by
  refine ⟨fun _ => resolveLinks_eq_error_iff, resolveLinks_keepFirstLinks c contracts, ?_⟩
  intro f hf link hfirst hdangles
  obtain ⟨e, he⟩ := exists_resolveLinks_error hf (.dangling hfirst hdangles)
  refine ⟨⟨e, he⟩, fun ctx resolver => ?_, fun t path failures hc hload => ?_⟩
  · cases hcheck : c.check with
    | error e' =>
      exact ⟨e', emitModel_eq_error_iff.2 (modelModule_eq_error_iff.2
        (.inl ⟨e', .check hcheck, rfl⟩))⟩
    | ok =>
      exact ⟨e, emitModel_eq_error_iff.2 (modelModule_eq_error_iff.2
        (.inl ⟨e, .links hcheck he, rfl⟩))⟩
  · exact Command.exitCode_runValidate_of_refused hload hc he

def account : Contract := named "Account" "Account"

/-- A field with one link that is answered and one that dangles. -/
def halfAnswered (links : List Link) : Field :=
  { Field.plain "owner" (.known .string) with link := links }

def postOf (links : List Link) : Contract :=
  { named "Post" "Post" with fields := [halfAnswered links] }

def missingOwnerTree : FileTree :=
  (FileTree.empty []).put ["contracts.yml"] (.file (.text (
    "- contractName: Post\n  controllerName: Post\n  fields:\n" ++
    "    - propertyKey: owner\n      protoType: string\n      link:\n" ++
    "        - contract: Missing\n        - contract: Account\n" ++
    "- contractName: Account\n  controllerName: Account\n  fields: []\n")))

theorem refused_postOf_missing :
    (halfAnswered [.to "Missing", .to "Account"] ∈ (postOf [.to "Missing", .to "Account"]).fields ∧
      (Link.to "Missing").Dangles [postOf [.to "Missing", .to "Account"], account] ∧
      LoadedContracts.load missingOwnerTree ⟨"contracts.yml"⟩ =
        .ok ⟨[postOf [.to "Missing", .to "Account"], account], []⟩) ∧
    (∃ e, (postOf [.to "Missing", .to "Account"]).resolveLinks
      [postOf [.to "Missing", .to "Account"], account] = .error e) ∧
    (∃ e, (postOf [.to "Missing", .to "Account"]).emitModel
      [postOf [.to "Missing", .to "Account"], account] fullContext nameResolver =
        .error (.schema e)) ∧
    (Command.runValidate ⟨"contracts.yml"⟩ missingOwnerTree).exitCode = 1 := by
  have hmem : halfAnswered [.to "Missing", .to "Account"] ∈
      (postOf [.to "Missing", .to "Account"]).fields := List.mem_cons_self
  have hdangles : (Link.to "Missing").Dangles [postOf [.to "Missing", .to "Account"], account] := by
    decide
  have hload : LoadedContracts.load missingOwnerTree ⟨"contracts.yml"⟩ =
      .ok ⟨[postOf [.to "Missing", .to "Account"], account], []⟩ := by
    decide +kernel
  obtain ⟨hresolve, hemit, hvalidate⟩ :=
    (refused_iff_firstLinks _ [postOf [.to "Missing", .to "Account"], account]).2.2 _ hmem _ rfl
      hdangles
  exact ⟨⟨hmem, hdangles, hload⟩, hresolve, hemit _ _,
    hvalidate _ _ _ List.mem_cons_self hload⟩

/-- The second link of the field dangles; yet the links are resolved, the contract is emitted, and
validation has nothing to report. -/
theorem accepted_secondLink :
    halfAnswered [.to "Account", .to "Missing"] ∈ (postOf [.to "Account", .to "Missing"]).fields ∧
      .to "Missing" ∈ (halfAnswered [.to "Account", .to "Missing"]).link ∧
      (Link.to "Missing").Dangles [postOf [.to "Account", .to "Missing"], account] ∧
      (postOf [.to "Account", .to "Missing"]).resolveLinks
        [postOf [.to "Account", .to "Missing"], account] = .ok [("owner", ⟨"Account", false⟩)] ∧
      (∃ t, (postOf [.to "Account", .to "Missing"]).emitModel
        [postOf [.to "Account", .to "Missing"], account] fullContext nameResolver = .ok t) ∧
      Command.invalidCount ⟨[postOf [.to "Account", .to "Missing"], account], []⟩ = 0 :=
  ⟨List.mem_cons_self, by decide, by decide, rfl, ⟨_, rfl⟩, rfl⟩

end Contract

end ContractCompiler
