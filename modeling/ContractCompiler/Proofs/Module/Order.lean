import Mathlib.Data.List.Find
import Mathlib.Data.List.Nodup
import ContractCompiler.Proofs.Module.References

/-!
# The order of a set of contracts

A link may give a contract's name with or without its ending, and the first contract of the set that
goes by it is taken. Two contracts can go by one name: the name of the one, and the name of the
other with its ending. Only then the order of the set matters.

* `eq_of_answersTo` — one contract at most goes by a name that is not contested.
* `find?_perm_iff` — a name is looked up alike in every order exactly when it is not contested.
* `emitModel_congr` — emission sees no more of a set than the targets of the contract's own links.
* `emitModel_perm` — a contract whose links are not contested becomes the same in every order.
-/

namespace ContractCompiler.Contract

variable {c : Contract} {contracts contracts' : List Contract} {ctx : EmissionContext}
  {resolver : Resolver}

/-! ## Contested names -/

/-- The name is that of one contract, and another contract goes by it with its ending. -/
def Contested (contracts : List Contract) (name : String) : Prop :=
  ∃ d ∈ contracts, ∃ e ∈ contracts,
    d.contractName = name ∧ e.contractName ≠ name ∧ e.generatedName = name

instance (contracts : List Contract) (name : String) : Decidable (Contested contracts name) :=
  inferInstanceAs (Decidable (∃ d ∈ contracts, ∃ e ∈ contracts,
    d.contractName = name ∧ e.contractName ≠ name ∧ e.generatedName = name))

theorem answersTo_iff {name : String} :
    c.answersTo name = true ↔ c.contractName = name ∨ c.generatedName = name := by
  rw [answersTo, Bool.or_eq_true, beq_iff_eq, beq_iff_eq]

/-- Contracts whose names both had to be completed, to the same name, have the same name. -/
theorem contractName_eq_of_generatedName {d e : Contract} {name : String}
    (hd : d.generatedName = name) (he : e.generatedName = name) (hdne : d.contractName ≠ name)
    (hene : e.contractName ≠ name) : d.contractName = e.contractName := by
  have hcompleted : ∀ c : Contract, c.generatedName = name → c.contractName ≠ name →
      c.contractName ++ nameEnding = name := by
    intro c hc hne
    unfold generatedName at hc
    split at hc
    · exact absurd hc hne
    · exact hc
  have happend := congrArg String.toList ((hcompleted d hd hdne).trans (hcompleted e he hene).symm)
  rw [String.toList_append, String.toList_append] at happend
  exact String.toList_inj.1 (List.append_cancel_right happend)

/-- **One contract at most goes by a name that is not contested.** -/
theorem eq_of_answersTo (hnames : (contracts.map contractName).Nodup) {name : String}
    (hcontested : ¬Contested contracts name) {d e : Contract} (hd : d ∈ contracts)
    (he : e ∈ contracts) (hdname : d.answersTo name = true) (hename : e.answersTo name = true) :
    d = e := by
  refine List.inj_on_of_nodup_map hnames hd he ?_
  rw [answersTo_iff] at hdname hename
  by_cases hdown : d.contractName = name
  · by_cases heown : e.contractName = name
    · rw [hdown, heown]
    · exact absurd ⟨d, hd, e, he, hdown, heown, hename.resolve_left heown⟩ hcontested
  · by_cases heown : e.contractName = name
    · exact absurd ⟨e, he, d, hd, heown, hdown, hdname.resolve_left hdown⟩ hcontested
    · exact contractName_eq_of_generatedName (hdname.resolve_left hdown)
        (hename.resolve_left heown) hdown heown

/-- A name that is looked up alike in every order finds any contract that goes by it. -/
theorem find?_eq_some_of_order {name : String}
    (horder : ∀ contracts', contracts'.Perm contracts → find? contracts' name = find? contracts name)
    (hc : c ∈ contracts) (hname : c.answersTo name = true) : find? contracts name = some c := by
  rw [← horder _ (List.perm_cons_erase hc).symm]
  exact List.find?_cons_of_pos hname

/-- **A name is looked up alike in every order exactly when it is not contested.** -/
theorem find?_perm_iff (hnames : (contracts.map contractName).Nodup) {name : String} :
    (∀ contracts', contracts'.Perm contracts → find? contracts' name = find? contracts name) ↔
      ¬Contested contracts name := by
  constructor
  · rintro horder ⟨d, hd, e, he, hdname, hene, hename⟩
    have hd' := find?_eq_some_of_order horder hd (answersTo_iff.2 (Or.inl hdname))
    have he' := find?_eq_some_of_order horder he (answersTo_iff.2 (Or.inr hename))
    obtain rfl : d = e := Option.some.inj (hd'.symm.trans he')
    exact hene hdname
  · intro hcontested contracts' hperm
    refine List.find?_eq_find?_of_perm hperm ?_
    rintro d ⟨hd, hdname⟩ e ⟨he, hename⟩
    exact eq_of_answersTo hnames hcontested (hperm.mem_iff.1 hd) (hperm.mem_iff.1 he) hdname hename

/-! ## What emission sees of a set -/

/-- Links are resolved by their targets. -/
theorem resolveLink_congr {f : Field} {link : Link} {tail : List Link} (hlink : f.link = link :: tail)
    (h : linkTarget? contracts f = linkTarget? contracts' f) :
    c.resolveLink contracts f link = c.resolveLink contracts' f link := by
  rw [linkTarget?, linkTarget?, hlink] at h
  dsimp only at h
  rw [resolveLink, resolveLink, h]

theorem resolveFields_congr {fields : List Field} :
    ∀ {links : Table LinkTarget},
      (∀ f ∈ fields, linkTarget? contracts f = linkTarget? contracts' f) →
        c.resolveFields contracts links fields = c.resolveFields contracts' links fields := by
  induction fields with
  | nil => exact fun _ => rfl
  | cons f rest ih =>
    intro links h
    obtain ⟨hf, hrest⟩ := List.forall_mem_cons.1 h
    rw [resolveFields, resolveFields]
    cases hlink : f.link with
    | nil => exact ih hrest
    | cons link tail =>
      dsimp only
      rw [resolveLink_congr hlink hf]
      cases c.resolveLink contracts' f link with
      | error => rfl
      | ok target => exact ih hrest

theorem linkedRequests_congr {fields : List Field} :
    ∀ {seen : List String},
      (∀ f ∈ fields, linkTarget? contracts f = linkTarget? contracts' f) →
        c.linkedRequests contracts resolver seen fields =
          c.linkedRequests contracts' resolver seen fields := by
  induction fields with
  | nil => exact fun _ => rfl
  | cons f rest ih =>
    intro seen h
    obtain ⟨hf, hrest⟩ := List.forall_mem_cons.1 h
    rw [linkedRequests_cons, linkedRequests_cons, hf]
    cases linkTarget? contracts' f with
    | none => exact ih hrest
    | some t =>
      dsimp only
      rw [ih hrest, ih hrest]

/-- **Emission sees no more of a set than the targets of the contract's own links.** -/
theorem emitModel_congr (h : ∀ f ∈ c.fields, linkTarget? contracts f = linkTarget? contracts' f) :
    c.emitModel contracts ctx resolver = c.emitModel contracts' ctx resolver := by
  have hlinks : c.resolveLinks contracts = c.resolveLinks contracts' := resolveFields_congr h
  have himports : c.moduleImports contracts ctx resolver = c.moduleImports contracts' ctx resolver := by
    funext classCode messages
    rw [moduleImports, moduleImports, linkedRequests_congr h]
  rw [emitModel, emitModel, modelModule, modelModule, hlinks, himports]

/-- **Emission does not depend on the order of the set**, where names are not contested: a name is
looked up alike in every order exactly when it is not contested, it is then found under the contract
of that name, and a contract whose links are not contested becomes the same in every order. -/
theorem emitModel_perm (hnames : (contracts.map contractName).Nodup) :
    (∀ name, (∀ contracts', contracts'.Perm contracts →
        find? contracts' name = find? contracts name) ↔ ¬Contested contracts name) ∧
      (∀ d ∈ contracts, ¬Contested contracts d.contractName →
        find? contracts d.contractName = some d) ∧
      ∀ c : Contract, (∀ f ∈ c.fields, ∀ link ∈ f.link.head?, ¬Contested contracts link.contract) →
        ∀ contracts' ctx resolver, contracts'.Perm contracts →
          c.emitModel contracts' ctx resolver = c.emitModel contracts ctx resolver := by
  refine ⟨fun name => find?_perm_iff hnames, fun d hd hcontested => ?_, ?_⟩
  · exact find?_eq_some_of_order ((find?_perm_iff hnames).2 hcontested) hd
      (answersTo_iff.2 (Or.inl rfl))
  · intro c hcontested contracts' ctx resolver hperm
    refine emitModel_congr fun f hf => ?_
    unfold linkTarget?
    cases hlink : f.link with
    | nil => rfl
    | cons link tail =>
      have hname : ¬Contested contracts link.contract := hcontested f hf link (by rw [hlink]; rfl)
      exact (find?_perm_iff hnames).2 hname contracts' hperm

/-- A contract whose name is that of the next one with its ending. -/
def user : Contract := named "User" "User"

/-- A contract whose name has the ending itself. -/
def userContract : Contract := named "UserContract" "Account"

def profile : Contract := { named "Profile" "Profile" with fields := [linkField "user" "User"] }

def owner : Contract :=
  { named "Owner" "Owner" with
    fields := [{ linkField "account" "UserContract" with entityType := some "Account" }] }

theorem emitModel_perm_profile :
    ([user, userContract, profile].map contractName).Nodup ∧
      (∀ f ∈ profile.fields, ∀ link ∈ f.link.head?,
        ¬Contested [user, userContract, profile] link.contract) ∧
      ∀ contracts' ctx resolver, contracts'.Perm [user, userContract, profile] →
        profile.emitModel contracts' ctx resolver =
          profile.emitModel [user, userContract, profile] ctx resolver := by
  have hnames : ([user, userContract, profile].map contractName).Nodup := by decide
  have hlinks : ∀ f ∈ profile.fields, ∀ link ∈ f.link.head?,
      ¬Contested [user, userContract, profile] link.contract := by decide
  exact ⟨hnames, hlinks, (emitModel_perm hnames).2.2 profile hlinks⟩

/-- A link to a contract by its name goes astray where a contract before it goes by that name with
its ending: the contract is refused in one order of the set and emitted in another. -/
theorem emitModel_owner_ne :
    ([user, userContract, owner].map contractName).Nodup ∧
      [userContract, user, owner].Perm [user, userContract, owner] ∧
      owner.emitModel [user, userContract, owner] fullContext nameResolver =
        .error (.schema (.entityMismatch "account" "Account" "User" "Owner")) ∧
      (∃ t, owner.emitModel [userContract, user, owner] fullContext nameResolver = .ok t) ∧
      userContract.contractName = "UserContract" ∧
      find? [user, userContract, owner] "UserContract" = some user ∧ user ≠ userContract :=
  ⟨by decide, .swap _ _ _, rfl, ⟨_, rfl⟩, rfl, rfl, by decide⟩

end ContractCompiler.Contract
