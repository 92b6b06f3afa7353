import ContractCompiler.Contract.Check

/-!
# When links are refused

A field may have several links, and the first of them stands for the field: it alone is looked up,
and the entity type of the field is compared with its target alone. So a link that no contract
answers to is refused exactly where it comes first.

* `find?_eq_none_iff` — nothing is found exactly when the link dangles.
* `resolveLinks_eq_error_iff` — resolution ends with the first field whose first link is at fault.
* `exists_resolveLinks_error` — links are refused as soon as one field is at fault.
* `resolveLinks_keepFirstLinks` — further links make no difference.
-/

namespace ContractCompiler

/-- No contract of the set goes by the name that the link gives, with or without its ending. -/
def Link.Dangles (link : Link) (contracts : List Contract) : Prop :=
  ∀ d ∈ contracts, d.contractName ≠ link.contract ∧ d.generatedName ≠ link.contract

instance (link : Link) (contracts : List Contract) : Decidable (link.Dangles contracts) :=
  inferInstanceAs (Decidable (∀ d ∈ contracts,
    d.contractName ≠ link.contract ∧ d.generatedName ≠ link.contract))

namespace Contract

variable {c : Contract} {contracts : List Contract}

/-- **Nothing is found for a link exactly when it dangles.** -/
theorem find?_eq_none_iff {link : Link} :
    find? contracts link.contract = none ↔ link.Dangles contracts := by
  unfold find? Link.Dangles
  rw [List.find?_eq_none]
  refine forall₂_congr fun d _ => ?_
  rw [answersTo, Bool.or_eq_true, beq_iff_eq, beq_iff_eq, not_or]

/-! ## Faults -/

/-- What is wrong with the first link of a field: it dangles, or its target is not the entity that
the field declares. -/
inductive LinkFault (c : Contract) (contracts : List Contract) (f : Field) : SchemaError → Prop where
  | dangling {link : Link} (first : f.link.head? = some link) (nothing : link.Dangles contracts) :
      LinkFault c contracts f (.unknownLink f.propertyKey link.contract c.contractName)
  | mismatch {link : Link} {target : Contract} {entity : String}
      (first : f.link.head? = some link) (found : find? contracts link.contract = some target)
      (declared : f.entityType = some entity) (other : target.isEntityName entity = false) :
      LinkFault c contracts f (.entityMismatch f.propertyKey entity target.modelName c.contractName)

theorem resolveLink_eq_error_iff {f : Field} {link : Link} (hfirst : f.link.head? = some link)
    {e : SchemaError} : c.resolveLink contracts f link = .error e ↔ c.LinkFault contracts f e := by
  constructor
  · intro h
    unfold resolveLink at h
    split at h
    · rename_i hnone
      cases h
      exact .dangling hfirst (find?_eq_none_iff.1 hnone)
    · rename_i target htarget
      dsimp only at h
      split at h
      · cases h
      · rename_i entity hentity
        split at h
        · cases h
        · rename_i hother
          cases h
          exact .mismatch hfirst htarget hentity (by simpa using hother)
  · intro h
    cases h with
    | dangling first nothing =>
      obtain rfl := Option.some.inj (hfirst.symm.trans first)
      simp only [resolveLink, find?_eq_none_iff.2 nothing]
    | mismatch first found declared other =>
      obtain rfl := Option.some.inj (hfirst.symm.trans first)
      simp only [resolveLink, found, declared, other, Bool.false_eq_true, if_false]

/-- A field that is not linked is never at fault. -/
theorem not_linkFault_of_nil {f : Field} (h : f.link = []) {e : SchemaError} :
    ¬c.LinkFault contracts f e := by
  intro hfault
  cases hfault with
  | dangling first _ | mismatch first _ _ _ =>
    rw [h] at first
    cases first

/-- A field without a fault only passes the question on to the fields behind it. -/
theorem exists_first_fault_cons {f : Field} {rest : List Field} {e : SchemaError}
    (hf : ∀ e', ¬c.LinkFault contracts f e') :
    (∃ before g after, f :: rest = before ++ g :: after ∧
        (∀ h ∈ before, ∀ e', ¬c.LinkFault contracts h e') ∧ c.LinkFault contracts g e) ↔
      ∃ before g after, rest = before ++ g :: after ∧
        (∀ h ∈ before, ∀ e', ¬c.LinkFault contracts h e') ∧ c.LinkFault contracts g e := by
  constructor
  · rintro ⟨before, g, after, hsplit, hbefore, hg⟩
    rcases List.cons_eq_append_iff.1 hsplit with ⟨rfl, h⟩ | ⟨before', rfl, rfl⟩
    · cases h
      exact absurd hg (hf e)
    · exact ⟨before', g, after, rfl, (List.forall_mem_cons.1 hbefore).2, hg⟩
  · rintro ⟨before, g, after, rfl, hbefore, hg⟩
    exact ⟨f :: before, g, after, rfl, List.forall_mem_cons.2 ⟨hf, hbefore⟩, hg⟩

/-- A field with a fault is the first one with a fault, whatever stands behind it. -/
theorem exists_first_fault_of_fault {f : Field} {rest : List Field} {e e' : SchemaError}
    (hf : c.LinkFault contracts f e') :
    (∃ before g after, f :: rest = before ++ g :: after ∧
        (∀ h ∈ before, ∀ e', ¬c.LinkFault contracts h e') ∧ c.LinkFault contracts g e) ↔
      c.LinkFault contracts f e := by
  constructor
  · rintro ⟨before, g, after, hsplit, hbefore, hg⟩
    rcases List.cons_eq_append_iff.1 hsplit with ⟨rfl, h⟩ | ⟨before', rfl, -⟩
    · cases h
      exact hg
    · exact absurd hf ((List.forall_mem_cons.1 hbefore).1 e')
  · intro h
    exact ⟨[], f, rest, rfl, by simp, h⟩

/-- **Resolution of a list of fields ends with the first field at fault.** -/
theorem resolveFields_eq_error_iff {fields : List Field} {e : SchemaError} :
    ∀ {links : Table LinkTarget}, c.resolveFields contracts links fields = .error e ↔
      ∃ before f after, fields = before ++ f :: after ∧
        (∀ g ∈ before, ∀ e', ¬c.LinkFault contracts g e') ∧ c.LinkFault contracts f e := by
  induction fields with
  | nil => simp [resolveFields]
  | cons f rest ih =>
    intro links
    unfold resolveFields
    split
    · rename_i hnil
      rw [ih, exists_first_fault_cons fun _ => not_linkFault_of_nil hnil]
    · rename_i link more hlink
      have hfirst : f.link.head? = some link := by rw [hlink]; rfl
      split
      · rename_i e' he
        rw [exists_first_fault_of_fault ((resolveLink_eq_error_iff hfirst).1 he),
          ← resolveLink_eq_error_iff hfirst, he, Except.error.injEq, Except.error.injEq]
      · rename_i target htarget
        rw [ih, exists_first_fault_cons]
        intro e' hfault
        rw [(resolveLink_eq_error_iff hfirst).2 hfault] at htarget
        cases htarget

/-- **The links of a contract are refused with the fault of the first field at fault.** -/
theorem resolveLinks_eq_error_iff {e : SchemaError} :
    c.resolveLinks contracts = .error e ↔
      ∃ before f after, c.fields = before ++ f :: after ∧
        (∀ g ∈ before, ∀ e', ¬c.LinkFault contracts g e') ∧ c.LinkFault contracts f e :=
  resolveFields_eq_error_iff

/-- Links are refused as soon as one field is at fault. -/
theorem exists_resolveLinks_error {f : Field} (hf : f ∈ c.fields) {e : SchemaError}
    (h : c.LinkFault contracts f e) : ∃ e', c.resolveLinks contracts = .error e' := by
  classical
  have hsome : (c.fields.find? fun g => decide (∃ e', c.LinkFault contracts g e')).isSome :=
    List.find?_isSome.2 ⟨f, hf, decide_eq_true ⟨e, h⟩⟩
  obtain ⟨g, hg⟩ := Option.isSome_iff_exists.1 hsome
  obtain ⟨hfault, before, after, hsplit, hbefore⟩ := List.find?_eq_some_iff_append.1 hg
  obtain ⟨e', he'⟩ := of_decide_eq_true hfault
  refine ⟨e', resolveLinks_eq_error_iff.2 ⟨before, g, after, hsplit, fun k hk e'' hk' => ?_, he'⟩⟩
  have hclear := hbefore k hk
  rw [Bool.not_eq_true', decide_eq_false_iff_not] at hclear
  exact hclear ⟨e'', hk'⟩

/-! ## Further links -/

/-- The contract without the further links of its fields. -/
def keepFirstLinks (c : Contract) : Contract :=
  { c with fields := c.fields.map fun f => { f with link := f.link.take 1 } }

theorem resolveFields_keepFirstLinks (fields : List Field) :
    ∀ links : Table LinkTarget,
      c.keepFirstLinks.resolveFields contracts links
          (fields.map fun f => { f with link := f.link.take 1 }) =
        c.resolveFields contracts links fields := by
  induction fields with
  | nil => exact fun _ => rfl
  | cons f rest ih =>
    intro links
    rw [List.map_cons, resolveFields, resolveFields]
    cases hlink : f.link with
    | nil => exact ih links
    | cons link more =>
      have hstep : c.keepFirstLinks.resolveLink contracts { f with link := [link] } link =
          c.resolveLink contracts f link := rfl
      simp only [List.take_succ_cons, List.take_zero, hstep]
      cases c.resolveLink contracts f link with
      | error e => rfl
      | ok target => exact ih (links.put f.propertyKey target)

/-- **Further links make no difference**, whether a contract answers to them or not. -/
theorem resolveLinks_keepFirstLinks (c : Contract) (contracts : List Contract) :
    c.keepFirstLinks.resolveLinks contracts = c.resolveLinks contracts :=
  resolveFields_keepFirstLinks c.fields []

end Contract

end ContractCompiler
