import Mathlib.Data.List.Induction
import ContractCompiler.Contract.Builder
import ContractCompiler.Contract.Check

/-!
# The verdict on a contract

Checking goes through the names of a contract and then through its fields, and stops at the first
offence. What stands behind an offence is never looked at, so a contract under construction keeps
the offence that it has.

* `check_eq_ok_iff` — a contract passes exactly when its names and keys are not blank and its keys
  are distinct.
* `checkKeys_append` — the loop over the fields goes on with the keys that it has passed.
* `check_eq_error_iff` — the others are refused for their first offence.
* `extendsTo_foldl` — a builder keeps the names of its draft, and the fields that it has in front.
* `check_firstOffence` — the verdict on every contract, and on a builder after every further step.
-/

namespace ContractCompiler.Contract

/-! ## Contracts that pass -/

variable {c : Contract}

/-- **The keys of fields pass exactly when none is blank, repeated or among those passed.** -/
theorem checkKeys_eq_ok_iff {contract : String} {fields : List Field} :
    ∀ {seen : List String}, checkKeys contract seen fields = .ok () ↔
      (∀ f ∈ fields, Text.isBlankText f.propertyKey = false) ∧
        (fields.map Field.propertyKey).Nodup ∧ ∀ f ∈ fields, f.propertyKey ∉ seen := by
  induction fields with
  | nil => simp [checkKeys]
  | cons f rest ih =>
    intro seen
    simp only [checkKeys, List.forall_mem_cons, List.map_cons, List.nodup_cons]
    by_cases hblank : Text.isBlankText f.propertyKey = true
    · simp [hblank]
    · by_cases hseen : f.propertyKey ∈ seen
      · simp [hblank, hseen]
      · rw [if_neg hblank, if_neg (by simpa using hseen), ih]
        have hfresh : (∀ g ∈ rest, g.propertyKey ∉ f.propertyKey :: seen) ↔
            f.propertyKey ∉ rest.map Field.propertyKey ∧ ∀ g ∈ rest, g.propertyKey ∉ seen := by
          simp only [List.mem_cons, not_or, List.mem_map, not_exists, not_and]
          exact ⟨fun h => ⟨fun g hg => (h g hg).1, fun g hg => (h g hg).2⟩,
            fun h g hg => ⟨h.1 g hg, h.2 g hg⟩⟩
        rw [hfresh]
        simp only [hblank, hseen, not_false_iff, true_and]
        constructor
        · rintro ⟨hb, hn, hk, hs⟩
          exact ⟨hb, ⟨hk, hn⟩, hs⟩
        · rintro ⟨hb, ⟨hk, hn⟩, hs⟩
          exact ⟨hb, hn, hk, hs⟩

/-- **A contract passes exactly when its names and the keys of its fields are not blank, and no key
is repeated.** -/
theorem check_eq_ok_iff :
    c.check = .ok () ↔
      Text.isBlankText c.contractName = false ∧ Text.isBlankText c.controllerName = false ∧
        (∀ f ∈ c.fields, Text.isBlankText f.propertyKey = false) ∧
        (c.fields.map Field.propertyKey).Nodup := by
  unfold check
  cases h1 : Text.isBlankText c.contractName
  · cases h2 : Text.isBlankText c.controllerName
    · simp [checkKeys_eq_ok_iff]
    · simp
  · simp

theorem nodup_of_check (h : c.check = .ok ()) : (c.fields.map Field.propertyKey).Nodup :=
  (check_eq_ok_iff.1 h).2.2.2

end ContractCompiler.Contract

namespace ContractCompiler

/-! ## The first offence -/

/-- The text has a character that is no white space. -/
def Text.HasText (s : String) : Prop := ∃ ch ∈ s.toList, Text.isBlank ch = false

theorem Text.isBlankText_eq_false_iff {s : String} :
    Text.isBlankText s = false ↔ Text.HasText s := by
  rw [isBlankText, List.all_eq_false]
  simp only [Bool.not_eq_true]
  rfl

theorem Text.isBlankText_eq_true_iff {s : String} :
    Text.isBlankText s = true ↔ ¬Text.HasText s := by
  rw [← isBlankText_eq_false_iff, Bool.not_eq_false]

namespace Contract

/-- The contract has a name and a controller name, and its fields have keys that differ from each
other. -/
structure WellFormed (c : Contract) : Prop where
  contractName : Text.HasText c.contractName
  controllerName : Text.HasText c.controllerName
  keys : ∀ f ∈ c.fields, Text.HasText f.propertyKey
  distinct : (c.fields.map Field.propertyKey).Nodup

/-- What is wrong with the key of a field that stands behind others: it is blank, or else it is the
key of one of them. -/
inductive KeyOffence (contract : String) (front : List Field) (f : Field) : SchemaError → Prop where
  | blank (hkey : ¬Text.HasText f.propertyKey) :
      KeyOffence contract front f (.propertyKeyRequired contract)
  | repeated (hkey : Text.HasText f.propertyKey) (hfront : f.propertyKey ∈ front.map Field.propertyKey) :
      KeyOffence contract front f (.duplicatePropertyKey f.propertyKey contract)

/-- The first thing that is wrong with a contract: its name, else its controller name, else the key of
the first field that is at fault. -/
inductive FirstOffence (c : Contract) : SchemaError → Prop where
  | contractName (hname : ¬Text.HasText c.contractName) : FirstOffence c .contractNameRequired
  | controllerName (hname : Text.HasText c.contractName)
      (hcontroller : ¬Text.HasText c.controllerName) :
      FirstOffence c (.controllerNameRequired c.contractName)
  | key (hname : Text.HasText c.contractName) (hcontroller : Text.HasText c.controllerName)
      {front back : List Field} {f : Field} {e : SchemaError} (hfields : c.fields = front ++ f :: back)
      (hfront : ∀ g ∈ front, Text.HasText g.propertyKey)
      (hdistinct : (front.map Field.propertyKey).Nodup)
      (hkey : KeyOffence c.contractName front f e) : FirstOffence c e

variable {c d : Contract} {contract : String} {fields front back : List Field} {e : SchemaError}

/-! ## The loop over the fields -/

/-- **The loop goes on with the keys that it has passed**, and ends where it fails. -/
theorem checkKeys_append (front back : List Field) :
    ∀ seen : List String, checkKeys contract seen (front ++ back) =
      match checkKeys contract seen front with
      | .error e => .error e
      | .ok () => checkKeys contract ((front.map Field.propertyKey).reverse ++ seen) back := by
  induction front with
  | nil => exact fun seen => rfl
  | cons f rest ih =>
    intro seen
    simp only [List.cons_append, checkKeys]
    split
    · rfl
    · split
      · rfl
      · rw [ih, List.map_cons, List.reverse_cons, List.append_assoc, List.singleton_append]

/-- A field whose key is at fault ends the loop. -/
theorem checkKeys_of_keyOffence {f : Field} (h : KeyOffence contract front f e) :
    checkKeys contract ((front.map Field.propertyKey).reverse ++ []) (f :: back) = .error e := by
  rw [List.append_nil, checkKeys]
  cases h with
  | blank hkey => rw [if_pos (Text.isBlankText_eq_true_iff.2 hkey)]
  | repeated hkey hfront =>
    rw [if_neg (by rw [Text.isBlankText_eq_false_iff.2 hkey]; exact Bool.false_ne_true),
      if_pos (by rwa [List.contains_iff_mem, List.mem_reverse])]

/-- A field that ends the loop has a key that is at fault. -/
theorem keyOffence_of_checkKeys {f : Field}
    (h : checkKeys contract ((front.map Field.propertyKey).reverse ++ []) [f] = .error e) :
    KeyOffence contract front f e := by
  rw [List.append_nil, checkKeys] at h
  split at h
  · rename_i hkey
    cases h
    exact .blank (Text.isBlankText_eq_true_iff.1 hkey)
  · rename_i hkey
    split at h
    · rename_i hfront
      cases h
      rw [List.contains_iff_mem, List.mem_reverse] at hfront
      exact .repeated (Text.isBlankText_eq_false_iff.1 (Bool.not_eq_true _ ▸ hkey)) hfront
    · cases h

/-- **The loop fails with what is wrong with the first key at fault.** -/
theorem checkKeys_eq_error_iff :
    checkKeys contract [] fields = .error e ↔
      ∃ front f back, fields = front ++ f :: back ∧ checkKeys contract [] front = .ok () ∧
        KeyOffence contract front f e := by
  constructor
  · intro h
    induction fields using List.reverseRecOn with
    | nil => cases h
    | append_singleton init last ih =>
      rw [checkKeys_append] at h
      cases hinit : checkKeys contract [] init with
      | error e' =>
        rw [hinit] at h
        cases h
        obtain ⟨front, f, back, rfl, hfront, hkey⟩ := ih hinit
        exact ⟨front, f, back ++ [last], by simp, hfront, hkey⟩
      | ok =>
        rw [hinit] at h
        exact ⟨init, last, [], rfl, hinit, keyOffence_of_checkKeys h⟩
  · rintro ⟨front, f, back, rfl, hfront, hkey⟩
    rw [checkKeys_append, hfront]
    exact checkKeys_of_keyOffence hkey

/-! ## Names, then keys -/

/-- **The contracts that pass are the well-formed ones.** -/
theorem check_eq_ok_iff_wellFormed : c.check = .ok () ↔ c.WellFormed := by
  simp only [check_eq_ok_iff, Text.isBlankText_eq_false_iff]
  exact ⟨fun ⟨hname, hcontroller, hkeys, hdistinct⟩ => ⟨hname, hcontroller, hkeys, hdistinct⟩,
    fun ⟨hname, hcontroller, hkeys, hdistinct⟩ => ⟨hname, hcontroller, hkeys, hdistinct⟩⟩

/-- Once the names of a contract pass, its keys decide. -/
theorem check_eq_checkKeys (hname : Text.HasText c.contractName)
    (hcontroller : Text.HasText c.controllerName) :
    c.check = checkKeys c.contractName [] c.fields := by
  rw [check, Text.isBlankText_eq_false_iff.2 hname, Text.isBlankText_eq_false_iff.2 hcontroller]
  rfl

/-- **The contracts that do not pass are refused for their first offence.** -/
theorem check_eq_error_iff : c.check = .error e ↔ c.FirstOffence e := by
  by_cases hname : Text.HasText c.contractName
  case neg =>
    have hcheck : c.check = .error .contractNameRequired := by
      rw [check, if_pos (Text.isBlankText_eq_true_iff.2 hname)]
    rw [hcheck]
    constructor
    · rintro ⟨⟩
      exact .contractName hname
    · rintro (- | ⟨h, -⟩ | ⟨h, -⟩)
      · rfl
      · exact absurd h hname
      · exact absurd h hname
  by_cases hcontroller : Text.HasText c.controllerName
  case neg =>
    have hcheck : c.check = .error (.controllerNameRequired c.contractName) := by
      rw [check, Text.isBlankText_eq_false_iff.2 hname,
        if_pos (Text.isBlankText_eq_true_iff.2 hcontroller)]
      rfl
    rw [hcheck]
    constructor
    · rintro ⟨⟩
      exact .controllerName hname hcontroller
    · rintro (h | - | ⟨-, h⟩)
      · exact absurd hname h
      · rfl
      · exact absurd h hcontroller
  rw [check_eq_checkKeys hname hcontroller, checkKeys_eq_error_iff]
  constructor
  · rintro ⟨front, f, back, hfields, hfront, hkey⟩
    obtain ⟨hkeys, hdistinct, -⟩ := checkKeys_eq_ok_iff.1 hfront
    exact .key hname hcontroller hfields
      (fun g hg => Text.isBlankText_eq_false_iff.1 (hkeys g hg)) hdistinct hkey
  · rintro (h | ⟨-, h⟩ | ⟨-, -, hfields, hfront, hdistinct, hkey⟩)
    · exact absurd hname h
    · exact absurd hcontroller h
    · refine ⟨_, _, _, hfields, checkKeys_eq_ok_iff.2 ⟨fun g hg => ?_, hdistinct, by simp⟩, hkey⟩
      exact Text.isBlankText_eq_false_iff.2 (hfront g hg)

/-! ## Contracts under construction -/

/-- The other contract has the same names, and its fields begin with those of the contract. -/
structure ExtendsTo (c d : Contract) : Prop where
  contractName : d.contractName = c.contractName
  controllerName : d.controllerName = c.controllerName
  fields : c.fields <+: d.fields

theorem ExtendsTo.refl (c : Contract) : c.ExtendsTo c := ⟨rfl, rfl, List.prefix_refl _⟩

theorem ExtendsTo.trans {b : Contract} (h : b.ExtendsTo c) (h' : c.ExtendsTo d) : b.ExtendsTo d :=
  ⟨h'.contractName.trans h.contractName, h'.controllerName.trans h.controllerName,
    h.fields.trans h'.fields⟩

/-- **What is wrong with a contract stays wrong with it**, whatever is added behind. -/
theorem FirstOffence.extend (h : c.ExtendsTo d) (hc : c.FirstOffence e) : d.FirstOffence e := by
  obtain ⟨hnames, hcontrollers, added, hadded⟩ := h
  cases hc with
  | contractName hname => exact .contractName (by rwa [hnames])
  | controllerName hname hcontroller =>
    rw [← hnames]
    exact .controllerName (by rwa [hnames]) (by rwa [hcontrollers])
  | @key hname hcontroller front back f _ hfields hfront hdistinct hkey =>
    have hfields' : d.fields = front ++ f :: (back ++ added) := by
      rw [← hadded, hfields, List.append_assoc, List.cons_append]
    exact .key (by rwa [hnames]) (by rwa [hcontrollers]) hfields' hfront hdistinct (by rwa [hnames])

end Contract

namespace ContractBuilder

variable {b : ContractBuilder} {e : SchemaError}

/-- A step keeps the names of the draft and the fields that it has. -/
theorem extendsTo_apply (b : ContractBuilder) (s : ContractStep) :
    b.draft.ExtendsTo (b.apply s).draft := by
  cases s with
  | field f => exact ⟨rfl, rfl, List.prefix_append _ _⟩
  | message | service | index | cache | options | moduleContract | importing =>
    exact ⟨rfl, rfl, List.prefix_refl _⟩

/-- So does a run of steps. -/
theorem extendsTo_foldl (steps : List ContractStep) :
    ∀ b : ContractBuilder, b.draft.ExtendsTo (steps.foldl apply b).draft := by
  induction steps with
  | nil => exact fun b => .refl b.draft
  | cons s rest ih => exact fun b => (b.extendsTo_apply s).trans (ih (b.apply s))

theorem build_eq_error_iff : b.build = .error e ↔ b.draft.FirstOffence e := by
  rw [← Contract.check_eq_error_iff, build]
  cases b.draft.check <;> simp

end ContractBuilder

/-! ## The verdict -/

/-- **A contract passes exactly when it is well formed, and is refused for its first offence
otherwise; a builder that is refused stays refused for that offence**, whatever steps follow. -/
theorem Contract.check_firstOffence (c : Contract) (b : ContractBuilder) :
    (c.check = .ok () ↔ c.WellFormed) ∧ (∀ e, c.check = .error e ↔ c.FirstOffence e) ∧
      ∀ (steps more : List ContractStep) (e : SchemaError),
        (steps.foldl ContractBuilder.apply b).build = .error e →
          ((steps ++ more).foldl ContractBuilder.apply b).build = .error e := by
  refine ⟨check_eq_ok_iff_wellFormed, fun e => check_eq_error_iff, fun steps more e h => ?_⟩
  rw [ContractBuilder.build_eq_error_iff] at h ⊢
  rw [List.foldl_append]
  exact h.extend (ContractBuilder.extendsTo_foldl more _)

/-- A builder that adds the key `email` twice is refused for that, also when a blank key follows. -/
theorem Contract.check_firstOffence_email :
    ([.field (.build "email" "string" []), .field (.build "email" "text" [])].foldl
        ContractBuilder.apply (.new "User" "User")).build =
      .error (.duplicatePropertyKey "email" "User") ∧
    ([.field (.build "email" "string" []), .field (.build "email" "text" []),
        .moduleContract, .field (.build " " "string" [])].foldl
        ContractBuilder.apply (.new "User" "User")).build =
      .error (.duplicatePropertyKey "email" "User") :=
  have h : ([.field (.build "email" "string" []), .field (.build "email" "text" [])].foldl
      ContractBuilder.apply (.new "User" "User")).build =
        .error (.duplicatePropertyKey "email" "User") := by decide +kernel
  ⟨h, (check_firstOffence (.named "User" "User") (.new "User" "User")).2.2 _
    [.moduleContract, .field (.build " " "string" [])] _ h⟩

end ContractCompiler
