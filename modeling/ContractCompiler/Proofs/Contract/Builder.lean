import ContractCompiler.Contract.Builder
import ContractCompiler.Contract.Reading
import ContractCompiler.Proofs.Contract.Settled

/-!
# Contracts that were built

A builder sets the members of a contract one by one, type tags from their texts. What it builds is
settled but for the values that a step sets to `null` and for extra options that take the names of
known ones.

* `Contract.Built` — the contract comes from a builder.
* `Contract.Built.orderly` — every step keeps a contract under construction orderly.
* `Contract.reads_of_built` — a built contract is read back without its explicit nulls, from every
  format that renders it.
* `Contract.read_toJson_eq_self_iff` — it is read back as it is exactly when it has none.
-/

namespace ContractCompiler

open Decode Rendition

/-! ## Building -/

/-- The values given in the validation hold each key of an object once. -/
structure Validation.HasDistinctKeys (v : Validation) : Prop where
  parameters : ∀ items, v.kind = .tuple items → ∀ u ∈ items, u.HasDistinctKeys
  value : ∀ u ∈ v.value, u.HasDistinctKeys
  context : ∀ u ∈ v.context, u.HasDistinctKeys

/-- The step takes its type tag from a text, and its values hold each key of an object once, as those
in memory do. -/
def FieldStep.Proper : FieldStep → Prop
  | .arrayType t => ∃ text, t = .ofString text
  | .defaultValue v => v.HasDistinctKeys
  | .validation v => v.HasDistinctKeys
  | .decorator _ d => ∀ v ∈ d.options, v.HasDistinctKeys
  | _ => True

/-- The step takes its type tag from a text, and its value holds each key of an object once. -/
def PropertyStep.Proper : PropertyStep → Prop
  | .arrayType t => ∃ text, t = .ofString text
  | .defaultValue v => v.HasDistinctKeys
  | _ => True

/-- The field comes from a builder. -/
def Field.Built (f : Field) : Prop :=
  ∃ key type, ∃ steps : List FieldStep, (∀ s ∈ steps, s.Proper) ∧ f = Field.build key type steps

def Property.Built (p : Property) : Prop :=
  ∃ type, ∃ steps : List PropertyStep, (∀ s ∈ steps, s.Proper) ∧ p = Property.build type steps

def Message.Built (m : Message) : Prop :=
  ∃ name, ∃ properties : List (String × Property), (∀ e ∈ properties, e.2.Built) ∧
    m = Message.build name properties

/-- The extra options are an object in memory: each key once, at every level. -/
def ContractOptions.Proper (o : ContractOptions) : Prop :=
  Table.Settled Json.HasDistinctKeys o.extra

/-- What the step adds was built itself, if it can be. -/
def ContractStep.Proper : ContractStep → Prop
  | .field f => f.Built
  | .message m => m.Built
  | .options o => o.Proper
  | _ => True

/-- The contract comes from a builder, which accepted it. -/
def Contract.Built (c : Contract) : Prop :=
  ∃ contractName controllerName, ∃ steps : List ContractStep, (∀ s ∈ steps, s.Proper) ∧
    (steps.foldl ContractBuilder.apply (.new contractName controllerName)).build = .ok c

/-! ## Orderly parts -/

/-- The field is settled but for explicit nulls. -/
structure Field.Orderly (f : Field) : Prop where
  type : f.type.settled = f.type
  item : ∀ t, f.arrayType = some t → t.settled = t
  default : ∀ v ∈ f.defaultValue, v.HasDistinctKeys
  validations : ∀ v ∈ f.validations, v.HasDistinctKeys
  decorators : Table.Settled (fun d => ∀ v ∈ d.options, v.HasDistinctKeys) f.decorators

/-- The property is settled but for an explicit null. -/
structure Property.Orderly (p : Property) : Prop where
  type : p.type.settled = p.type
  item : ∀ t, p.arrayType = some t → t.settled = t
  default : ∀ v ∈ p.default, v.HasDistinctKeys

/-- The contract is settled but for explicit nulls and for extra options with known names. -/
structure Contract.Orderly (c : Contract) : Prop where
  fields : ∀ f ∈ c.fields, f.Orderly
  messages : ∀ m ∈ c.messages, Table.Settled Property.Orderly m.properties
  indexes : ∀ i ∈ c.indexes, i.options = none
  options : ∀ o, c.options = some o → o.Proper

theorem Table.Settled.put {α : Type} {S : α → Prop} {t : Table α} (h : Table.Settled S t)
    {key : String} {value : α} (hvalue : S value) : Table.Settled S (t.put key value) := by
  refine ⟨keys_put_nodup h.1, fun e he => ?_⟩
  rcases mem_put he with he | rfl
  · exact h.2 e he
  · exact hvalue

theorem TypeTag.settled_ofString (text : String) : (ofString text).settled = ofString text :=
  ofString_tag_ofString text

theorem forall_mem_concat {α : Type} {P : α → Prop} {xs : List α} {x : α} (hxs : ∀ y ∈ xs, P y)
    (hx : P x) : ∀ y ∈ xs ++ [x], P y :=
  List.forall_mem_append.2 ⟨hxs, List.forall_mem_singleton.2 hx⟩

theorem Field.Orderly.apply {f : Field} (hf : f.Orderly) {s : FieldStep} (hs : s.Proper) :
    (f.apply s).Orderly := by
  obtain ⟨htype, hitem, hdefault, hvalidations, hdecorators⟩ := hf
  cases s with
  | arrayType t =>
    obtain ⟨text, rfl⟩ := hs
    refine ⟨htype, fun t ht => ?_, hdefault, hvalidations, hdecorators⟩
    obtain rfl := Option.some.inj ht
    exact TypeTag.settled_ofString text
  | defaultValue v =>
    refine ⟨htype, hitem, fun u hu => ?_, hvalidations, hdecorators⟩
    obtain rfl := Option.mem_some_iff.1 hu
    exact hs
  | validation v =>
    exact ⟨htype, hitem, hdefault, forall_mem_concat hvalidations hs, hdecorators⟩
  | decorator name d => exact ⟨htype, hitem, hdefault, hvalidations, hdecorators.put hs⟩
  | nullable | readOnly | unique | index | exclude | excludeToPlainOnly | array | repeated
  | objectType | entityType | resolver | link | transform | toPlain | afterValidation =>
    exact ⟨htype, hitem, hdefault, hvalidations, hdecorators⟩

theorem Field.Built.orderly {f : Field} (h : f.Built) : f.Orderly := by
  obtain ⟨key, type, steps, hsteps, rfl⟩ := h
  refine List.foldlRecOn steps Field.apply ?_ fun f hf s hs => hf.apply (hsteps s hs)
  refine ⟨TypeTag.settled_ofString type, ?_, ?_, ?_, ⟨List.nodup_nil, ?_⟩⟩
  all_goals exact fun _ h => by cases h

theorem Property.Orderly.apply {p : Property} (hp : p.Orderly) {s : PropertyStep} (hs : s.Proper) :
    (p.apply s).Orderly := by
  obtain ⟨htype, hitem, hdefault⟩ := hp
  cases s with
  | arrayType t =>
    obtain ⟨text, rfl⟩ := hs
    refine ⟨htype, fun t ht => ?_, hdefault⟩
    obtain rfl := Option.some.inj ht
    exact TypeTag.settled_ofString text
  | defaultValue v =>
    refine ⟨htype, hitem, fun u hu => ?_⟩
    obtain rfl := Option.mem_some_iff.1 hu
    exact hs
  | optional | repeated => exact ⟨htype, hitem, hdefault⟩

theorem Property.Built.orderly {p : Property} (h : p.Built) : p.Orderly := by
  obtain ⟨type, steps, hsteps, rfl⟩ := h
  refine List.foldlRecOn steps Property.apply ?_ fun p hp s hs => hp.apply (hsteps s hs)
  refine ⟨TypeTag.settled_ofString type, ?_, ?_⟩
  all_goals exact fun _ h => by cases h

theorem Message.Built.orderly {m : Message} (h : m.Built) :
    Table.Settled Property.Orderly m.properties := by
  obtain ⟨name, properties, hproperties, rfl⟩ := h
  refine ⟨Table.keys_ofEntries_nodup properties, fun e he => ?_⟩
  exact (hproperties e (Table.mem_of_mem_ofEntries he)).orderly

/-- **Every step keeps a contract under construction orderly.** -/
theorem ContractBuilder.orderly_apply {b : ContractBuilder} (hb : b.draft.Orderly) {s : ContractStep}
    (hs : s.Proper) : (b.apply s).draft.Orderly := by
  obtain ⟨hfields, hmessages, hindexes, hoptions⟩ := hb
  cases s with
  | field f =>
    have hfield : f.Orderly := Field.Built.orderly hs
    exact ⟨forall_mem_concat hfields hfield, hmessages, hindexes, hoptions⟩
  | message m =>
    have hproperties : Table.Settled Property.Orderly m.properties := Message.Built.orderly hs
    exact ⟨hfields, forall_mem_concat hmessages hproperties, hindexes, hoptions⟩
  | index name fields =>
    exact ⟨hfields, hmessages, forall_mem_concat hindexes rfl, hoptions⟩
  | options o =>
    refine ⟨hfields, hmessages, hindexes, fun p hp => ?_⟩
    obtain rfl := Option.some.inj hp
    exact hs
  | moduleContract =>
    refine ⟨hfields, hmessages, hindexes, fun p hp => ?_⟩
    obtain rfl := Option.some.inj hp
    cases ho : b.draft.options with
    | none => exact ⟨List.nodup_nil, fun _ h => by cases h⟩
    | some o => exact hoptions o ho
  | service | cache | importing => exact ⟨hfields, hmessages, hindexes, hoptions⟩

theorem ContractBuilder.build_eq_ok_iff {b : ContractBuilder} {c : Contract} :
    b.build = .ok c ↔ b.draft.check = .ok () ∧ b.draft = c := by
  unfold build
  cases h : b.draft.check with
  | error e => simp
  | ok u => simp

/-- A built contract is orderly. -/
theorem Contract.Built.orderly {c : Contract} (h : c.Built) : c.Orderly := by
  obtain ⟨contractName, controllerName, steps, hsteps, hbuild⟩ := h
  obtain ⟨-, rfl⟩ := ContractBuilder.build_eq_ok_iff.1 hbuild
  refine List.foldlRecOn (motive := fun b => b.draft.Orderly) steps ContractBuilder.apply
    ⟨?_, ?_, ?_, ?_⟩ fun b hb s hs => ContractBuilder.orderly_apply hb (hsteps s hs)
  all_goals exact fun _ h => by cases h

/-! ## Without explicit nulls -/

/-- The validation without explicit nulls. -/
def Validation.withoutNulls (v : Validation) : Validation :=
  { v with value := Json.settle v.value, context := Json.settle v.context }

/-- The field without explicit nulls. -/
def Field.withoutNulls (f : Field) : Field :=
  { f with
    defaultValue := Json.settle f.defaultValue
    validations := f.validations.map Validation.withoutNulls
    decorators := f.decorators.mapValues Decorator.settled }

def Property.withoutNulls (p : Property) : Property := { p with default := Json.settle p.default }

def Message.withoutNulls (m : Message) : Message :=
  { m with properties := m.properties.mapValues Property.withoutNulls }

/-- The contract without explicit nulls. -/
def Contract.withoutNulls (c : Contract) : Contract :=
  { c with
    fields := c.fields.map Field.withoutNulls
    messages := c.messages.map Message.withoutNulls }

theorem Json.distinct_settle {o : Option Json} (h : ∀ v ∈ o, v.HasDistinctKeys) :
    (Json.settle o).map Json.distinct = Json.settle o := by
  refine optionMap_eq_self fun v hv => Json.distinct_eq_self (h v ?_)
  unfold settle at hv
  split at hv
  · cases hv
  · exact hv

theorem Table.settled_eq_mapValues {α : Type} {settle : α → α} {t : Table α} (h : t.keys.Nodup) :
    Table.settled settle t = t.mapValues settle := by
  refine ofEntries_of_nodup ?_
  rw [List.map_map]
  exact h

theorem Validation.settled_eq_withoutNulls {v : Validation} (h : v.HasDistinctKeys) :
    v.settled = v.withoutNulls := by
  have hkind : v.kind.settled = v.kind := by
    cases hk : v.kind with
    | name n => rfl
    | tuple items =>
      exact congrArg _ (map_eq_self fun u hu => Json.distinct_eq_self (h.parameters items hk u hu))
  rw [settled, hkind, Json.distinct_settle h.value, Json.distinct_settle h.context]
  rfl

theorem Field.Orderly.settled_eq {f : Field} (h : f.Orderly) : f.settled = f.withoutNulls := by
  have hvalidations : f.validations.map Validation.settled =
      f.validations.map Validation.withoutNulls :=
    List.map_congr_left fun v hv => Validation.settled_eq_withoutNulls (h.validations v hv)
  rw [settled, h.type, optionMap_eq_self h.item, hvalidations,
    Table.settled_eq_mapValues h.decorators.1]
  rfl

theorem Message.settled_eq_withoutNulls {m : Message}
    (h : Table.Settled Property.Orderly m.properties) : m.settled = m.withoutNulls := by
  have hproperties : Table.settled Property.settled m.properties =
      m.properties.mapValues Property.withoutNulls := by
    rw [Table.settled_eq_mapValues h.1]
    refine List.map_congr_left fun e he => ?_
    rw [Property.settled, (h.2 e he).type, optionMap_eq_self (h.2 e he).item]
    rfl
  rw [settled, hproperties]
  rfl

/-- **Settling an orderly contract takes out its explicit nulls**, and nothing else. -/
theorem Contract.Orderly.settled_eq {c : Contract} (h : c.Orderly) : c.settled = c.withoutNulls := by
  have hfields : c.fields.map Field.settled = c.fields.map Field.withoutNulls :=
    List.map_congr_left fun f hf => (h.fields f hf).settled_eq
  have hmessages : c.messages.map Message.settled = c.messages.map Message.withoutNulls :=
    List.map_congr_left fun m hm => Message.settled_eq_withoutNulls (h.messages m hm)
  have hindexes : c.indexes.map Index.settled = c.indexes := by
    refine map_eq_self fun i hi => ?_
    have hsettle : Json.settle i.options = i.options := by
      rw [h.indexes i hi]
      rfl
    rw [Index.settled, hsettle]
  have hoptions : c.options.map ContractOptions.settled = c.options := by
    refine optionMap_eq_self fun o ho => ?_
    rw [ContractOptions.settled,
      Table.settled_eq_self (h.options o ho) fun _ => Json.distinct_eq_self]
  rw [settled, hfields, hmessages, hindexes, hoptions]
  rfl

/-! ## No explicit nulls -/

/-- No member of the validation is set to `null`. -/
def Validation.HasNoNull (v : Validation) : Prop := v.value ≠ some .null ∧ v.context ≠ some .null

/-- No member of the field is set to `null`. -/
structure Field.HasNoNull (f : Field) : Prop where
  default : f.defaultValue ≠ some .null
  validations : ∀ v ∈ f.validations, v.HasNoNull
  decorators : ∀ e ∈ f.decorators, e.2.options ≠ some .null

/-- No member of the contract's fields and messages is set to `null`. -/
structure Contract.HasNoNull (c : Contract) : Prop where
  fields : ∀ f ∈ c.fields, f.HasNoNull
  messages : ∀ m ∈ c.messages, ∀ e ∈ m.properties, e.2.default ≠ some .null

/-- The extra options of the contract keep clear of the names of known ones. -/
def Contract.KeepsClear (c : Contract) : Prop := ∀ o ∈ c.options, o.KeepsClear

theorem Json.settle_of_ne_null {o : Option Json} (h : o ≠ some .null) : settle o = o := by
  unfold settle
  split
  · exact absurd rfl h
  · rfl

theorem Field.withoutNulls_eq_self {f : Field} (h : f.HasNoNull) : f.withoutNulls = f := by
  have hvalidations : f.validations.map Validation.withoutNulls = f.validations := by
    refine map_eq_self fun v hv => ?_
    obtain ⟨hvalue, hcontext⟩ := h.validations v hv
    rw [Validation.withoutNulls, Json.settle_of_ne_null hvalue, Json.settle_of_ne_null hcontext]
  have hdecorators : f.decorators.mapValues Decorator.settled = f.decorators := by
    refine map_eq_self fun e he => ?_
    rw [Decorator.settled, Json.settle_of_ne_null (h.decorators e he)]
  rw [withoutNulls, Json.settle_of_ne_null h.default, hvalidations, hdecorators]

theorem Contract.withoutNulls_eq_self {c : Contract} (h : c.HasNoNull) : c.withoutNulls = c := by
  have hmessages : c.messages.map Message.withoutNulls = c.messages := by
    refine map_eq_self fun m hm => ?_
    have hproperties : m.properties.mapValues Property.withoutNulls = m.properties := by
      refine map_eq_self fun e he => ?_
      rw [Property.withoutNulls, Json.settle_of_ne_null (h.messages m hm e he)]
    rw [Message.withoutNulls, hproperties]
  rw [withoutNulls, map_eq_self fun f hf => Field.withoutNulls_eq_self (h.fields f hf), hmessages]

theorem Validation.hasNoNull_of_settled {v : Validation} (h : v.settled = v) : v.HasNoNull := by
  have hvalue : (Json.settle v.value).map Json.distinct = v.value := congrArg Validation.value h
  have hcontext : (Json.settle v.context).map Json.distinct = v.context :=
    congrArg Validation.context h
  refine ⟨fun hnull => ?_, fun hnull => ?_⟩
  · rw [hnull] at hvalue
    cases hvalue
  · rw [hnull] at hcontext
    cases hcontext

theorem Json.Settled.ne_null {Q : Json → Prop} {o : Option Json} (h : Json.Settled Q o) :
    o ≠ some .null := fun hnull => (h .null hnull).2 rfl

theorem Contract.Settled.hasNoNull {Q : Json → Prop} {c : Contract} (h : c.Settled Q) :
    c.HasNoNull where
  fields f hf := by
    obtain ⟨-, hdefault, -, hvalidations, hdecorators⟩ := h.1 f hf
    exact ⟨hdefault.ne_null, fun v hv => Validation.hasNoNull_of_settled (hvalidations v hv),
      fun e he => (hdecorators.2 e he).ne_null⟩
  messages m hm e he := ((h.2.1 m hm).2 e he).2.2.ne_null

/-! ## Reading back -/

/-- An orderly contract can be read once it is written, if its extra options keep clear of the known
ones. -/
theorem Contract.Orderly.readable {c : Contract} (h : c.Orderly) (hclear : c.KeepsClear)
    {Q : Json → Prop} (hQ : ∀ v : Json, v.HasDistinctKeys → Q v) : c.Readable Q where
  fields f hf :=
    ⟨fun v hv => hQ v ((h.fields f hf).default v hv),
      fun e he v hv => hQ v ((h.fields f hf).decorators.2 e he v hv)⟩
  messages m hm e he v hv := hQ v (((h.messages m hm).2 e he).default v hv)
  indexes i hi v hv := by
    rw [h.indexes i hi] at hv
    cases hv
  options := hclear

section

variable {ν : Type} {m : Type → Type} [Monad m] [MonadExceptOf Fault m] [Source ν m] [LawfulMonad m]

/-- **A built contract is read back without its explicit nulls**, from every format that renders
it. -/
theorem Contract.reads_of_built {R : Rendition ν m}
    (hR : ∀ v : Json, v.HasDistinctKeys → R.Exact v) {c : Contract} (hbuilt : c.Built)
    (hclear : c.KeepsClear) : R.Reads Contract.read c.toJson c.withoutNulls := by
  have horderly := hbuilt.orderly
  rw [← horderly.settled_eq]
  exact Contract.reads (horderly.readable hclear hR)

end

/-- **A built contract is read back as it is exactly when no member of it is set to `null`** and its
extra options keep clear of the known ones. -/
theorem Contract.read_toJson_eq_self_iff {c : Contract} (hbuilt : c.Built) :
    (Contract.read c.toJson : Except Fault Contract) = .ok c ↔ c.HasNoNull ∧ c.KeepsClear := by
  constructor
  · intro h
    have hsettled : c.Settled fun _ => True :=
      gives_settled ⟨fun _ _ _ => trivial, fun _ _ _ => trivial⟩ c.toJson trivial c h
    exact ⟨hsettled.hasNoNull, fun o ho => (hsettled.2.2.2 o ho).2⟩
  · rintro ⟨hnull, hclear⟩
    have hread := reads_of_built (R := jsonRendition) (fun _ _ => trivial) hbuilt hclear c.toJson rfl
    rwa [withoutNulls_eq_self hnull] at hread

end ContractCompiler
