import ContractCompiler.Contract.Reading
import ContractCompiler.Proofs.Decode.Record
import ContractCompiler.Proofs.Json.Distinct

/-!
# Reading contracts that were written

What a contract is written as is read, from every format that renders it, as the settled contract:
type tags in canonical form, `null` as no value, each key of a table once. Extra options have to
keep clear of the names of known ones.

* `Contract.reads` — a written contract is read as the settled one.
-/

namespace ContractCompiler

open Decode Rendition

/-! ## Settled values -/

/-- What reading makes of a value that may be absent: `null` is no value. -/
def Json.settle : Option Json → Option Json
  | some .null => none
  | o => o

/-- The tag as read from its canonical text. -/
def TypeTag.settled (t : TypeTag) : TypeTag := .ofString t.tag

/-- The kind with each key of its parameters once. -/
def ValidationKind.settled : ValidationKind → ValidationKind
  | name n => name n
  | tuple items => tuple (items.map Json.distinct)

/-- The validation as it is read back. -/
def Validation.settled (v : Validation) : Validation :=
  ⟨v.kind.settled, (Json.settle v.value).map Json.distinct, v.message,
    (Json.settle v.context).map Json.distinct⟩

/-- The decorator as it is read back. -/
def Decorator.settled (d : Decorator) : Decorator := { d with options := Json.settle d.options }

/-- The table with settled values and each key once. -/
def Table.settled {α : Type} (settle : α → α) (t : Table α) : Table α :=
  .ofEntries (t.map fun e => (e.1, settle e.2))

/-- The field as it is read back. -/
def Field.settled (f : Field) : Field :=
  { f with
    type := f.type.settled
    defaultValue := Json.settle f.defaultValue
    arrayType := f.arrayType.map TypeTag.settled
    validations := f.validations.map Validation.settled
    decorators := Table.settled Decorator.settled f.decorators }

def Property.settled (p : Property) : Property :=
  { p with
    type := p.type.settled
    arrayType := p.arrayType.map TypeTag.settled
    default := Json.settle p.default }

def Message.settled (m : Message) : Message :=
  { m with properties := Table.settled Property.settled m.properties }

def Index.settled (i : Index) : Index := { i with options := Json.settle i.options }

def ContractOptions.settled (o : ContractOptions) : ContractOptions :=
  { o with extra := Table.settled Json.distinct o.extra }

/-- The contract as it is read back. -/
def Contract.settled (c : Contract) : Contract :=
  { c with
    fields := c.fields.map Field.settled
    messages := c.messages.map Message.settled
    indexes := c.indexes.map Index.settled
    options := c.options.map ContractOptions.settled }

/-! ## Readable contracts -/

/-- The argument of the decorator has the property. -/
def Decorator.Readable (Q : Json → Prop) (d : Decorator) : Prop := ∀ v ∈ d.options, Q v

/-- The values that stand in the field as they were given have the property. -/
def Field.Readable (Q : Json → Prop) (f : Field) : Prop :=
  (∀ v ∈ f.defaultValue, Q v) ∧ ∀ e ∈ f.decorators, e.2.Readable Q

/-- The default of the property has the property `Q`. -/
def Property.Readable (Q : Json → Prop) (p : Property) : Prop := ∀ v ∈ p.default, Q v

/-- The defaults in the message have the property. -/
def Message.Readable (Q : Json → Prop) (m : Message) : Prop := ∀ e ∈ m.properties, e.2.Readable Q

/-- The options of the index have the property. -/
def Index.Readable (Q : Json → Prop) (i : Index) : Prop := ∀ v ∈ i.options, Q v

def ContractOptions.knownNames : List String :=
  ["moduleContract", "databaseSchemaName", "databaseTimestamps", "databaseUserAction", "tags"]

/-- The extra options keep clear of the names of known ones. -/
def ContractOptions.KeepsClear (o : ContractOptions) : Prop := ∀ e ∈ o.extra, e.1 ∉ knownNames

/-- A contract that can be read once it is written: the values that stand in it as they were given
have the property, and its extra options keep clear of the known ones. -/
structure Contract.Readable (Q : Json → Prop) (c : Contract) : Prop where
  fields : ∀ f ∈ c.fields, f.Readable Q
  messages : ∀ m ∈ c.messages, m.Readable Q
  indexes : ∀ i ∈ c.indexes, i.Readable Q
  options : ∀ o ∈ c.options, o.KeepsClear

/-! ## Values -/

section

variable {ν : Type} {m : Type → Type} [Monad m] [MonadExceptOf Fault m] [Source ν m] [LawfulMonad m]
  {R : Rendition ν m}

theorem reads_settle {v : Json} {o : Option Json} (h : o = some v) (hv : R.Exact v) :
    R.Reads (optional Source.json) v (Json.settle o) := by
  subst h
  cases v with
  | null => exact reads_optional_null _
  | bool | number | string | array | object =>
    exact reads_optional (by intro h; cases h) (reads_json hv)

theorem TypeTag.reads (t : TypeTag) : R.Reads TypeTag.read t.toJson t.settled := by
  intro n hn
  rw [TypeTag.read, reads_text t.tag n hn, pure_bind, settled]

theorem HttpMethod.reads (h : HttpMethod) : R.Reads HttpMethod.read (.string h.name) h := by
  intro n hn
  have hmem : h.name ∈ HttpMethod.all.map HttpMethod.name := by cases h <;> decide
  have hname : HttpMethod.ofName h.name = h := by cases h <;> decide
  rw [HttpMethod.read, R.choice hn hmem, pure_bind, hname]

/-- A table of settled values. -/
theorem reads_settledTable {α : Type} {read : ν → m α} {write : α → Json} {settle : α → α}
    {t : Table α} (h : ∀ e ∈ t, R.Reads read (write e.2) (settle e.2)) :
    R.Reads (tableOf read) (Json.ofTable write t) (Table.settled settle t) := by
  refine reads_tableOf (List.forall₂_map_right_iff.2 (List.forall₂_same.2 fun e he => ?_))
  exact ⟨rfl, h e he⟩

/-! ## Validations -/

namespace Validation

theorem ofContent?_kind (k : ValidationKind) :
    ValidationKind.ofContent? (.ofJson k.toJson) = some k.settled := by
  cases k with
  | name n => rfl
  | tuple items =>
    rw [ValidationKind.toJson, Content.ofJson, ValidationKind.ofContent?, Content.ofItems_eq_map,
      Content.itemsToJson_map fun v _ => Content.toJson_ofJson v]
    rfl

theorem json?_ofJson {v : Json} {o : Option Json} (h : o = some v) :
    ValidationDraft.json? (.ofJson v) = some ((Json.settle o).map Json.distinct) := by
  subst h
  cases v with
  | null => rfl
  | bool | number | string | array | object =>
    rw [ValidationDraft.json?, Content.toJson_ofJson]
    · rfl
    · intro h
      simp [Content.ofJson] at h

section

variable {d : ValidationDraft}

theorem fillAll_cons {d' : ValidationDraft} {key : String} {v : Json} {slot : ValidationDraft.Slot}
    (hslot : ValidationDraft.slot? (.string key) = some slot)
    (hfill : d.fill slot (.ofJson v) = some d') (rest : List (String × Json)) :
    d.fillAll (Content.ofMembers ((key, v) :: rest)) = d'.fillAll (Content.ofMembers rest) := by
  rw [Content.ofMembers, ValidationDraft.fillAll, hslot]
  dsimp only
  rw [hfill]

theorem fillAll_kind (hd : d.kind = none) (k : ValidationKind) (rest : List (String × Json)) :
    d.fillAll (Content.ofMembers (Json.always "type" k.toJson ++ rest)) =
      { d with kind := some k.settled }.fillAll (Content.ofMembers rest) := by
  refine fillAll_cons rfl ?_ rest
  rw [ValidationDraft.fill, hd, ofContent?_kind]

theorem fillAll_value (hd : d.value = none) (o : Option Json) (rest : List (String × Json)) :
    d.fillAll (Content.ofMembers (Json.whenSome "value" id o ++ rest)) =
      { d with value := o.map fun _ => (Json.settle o).map Json.distinct }.fillAll
        (Content.ofMembers rest) := by
  cases ho : o with
  | none => rw [Option.map_none, ← hd, Json.whenSome, List.nil_append]
  | some v =>
    refine fillAll_cons rfl ?_ rest
    rw [ValidationDraft.fill, hd, id, json?_ofJson rfl]
    rfl

theorem fillAll_message (hd : d.message = none) (o : Option String) (rest : List (String × Json)) :
    d.fillAll (Content.ofMembers (Json.whenSome "message" .string o ++ rest)) =
      { d with message := o.map some }.fillAll (Content.ofMembers rest) := by
  cases o with
  | none => rw [Option.map_none, ← hd, Json.whenSome, List.nil_append]
  | some s =>
    refine fillAll_cons rfl ?_ rest
    rw [ValidationDraft.fill, hd]
    rfl

theorem fillAll_context (hd : d.context = none) (o : Option Json) (rest : List (String × Json)) :
    d.fillAll (Content.ofMembers (Json.whenSome "context" id o ++ rest)) =
      { d with context := o.map fun _ => (Json.settle o).map Json.distinct }.fillAll
        (Content.ofMembers rest) := by
  cases ho : o with
  | none => rw [Option.map_none, ← hd, Json.whenSome, List.nil_append]
  | some v =>
    refine fillAll_cons rfl ?_ rest
    rw [ValidationDraft.fill, hd, id, json?_ofJson rfl]
    rfl

end

/-- The keyed form of a validation is read as the settled validation. -/
theorem ofContent?_toJson (v : Validation) : ofContent? (.ofJson v.toJson) = some v.settled := by
  have hjoin (o : Option Json) :
      (o.map fun _ => (Json.settle o).map Json.distinct).join = (Json.settle o).map Json.distinct := by
    cases o <;> rfl
  have hmessage : (v.message.map some).join = v.message := by cases v.message <;> rfl
  rw [toJson, Content.ofJson, ofContent?, List.append_assoc, List.append_assoc, fillAll_kind rfl,
    fillAll_value rfl, fillAll_message rfl, ← List.append_nil (Json.whenSome "context" id v.context),
    fillAll_context rfl, Content.ofMembers, ValidationDraft.fillAll, Option.bind_some,
    ValidationDraft.finish?]
  simp only [Option.map_some, hjoin, hmessage]
  rfl

/-- A written validation is read as the settled one. -/
theorem reads (v : Validation) : R.Reads Validation.read v.toJson v.settled := by
  intro n hn
  rw [Validation.read, R.content hn, pure_bind, ofContent?_toJson]

end Validation

/-! ## Records -/

theorem string_ne_null (s : String) : Json.string s ≠ .null := by
  intro h
  cases h

theorem bool_ne_null (b : Bool) : Json.bool b ≠ .null := by
  intro h
  cases h

theorem object_ne_null (members : List (String × Json)) : Json.object members ≠ .null := by
  intro h
  cases h

theorem reads_settledList {α : Type} {read : ν → m α} {write : α → Json} {settle : α → α}
    {xs : List α} (h : ∀ a ∈ xs, R.Reads read (write a) (settle a)) :
    R.Reads (listOf read) (.array (xs.map write)) (xs.map settle) := by
  refine reads_listOf (List.forall₂_map_left_iff.2 (List.forall₂_map_right_iff.2 ?_))
  exact List.forall₂_same.2 h

theorem reads_list {α : Type} {read : ν → m α} {write : α → Json}
    (h : ∀ a, R.Reads read (write a) a) (xs : List α) :
    R.Reads (listOf read) (.array (xs.map write)) xs := by
  have hxs := reads_settledList (show ∀ a ∈ xs, R.Reads read (write a) (id a) from fun a _ => h a)
  rwa [List.map_id] at hxs

section Parts

variable {α : Type} {name : String} {a : α}

/-- A text that may be absent. -/
theorem part_text {set : Option String → α → α} {get : α → Option String} {o : Option String}
    (hset : ∀ a, set (get a) a = a) (hget : get a = none) :
    R.Part (.may name (optional Decode.text) set) (Json.whenSome name .string o) a
      (Member.update set o a) :=
  part_optional string_ne_null reads_text hset hget

/-- A boolean that may be absent. -/
theorem part_bool {set : Option Bool → α → α} {get : α → Option Bool} {o : Option Bool}
    (hset : ∀ a, set (get a) a = a) (hget : get a = none) :
    R.Part (.may name (optional Source.flag) set) (Json.whenSome name .bool o) a
      (Member.update set o a) :=
  part_optional bool_ne_null reads_flag hset hget

/-- A value that may be absent; `null` is read as absent. -/
theorem part_settle {set : Option Json → α → α} {get : α → Option Json} {o : Option Json}
    (hv : ∀ v ∈ o, R.Exact v) (hset : ∀ a, set (get a) a = a) (hget : get a = none) :
    R.Part (.may name (optional Source.json) set) (Json.whenSome name id o) a
      (Member.update set (Json.settle o) a) := by
  refine part_whenSome (fun h => ?_) (fun v h => reads_settle h (hv v h)) hset hget
  rw [h]
  rfl

/-- A type tag that may be absent. -/
theorem part_tag {set : Option TypeTag → α → α} {get : α → Option TypeTag} {o : Option TypeTag}
    (hset : ∀ a, set (get a) a = a) (hget : get a = none) :
    R.Part (.may name (optional TypeTag.read) set) (Json.whenSome name TypeTag.toJson o) a
      (Member.update set (o.map TypeTag.settled) a) := by
  refine part_whenSome (fun h => ?_) (fun t h => ?_) hset hget
  · rw [h]
    rfl
  · rw [h]
    exact reads_optional (string_ne_null _) (TypeTag.reads t)

end Parts

theorem Link.reads (l : Link) : R.Reads Link.reader.read l.toJson l := by
  refine reads_record (by simp [RecordReader.NamesDiffer, reader]) ?_
  simp only [List.append_assoc]
  refine .cons (part_must (reads_text _)) ?_
  refine .cons (part_text (fun _ => rfl) rfl) ?_
  refine .cons (part_may (reads_text _)) ?_
  refine .cons (part_whenTrue (fun _ => rfl) rfl) ?_
  exact .last (part_whenTrue (fun _ => rfl) rfl) rfl

theorem Decorator.reads {d : Decorator} (h : d.Readable R.Exact) :
    R.Reads Decorator.reader.read d.toJson d.settled := by
  refine reads_record (by simp [RecordReader.NamesDiffer, reader]) ?_
  refine .cons (part_must (reads_text _)) ?_
  exact .last (part_settle h (fun _ => rfl) rfl) rfl

namespace Field

theorem part_decorators {f : Field} {set : Table Decorator → Field → Field}
    {get : Field → Table Decorator} {a : Field} (h : ∀ e ∈ f.decorators, e.2.Readable R.Exact)
    (hset : ∀ a, set (get a) a = a) (hget : get a = []) :
    R.Part (.may "customDecorator" (tableOf Decorator.reader.read) set) f.decoratorMembers a
      (Member.update set (Table.settled Decorator.settled f.decorators) a) := by
  unfold decoratorMembers
  split
  · rename_i hnil
    rw [hnil]
    exact part_missing hset hget
  · exact part_may (reads_settledTable fun e he => Decorator.reads (h e he))

theorem reads {f : Field} (h : f.Readable R.Exact) :
    R.Reads Field.reader.read f.toJson f.settled := by
  refine reads_record (by simp [RecordReader.NamesDiffer, reader]) ?_
  have hvalidations := List.forall₂_map_right_iff.2 (List.forall₂_same.2 fun v
    (_ : v ∈ f.validations) => Validation.reads (R := R) v)
  have hlinks := List.forall₂_same.2 fun l (_ : l ∈ f.link) => Link.reads (R := R) l
  simp only [List.append_assoc]
  refine .cons (part_must (reads_text _)) ?_
  refine .cons (part_must (TypeTag.reads _)) ?_
  refine .cons (part_bool (fun _ => rfl) rfl) ?_
  refine .cons (part_whenTrue (fun _ => rfl) rfl) ?_
  refine .cons (part_whenTrue (fun _ => rfl) rfl) ?_
  refine .cons (part_whenTrue (fun _ => rfl) rfl) ?_
  refine .cons (part_whenTrue (fun _ => rfl) rfl) ?_
  refine .cons (part_whenTrue (fun _ => rfl) rfl) ?_
  refine .cons (part_whenTrue (fun _ => rfl) rfl) ?_
  refine .cons (part_whenTrue (fun _ => rfl) rfl) ?_
  refine .cons (part_settle h.1 (fun _ => rfl) rfl) ?_
  refine .cons (part_text (fun _ => rfl) rfl) ?_
  refine .cons (part_text (fun _ => rfl) rfl) ?_
  refine .cons (part_text (fun _ => rfl) rfl) ?_
  refine .cons (part_tag (fun _ => rfl) rfl) ?_
  refine .cons (part_whenAny hvalidations (fun _ => rfl) rfl) ?_
  refine .cons (part_whenAny hlinks (fun _ => rfl) rfl) ?_
  refine .cons (part_decorators h.2 (fun _ => rfl) rfl) ?_
  refine .cons (part_text (fun _ => rfl) rfl) ?_
  refine .cons (part_text (fun _ => rfl) rfl) ?_
  refine .last (part_text (fun _ => rfl) rfl) ?_
  simp only [Member.update, reader, plain]
  rfl

end Field

theorem Property.reads {p : Property} (h : p.Readable R.Exact) :
    R.Reads Property.reader.read p.toJson p.settled := by
  refine reads_record (by simp [RecordReader.NamesDiffer, reader]) ?_
  simp only [List.append_assoc]
  refine .cons (part_must (TypeTag.reads _)) ?_
  refine .cons (part_bool (fun _ => rfl) rfl) ?_
  refine .cons (part_text (fun _ => rfl) rfl) ?_
  refine .cons (part_tag (fun _ => rfl) rfl) ?_
  refine .cons (part_settle h (fun _ => rfl) rfl) ?_
  refine .cons (part_whenTrue (fun _ => rfl) rfl) ?_
  exact .last (part_whenTrue (fun _ => rfl) rfl) rfl

theorem Message.reads {message : Message} (h : message.Readable R.Exact) :
    R.Reads Message.reader.read message.toJson message.settled := by
  refine reads_record (by simp [RecordReader.NamesDiffer, reader]) ?_
  refine .cons (part_must (reads_text _)) ?_
  exact .last (part_may (reads_settledTable fun e he => Property.reads (h e he))) rfl

theorem CacheOptions.reads (c : CacheOptions) : R.Reads CacheOptions.reader.read c.toJson c := by
  refine reads_record (by simp [RecordReader.NamesDiffer, reader]) ?_
  simp only [List.append_assoc]
  refine .cons (part_must (reads_text _)) ?_
  refine .cons (part_optional (fun w => by simp [Json.ofWord]) reads_word (fun _ => rfl) rfl) ?_
  exact .last (part_whenTrue (fun _ => rfl) rfl) rfl

theorem Service.reads (s : Service) : R.Reads Service.reader.read s.toJson s := by
  refine reads_record (by simp [RecordReader.NamesDiffer, reader]) ?_
  simp only [List.append_assoc]
  refine .cons (part_must (reads_text _)) ?_
  refine .cons (part_must (reads_text _)) ?_
  refine .cons (part_must (HttpMethod.reads _)) ?_
  refine .cons (part_must (reads_text _)) ?_
  refine .cons (part_must (reads_text _)) ?_
  refine .cons (part_optional (fun c => object_ne_null _) CacheOptions.reads (fun _ => rfl) rfl) ?_
  refine .cons (part_whenTrue (fun _ => rfl) rfl) ?_
  refine .cons (part_whenTrue (fun _ => rfl) rfl) ?_
  refine .cons (part_text (fun _ => rfl) rfl) ?_
  refine .last (part_whenTrue (fun _ => rfl) rfl) ?_
  simp only [Member.update, reader]

theorem Index.reads {i : Index} (h : i.Readable R.Exact) :
    R.Reads Index.reader.read i.toJson i.settled := by
  refine reads_record (by simp [RecordReader.NamesDiffer, reader]) ?_
  simp only [List.append_assoc]
  refine .cons (part_must (reads_text _)) ?_
  refine .cons (part_must (reads_list reads_text i.fields)) ?_
  exact .last (part_settle h (fun _ => rfl) rfl) rfl

/-! ## Options -/

namespace ContractOptions

omit [LawfulMonad m] in
theorem member?_of_not_mem {name : String} (h : name ∉ knownNames) :
    (OptionsDraft.reader : RecordReader ν m OptionsDraft).member? name = none := by
  have hnamed : ∀ member ∈ (OptionsDraft.reader : RecordReader ν m OptionsDraft).members,
      ∀ name, member.isNamed name = true → name ∈ knownNames := by
    intro member hmember name hname
    simp only [OptionsDraft.reader, OptionsDraft.member, List.mem_cons, List.not_mem_nil,
      or_false] at hmember
    rcases hmember with rfl | rfl | rfl | rfl | rfl <;>
      simp only [Member.isNamed_may, beq_iff_eq] at hname <;> subst hname <;> decide
  exact List.find?_eq_none.2 fun member hmember hname => h (hnamed member hmember name hname)

/-- The other options are kept in order. -/
theorem readEntries_extra {R : Rendition ν m} {seen : List String} {extra : Table Json}
    (hclear : ∀ e ∈ extra, e.1 ∉ knownNames) :
    ∀ {draft : OptionsDraft} {nodes : List (ν × ν)}, List.Forall₂ R.StandsEntry nodes extra →
      (OptionsDraft.reader : RecordReader ν m OptionsDraft).readEntries seen draft nodes none =
        (OptionsDraft.reader : RecordReader ν m OptionsDraft).complete seen
          { draft with extra := draft.extra ++ extra.map fun e => (e.1, .ofJson e.2) } := by
  induction extra with
  | nil =>
    intro draft nodes hnodes
    cases hnodes
    rw [RecordReader.readEntries, List.map_nil, List.append_nil]
  | cons e rest ih =>
    intro draft nodes hnodes
    obtain ⟨he, hrest⟩ := List.forall_mem_cons.1 hclear
    obtain _ | ⟨hn, hnodes⟩ := hnodes
    have hkeep : R.Reads (OptionsDraft.reader.other e.1) e.2 fun d =>
        { d with extra := d.extra ++ [(e.1, .ofJson e.2)] } := by
      intro n hn
      change OptionsDraft.keep e.1 n = _
      rw [OptionsDraft.keep, R.content hn, pure_bind]
    rw [readEntries_other (member?_of_not_mem he) hn hkeep, ih hrest hnodes]
    simp

theorem values_eq (extra : Table Json) :
    OptionsDraft.values (extra.map fun e => (e.1, .ofJson e.2)) =
      .ok (extra.map fun e => (e.1, e.2.distinct)) := by
  induction extra with
  | nil => rfl
  | cons e rest ih =>
    rw [List.map_cons, OptionsDraft.values, Content.toJson_ofJson]
    dsimp only
    rw [ih, List.map_cons]

/-- Written options are read as the settled ones. -/
theorem reads {o : ContractOptions} (hclear : o.KeepsClear) :
    R.Reads ContractOptions.read o.toJson o.settled := by
  have hdraft : R.Reads OptionsDraft.reader.readKeyed o.toJson
      ⟨{ o with extra := [] }, o.extra.map fun e => (e.1, .ofJson e.2)⟩ := by
    refine readKeyed_append (by simp [RecordReader.NamesDiffer, OptionsDraft.reader,
      OptionsDraft.member]) (a := ⟨{ o with extra := [] }, []⟩) ?_ ?_
    · simp only [List.append_assoc]
      refine .cons (part_whenTrue (fun _ => rfl) rfl) ?_
      refine .cons (part_text (fun _ => rfl) rfl) ?_
      refine .cons (part_whenTrue (fun _ => rfl) rfl) ?_
      refine .cons (part_whenTrue (fun _ => rfl) rfl) ?_
      refine .last (part_whenAny (List.forall₂_same.2 fun s _ => reads_text s) (fun _ => rfl) rfl) ?_
      rfl
    · intro seen hseen nodes hnodes
      rw [readEntries_extra hclear hnodes, complete_eq hseen]
      rfl
  intro n hn
  rw [ContractOptions.read, hdraft n hn, pure_bind]
  dsimp only
  rw [values_eq]
  change (within n (pure _) >>= fun entries => _) = _
  rw [R.within_pure, pure_bind]
  rfl

end ContractOptions

/-! ## Contracts -/

theorem reads_orNull {α : Type} {read : ν → m α} {write : α → Json} {settle : α → α} {o : Option α}
    (hwrite : ∀ a, write a ≠ .null) (h : ∀ a, o = some a → R.Reads read (write a) (settle a)) :
    R.Reads (optional read) (Json.orNull write o) (o.map settle) := by
  cases o with
  | none => exact reads_optional_null read
  | some a => exact reads_optional (hwrite a) (h a rfl)

/-- **A written contract is read as the settled one.** -/
theorem Contract.reads {c : Contract} (h : c.Readable R.Exact) :
    R.Reads Contract.read c.toJson c.settled := by
  have hcache : R.Reads (optional CacheOptions.reader.read)
      (Json.orNull CacheOptions.toJson c.cache) (c.cache.map id) :=
    reads_orNull (fun a => object_ne_null _) fun a _ => CacheOptions.reads a
  have hoptions : R.Reads (optional ContractOptions.read)
      (Json.orNull ContractOptions.toJson c.options) (c.options.map ContractOptions.settled) :=
    reads_orNull (fun a => object_ne_null _) fun o ho => ContractOptions.reads (h.options o ho)
  rw [Option.map_id] at hcache
  refine reads_record (by simp [RecordReader.NamesDiffer, reader]) ?_
  simp only [List.append_assoc]
  refine .cons (part_must (reads_text _)) ?_
  refine .cons (part_must (reads_text _)) ?_
  refine .cons (part_must (reads_settledList fun f hf => Field.reads (h.fields f hf))) ?_
  refine .cons (part_may (reads_settledList fun d hd => Message.reads (h.messages d hd))) ?_
  refine .cons (part_may (reads_list Service.reads c.services)) ?_
  refine .cons (part_may (reads_settledList fun i hi => Index.reads (h.indexes i hi))).orNamed ?_
  refine .cons (part_may hcache) ?_
  refine .cons (part_may hoptions) ?_
  refine .last (part_may (reads_list reads_text c.imports)) ?_
  simp only [Member.update, reader]
  rfl

end

end ContractCompiler
