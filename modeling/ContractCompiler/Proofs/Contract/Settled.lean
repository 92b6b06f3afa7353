import ContractCompiler.Contract.Reading
import ContractCompiler.Proofs.Contract.RoundTrip
import ContractCompiler.Proofs.Decode.Ensures
import ContractCompiler.Proofs.TypeTag.Canonical

/-!
# Contracts that were read are settled

Whatever the spelling of a value is, the contract read from it is settled: its type tags are
canonical, none of its values is an explicit `null`, no table repeats a key, and its extra options
keep clear of the known ones. What stands in it as it was given is a part of the value.

* `Contract.gives_settled` — every contract that is read is settled.
* `Contract.settled_eq_self` — writing and reading leave a settled contract as it is.
-/

namespace ContractCompiler

open Decode

/-! ## Settled parts -/

/-- The value has the property, unless it is absent, and is not `null`. -/
def Json.Settled (Q : Json → Prop) (o : Option Json) : Prop := ∀ v, o = some v → Q v ∧ v ≠ .null

/-- The keys of the table are distinct, and its values have the property. -/
def Table.Settled {α : Type} (S : α → Prop) (t : Table α) : Prop :=
  t.keys.Nodup ∧ ∀ e ∈ t, S e.2

/-- The decorator is read back as it is, and its argument has the property. -/
def Decorator.Settled (Q : Json → Prop) (d : Decorator) : Prop := Json.Settled Q d.options

/-- The field is read back as it is, and the values given in it have the property. -/
def Field.Settled (Q : Json → Prop) (f : Field) : Prop :=
  f.type.settled = f.type ∧ Json.Settled Q f.defaultValue ∧
    (∀ t, f.arrayType = some t → t.settled = t) ∧ (∀ v ∈ f.validations, v.settled = v) ∧
    Table.Settled (Decorator.Settled Q) f.decorators

/-- The property of a message is read back as it is, and its default has the property `Q`. -/
def Property.Settled (Q : Json → Prop) (p : Property) : Prop :=
  p.type.settled = p.type ∧ (∀ t, p.arrayType = some t → t.settled = t) ∧ Json.Settled Q p.default

def Message.Settled (Q : Json → Prop) (m : Message) : Prop :=
  Table.Settled (Property.Settled Q) m.properties

def Index.Settled (Q : Json → Prop) (i : Index) : Prop := Json.Settled Q i.options

/-- The options are read back as they are. -/
def ContractOptions.Settled (o : ContractOptions) : Prop :=
  Table.Settled Json.HasDistinctKeys o.extra ∧ o.KeepsClear

/-- The contract is read back as it is, and the values given in it have the property. -/
def Contract.Settled (Q : Json → Prop) (c : Contract) : Prop :=
  (∀ f ∈ c.fields, f.Settled Q) ∧ (∀ m ∈ c.messages, m.Settled Q) ∧ (∀ i ∈ c.indexes, i.Settled Q) ∧
    ∀ o, c.options = some o → o.Settled

/-! ## Settled parts are left as they are -/

theorem Json.settle_eq_self {Q : Json → Prop} {o : Option Json} (h : Json.Settled Q o) :
    Json.settle o = o := by
  unfold settle
  split
  · exact absurd rfl (h .null rfl).2
  · rfl

theorem Table.settled_eq_self {α : Type} {S : α → Prop} {settle : α → α} {t : Table α}
    (h : Table.Settled S t) (hs : ∀ a, S a → settle a = a) : Table.settled settle t = t := by
  have hmap : (t.map fun e => (e.1, settle e.2)) = t.map id :=
    List.map_congr_left fun e he => by rw [hs e.2 (h.2 e he), id]
  rw [settled, hmap, List.map_id, ofEntries_of_nodup h.1]

theorem map_eq_self {α : Type} {settle : α → α} {xs : List α} (h : ∀ x ∈ xs, settle x = x) :
    xs.map settle = xs :=
  (List.map_congr_left h).trans (List.map_id' xs)

theorem optionMap_eq_self {α : Type} {settle : α → α} {o : Option α}
    (h : ∀ a, o = some a → settle a = a) : o.map settle = o := by
  cases o with
  | none => rfl
  | some a => rw [Option.map_some, h a rfl]

variable {Q : Json → Prop}

theorem Decorator.settled_eq_self {d : Decorator} (h : d.Settled Q) : d.settled = d := by
  rw [settled, Json.settle_eq_self h]

theorem Field.settled_eq_self {f : Field} (h : f.Settled Q) : f.settled = f := by
  obtain ⟨htype, hdefault, hitem, hvalidations, hdecorators⟩ := h
  rw [settled, htype, Json.settle_eq_self hdefault, optionMap_eq_self hitem,
    map_eq_self hvalidations,
    Table.settled_eq_self hdecorators fun _ => Decorator.settled_eq_self]

theorem Property.settled_eq_self {p : Property} (h : p.Settled Q) : p.settled = p := by
  obtain ⟨htype, hitem, hdefault⟩ := h
  rw [settled, htype, optionMap_eq_self hitem, Json.settle_eq_self hdefault]

theorem Message.settled_eq_self {m : Message} (h : m.Settled Q) : m.settled = m := by
  rw [settled, Table.settled_eq_self h fun _ => Property.settled_eq_self]

theorem Index.settled_eq_self {i : Index} (h : i.Settled Q) : i.settled = i := by
  rw [settled, Json.settle_eq_self h]

theorem ContractOptions.settled_eq_self {o : ContractOptions} (h : o.Settled) : o.settled = o := by
  rw [settled, Table.settled_eq_self h.1 fun _ => Json.distinct_eq_self]

/-- **Writing and reading leave a settled contract as it is.** -/
theorem Contract.settled_eq_self {c : Contract} (h : c.Settled Q) : c.settled = c := by
  obtain ⟨hfields, hmessages, hindexes, hoptions⟩ := h
  rw [settled, map_eq_self fun f hf => Field.settled_eq_self (hfields f hf),
    map_eq_self fun m hm => Message.settled_eq_self (hmessages m hm),
    map_eq_self fun i hi => Index.settled_eq_self (hindexes i hi),
    optionMap_eq_self fun o ho => ContractOptions.settled_eq_self (hoptions o ho)]

/-- A settled contract can be read once it is written. -/
theorem Contract.Settled.readable {c : Contract} (h : c.Settled Q) : c.Readable Q where
  fields f hf :=
    ⟨fun v hv => ((h.1 f hf).2.1 v hv).1, fun e he v hv => ((h.1 f hf).2.2.2.2.2 e he v hv).1⟩
  messages m hm e he v hv := (((h.2.1 m hm).2 e he).2.2 v hv).1
  indexes i hi v hv := (h.2.2.1 i hi v hv).1
  options o ho := (h.2.2.2 o ho).2

/-! ## Validations -/

namespace Validation

theorem settle_distinct (o : Option Json) :
    (Json.settle ((Json.settle o).map Json.distinct)).map Json.distinct =
      (Json.settle o).map Json.distinct := by
  have hsettle : ∀ v : Json, v ≠ .null → Json.settle (some v.distinct) = some v.distinct := by
    intro v hv
    cases v with
    | null => exact absurd rfl hv
    | bool | number | string => rfl
    | array => simp [Json.distinct, Json.settle]
    | object => simp [Json.distinct, Json.settle]
  cases o with
  | none => rfl
  | some v =>
    by_cases hv : v = .null
    · subst hv
      rfl
    · have hkeep : Json.settle (some v) = some v := by
        unfold Json.settle
        split
        · rename_i h
          exact absurd (Option.some.inj h) hv
        · rfl
      rw [hkeep, Option.map_some, hsettle v hv, Option.map_some,
        Json.distinct_eq_self (Json.hasDistinctKeys_distinct v)]

/-- The parts of the draft seen so far are read back as they are. -/
def DraftSettled (d : ValidationDraft) : Prop :=
  (∀ k, d.kind = some k → k.settled = k) ∧
    (∀ o, d.value = some o → (Json.settle o).map Json.distinct = o) ∧
    ∀ o, d.context = some o → (Json.settle o).map Json.distinct = o

theorem kind_settled {c : Content} {k : ValidationKind} (h : ValidationKind.ofContent? c = some k) :
    k.settled = k := by
  unfold ValidationKind.ofContent? at h
  split at h
  · cases h
    rfl
  · split at h
    · rename_i values hvalues
      cases h
      have hdistinct := Content.hasDistinctKeys_of_itemsToJson hvalues
      rw [ValidationKind.settled, map_eq_self fun v hv => Json.distinct_eq_self (hdistinct v hv)]
    · cases h
  · cases h

theorem draftSettled_fill {d d' : ValidationDraft} (hd : DraftSettled d) {slot : ValidationDraft.Slot}
    {v : Json} (h : d.fill slot (.ofJson v) = some d') : DraftSettled d' := by
  obtain ⟨hkind, hvalue, hcontext⟩ := hd
  have hjson : ∀ o, ValidationDraft.json? (.ofJson v) = some o →
      (Json.settle o).map Json.distinct = o := by
    intro o ho
    rw [json?_ofJson rfl] at ho
    obtain rfl := Option.some.inj ho
    exact settle_distinct _
  cases slot with
  | kind =>
    simp only [ValidationDraft.fill] at h
    split at h
    · rename_i k _ hk
      cases h
      refine ⟨fun k' hk' => ?_, hvalue, hcontext⟩
      cases hk'
      exact kind_settled hk
    · cases h
  | value =>
    simp only [ValidationDraft.fill] at h
    split at h
    · rename_i o _ ho
      cases h
      refine ⟨hkind, fun o' ho' => ?_, hcontext⟩
      cases ho'
      exact hjson o ho
    · cases h
  | message =>
    simp only [ValidationDraft.fill] at h
    split at h
    · cases h
      exact ⟨hkind, hvalue, hcontext⟩
    · cases h
  | context =>
    simp only [ValidationDraft.fill] at h
    split at h
    · rename_i o _ ho
      cases h
      refine ⟨hkind, hvalue, fun o' ho' => ?_⟩
      cases ho'
      exact hjson o ho
    · cases h
  | other =>
    cases h
    exact ⟨hkind, hvalue, hcontext⟩

theorem draftSettled_fillAll {members : List (String × Json)} :
    ∀ {d d' : ValidationDraft}, DraftSettled d → d.fillAll (Content.ofMembers members) = some d' →
      DraftSettled d' := by
  induction members with
  | nil =>
    intro d d' hd h
    cases h
    exact hd
  | cons e rest ih =>
    intro d d' hd h
    obtain ⟨key, v⟩ := e
    unfold Content.ofMembers ValidationDraft.fillAll at h
    split at h
    · cases h
    · split at h
      · cases h
      · rename_i hfill
        exact ih (draftSettled_fill hd hfill) h

/-- A validation in any spelling is read as a settled one. -/
theorem settled_of_ofContent? {u : Json} {v : Validation} (h : ofContent? (.ofJson u) = some v) :
    v.settled = v := by
  cases u with
  | null | bool | number => cases h
  | string n =>
    cases h
    rfl
  | array items =>
    unfold Content.ofJson ofContent? at h
    dsimp only at h
    split at h
    · rename_i values hvalues
      cases h
      have hdistinct := Content.hasDistinctKeys_of_itemsToJson hvalues
      have hitems := map_eq_self fun v hv => Json.distinct_eq_self (hdistinct v hv)
      simp only [ofKind, settled, ValidationKind.settled, hitems]
      rfl
    · cases h
  | object members =>
    unfold Content.ofJson ofContent? at h
    dsimp only at h
    obtain ⟨d, hd, hfinish⟩ := Option.bind_eq_some_iff.1 h
    have hempty : DraftSettled .empty := by
      refine ⟨?_, ?_, ?_⟩ <;> intro _ h <;> cases h
    obtain ⟨hkind, hvalue, hcontext⟩ := draftSettled_fillAll hempty hd
    obtain ⟨k, hk, rfl⟩ := Option.map_eq_some_iff.1 hfinish
    have hjoin : ∀ o : Option (Option Json),
        (∀ x, o = some x → (Json.settle x).map Json.distinct = x) →
          (Json.settle o.join).map Json.distinct = o.join := by
      intro o ho
      cases o with
      | none => rfl
      | some x => exact ho x rfl
    simp only [settled, hkind k hk, hjoin d.value hvalue, hjoin d.context hcontext]

end Validation

/-! ## What reading gives -/

theorem TypeTag.gives : Gives Q TypeTag.read fun t => t.settled = t := by
  intro v _
  have htext : Ensures (text v : Except Fault String) fun _ => True := fun _ _ => trivial
  exact htext.bind fun s _ => .ok (ofString_tag_ofString s)

theorem Validation.gives : Gives Q Validation.read fun v => v.settled = v := by
  intro u _
  have hcontent : Ensures (Source.content u : Except Fault Content) fun c => c = .ofJson u :=
    .ok rfl
  refine hcontent.bind fun c hc => ?_
  subst hc
  split
  · rename_i v hv
    exact .ok (settled_of_ofContent? hv)
  · exact .error _

theorem gives_json : Gives Q (optional Source.json) (Json.Settled Q) :=
  gives_optional fun _ hv => .ok hv

theorem gives_tag : Gives Q (optional TypeTag.read) fun o => ∀ t, o = some t → t.settled = t :=
  gives_optional fun v _ => TypeTag.gives (Q := fun _ => True) v trivial

theorem Decorator.gives (hQ : Inherited Q) : Gives Q Decorator.reader.read (Decorator.Settled Q) := by
  refine gives_record hQ (fun _ h => by cases h) ?_ fun name _ => gives_ignored name
  refine List.forall_mem_cons.2 ⟨gives_any fun _ _ h => h, ?_⟩
  refine List.forall_mem_cons.2 ⟨gives_make gives_json fun _ h _ _ => h, ?_⟩
  exact fun _ h => by cases h

theorem Field.gives (hQ : Inherited Q) : Gives Q Field.reader.read (Field.Settled Q) := by
  refine gives_record hQ ?_ ?_ fun name _ => gives_ignored name
  · refine ⟨TypeTag.ofString_name .string, ?_, ?_, ?_, List.nodup_nil, ?_⟩ <;> intro _ h <;> cases h
  · refine List.forall_mem_cons.2 ⟨gives_any fun _ _ h => h, ?_⟩
    refine List.forall_mem_cons.2 ⟨gives_make TypeTag.gives fun _ h _ hf => ⟨h, hf.2⟩, ?_⟩
    refine List.forall_mem_cons.2 ⟨gives_any fun _ _ h => h, ?_⟩
    refine List.forall_mem_cons.2 ⟨gives_any fun _ _ h => h, ?_⟩
    refine List.forall_mem_cons.2 ⟨gives_any fun _ _ h => h, ?_⟩
    refine List.forall_mem_cons.2 ⟨gives_any fun _ _ h => h, ?_⟩
    refine List.forall_mem_cons.2 ⟨gives_any fun _ _ h => h, ?_⟩
    refine List.forall_mem_cons.2 ⟨gives_any fun _ _ h => h, ?_⟩
    refine List.forall_mem_cons.2 ⟨gives_any fun _ _ h => h, ?_⟩
    refine List.forall_mem_cons.2 ⟨gives_any fun _ _ h => h, ?_⟩
    refine List.forall_mem_cons.2 ⟨gives_make gives_json fun _ h _ hf => ⟨hf.1, h, hf.2.2⟩, ?_⟩
    refine List.forall_mem_cons.2 ⟨gives_any fun _ _ h => h, ?_⟩
    refine List.forall_mem_cons.2 ⟨gives_any fun _ _ h => h, ?_⟩
    refine List.forall_mem_cons.2 ⟨gives_any fun _ _ h => h, ?_⟩
    refine List.forall_mem_cons.2
      ⟨gives_make gives_tag fun _ h _ hf => ⟨hf.1, hf.2.1, h, hf.2.2.2⟩, ?_⟩
    refine List.forall_mem_cons.2 ⟨gives_make (gives_listOf hQ Validation.gives)
      fun _ h _ hf => ⟨hf.1, hf.2.1, hf.2.2.1, h, hf.2.2.2.2⟩, ?_⟩
    refine List.forall_mem_cons.2 ⟨gives_any fun _ _ h => h, ?_⟩
    refine List.forall_mem_cons.2 ⟨gives_make (gives_tableOf hQ (Decorator.gives hQ))
      fun _ h _ hf => ⟨hf.1, hf.2.1, hf.2.2.1, hf.2.2.2.1, h⟩, ?_⟩
    refine List.forall_mem_cons.2 ⟨gives_any fun _ _ h => h, ?_⟩
    refine List.forall_mem_cons.2 ⟨gives_any fun _ _ h => h, ?_⟩
    refine List.forall_mem_cons.2 ⟨gives_any fun _ _ h => h, ?_⟩
    exact fun _ h => by cases h

theorem Property.gives (hQ : Inherited Q) : Gives Q Property.reader.read (Property.Settled Q) := by
  refine gives_record hQ ?_ ?_ fun name _ => gives_ignored name
  · refine ⟨TypeTag.ofString_name .string, ?_, ?_⟩ <;> intro _ h <;> cases h
  · refine List.forall_mem_cons.2 ⟨gives_make TypeTag.gives fun _ h _ hp => ⟨h, hp.2⟩, ?_⟩
    refine List.forall_mem_cons.2 ⟨gives_any fun _ _ h => h, ?_⟩
    refine List.forall_mem_cons.2 ⟨gives_any fun _ _ h => h, ?_⟩
    refine List.forall_mem_cons.2 ⟨gives_make gives_tag fun _ h _ hp => ⟨hp.1, h, hp.2.2⟩, ?_⟩
    refine List.forall_mem_cons.2 ⟨gives_make gives_json fun _ h _ hp => ⟨hp.1, hp.2.1, h⟩, ?_⟩
    refine List.forall_mem_cons.2 ⟨gives_any fun _ _ h => h, ?_⟩
    refine List.forall_mem_cons.2 ⟨gives_any fun _ _ h => h, ?_⟩
    exact fun _ h => by cases h

theorem Message.gives (hQ : Inherited Q) : Gives Q Message.reader.read (Message.Settled Q) := by
  refine gives_record hQ ⟨List.nodup_nil, fun _ h => by cases h⟩ ?_ fun name _ => gives_ignored name
  refine List.forall_mem_cons.2 ⟨gives_any fun _ _ h => h, ?_⟩
  refine List.forall_mem_cons.2
    ⟨gives_make (gives_tableOf hQ (Property.gives hQ)) fun _ h _ _ => h, ?_⟩
  exact fun _ h => by cases h

theorem Index.gives (hQ : Inherited Q) : Gives Q Index.reader.read (Index.Settled Q) := by
  refine gives_record hQ (fun _ h => by cases h) ?_ fun name _ => gives_ignored name
  refine List.forall_mem_cons.2 ⟨gives_any fun _ _ h => h, ?_⟩
  refine List.forall_mem_cons.2 ⟨gives_any fun _ _ h => h, ?_⟩
  refine List.forall_mem_cons.2 ⟨gives_make gives_json fun _ h _ _ => h, ?_⟩
  exact fun _ h => by cases h

/-! ## Options -/

namespace ContractOptions

theorem ensures_values (extra : List (String × Content)) :
    Ensures (OptionsDraft.values extra) fun entries =>
      entries.map Prod.fst = extra.map Prod.fst ∧ ∀ e ∈ entries, e.2.HasDistinctKeys := by
  induction extra with
  | nil => exact .ok ⟨rfl, fun _ h => by cases h⟩
  | cons e rest ih =>
    obtain ⟨name, c⟩ := e
    unfold OptionsDraft.values
    split
    · exact .error _
    · rename_i v hv
      split
      · exact .error _
      · rename_i vs hvs
        obtain ⟨hkeys, hvalues⟩ := ih vs hvs
        refine .ok ⟨by rw [List.map_cons, List.map_cons, hkeys], ?_⟩
        exact List.forall_mem_cons.2 ⟨Content.hasDistinctKeys_of_toJson hv, hvalues⟩

/-- A name that no member answers to is not a known one. -/
theorem not_mem_of_member? {name : String}
    (h : (OptionsDraft.reader : RecordReader Json (Except Fault) OptionsDraft).member? name = none) :
    name ∉ knownNames := by
  intro hname
  simp only [knownNames, List.mem_cons, List.not_mem_nil, or_false] at hname
  rcases hname with rfl | rfl | rfl | rfl | rfl <;> cases h

theorem gives_draft (hQ : Inherited Q) :
    Gives Q OptionsDraft.reader.readKeyed fun d => ∀ e ∈ d.extra, e.1 ∉ knownNames := by
  refine gives_keyed hQ (fun _ h => by cases h) ?_ ?_
  · refine List.forall_mem_cons.2 ⟨gives_any fun _ _ h => h, ?_⟩
    refine List.forall_mem_cons.2 ⟨gives_any fun _ _ h => h, ?_⟩
    refine List.forall_mem_cons.2 ⟨gives_any fun _ _ h => h, ?_⟩
    refine List.forall_mem_cons.2 ⟨gives_any fun _ _ h => h, ?_⟩
    refine List.forall_mem_cons.2 ⟨gives_any fun _ _ h => h, ?_⟩
    exact fun _ h => by cases h
  · intro name hname v _
    refine .ok fun d hd e he => ?_
    rcases List.mem_append.1 he with he | he
    · exact hd e he
    · rw [List.mem_singleton.1 he]
      exact not_mem_of_member? hname

theorem gives (hQ : Inherited Q) : Gives Q ContractOptions.read ContractOptions.Settled := by
  intro v hv
  refine (gives_draft hQ v hv).bind fun draft hdraft => ?_
  have hvalues : Ensures (within v (MonadExcept.ofExcept (OptionsDraft.values draft.extra)))
      fun entries => entries.map Prod.fst = draft.extra.map Prod.fst ∧
        ∀ e ∈ entries, e.2.HasDistinctKeys := by
    refine .within ?_
    have h := ensures_values draft.extra
    cases hread : OptionsDraft.values draft.extra with
    | error e => exact .error e
    | ok entries => exact .ok (h entries hread)
  refine hvalues.bind fun entries ⟨hkeys, hdistinct⟩ => .ok ⟨⟨?_, ?_⟩, ?_⟩
  · exact Table.keys_ofEntries_nodup entries
  · exact fun e he => hdistinct e (Table.mem_of_mem_ofEntries he)
  · intro e he
    have hmem : e.1 ∈ draft.extra.map Prod.fst := by
      rw [← hkeys]
      exact List.mem_map_of_mem (Table.mem_of_mem_ofEntries he)
    obtain ⟨d, hd, hname⟩ := List.mem_map.1 hmem
    rw [← hname]
    exact hdraft d hd

end ContractOptions

/-! ## Contracts -/

/-- **Every contract that is read is settled**, in whatever spelling it was written, and the values
given in it are parts of what was read. -/
theorem Contract.gives_settled (hQ : Inherited Q) : Gives Q Contract.read (Contract.Settled Q) := by
  have hoptions : Gives Q (optional ContractOptions.read) fun o => ∀ a, o = some a → a.Settled :=
    gives_optional fun v hv => ContractOptions.gives hQ v hv.1
  refine gives_record hQ ?_ ?_ fun name _ => gives_ignored name
  · refine ⟨?_, ?_, ?_, ?_⟩ <;> intro _ h <;> cases h
  · refine List.forall_mem_cons.2 ⟨gives_any fun _ _ h => h, ?_⟩
    refine List.forall_mem_cons.2 ⟨gives_any fun _ _ h => h, ?_⟩
    refine List.forall_mem_cons.2
      ⟨gives_make (gives_listOf hQ (Field.gives hQ)) fun _ h _ hc => ⟨h, hc.2⟩, ?_⟩
    refine List.forall_mem_cons.2
      ⟨gives_make (gives_listOf hQ (Message.gives hQ)) fun _ h _ hc => ⟨hc.1, h, hc.2.2⟩, ?_⟩
    refine List.forall_mem_cons.2 ⟨gives_any fun _ _ h => h, ?_⟩
    refine List.forall_mem_cons.2
      ⟨gives_orNamed (gives_make (gives_listOf hQ (Index.gives hQ))
        fun _ h _ hc => ⟨hc.1, hc.2.1, h, hc.2.2.2⟩), ?_⟩
    refine List.forall_mem_cons.2 ⟨gives_any fun _ _ h => h, ?_⟩
    refine List.forall_mem_cons.2
      ⟨gives_make hoptions fun _ h _ hc => ⟨hc.1, hc.2.1, hc.2.2.1, h⟩, ?_⟩
    refine List.forall_mem_cons.2 ⟨gives_any fun _ _ h => h, ?_⟩
    exact fun _ h => by cases h

end ContractCompiler
