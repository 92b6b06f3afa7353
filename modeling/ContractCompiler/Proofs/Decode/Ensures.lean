import ContractCompiler.Decode.Json
import ContractCompiler.Decode.Record
import ContractCompiler.Proofs.Collection.Table

/-!
# What reading ensures

`Ensures` speaks of the result of a reading that succeeds, and `Gives` of all readings of JSON values
with a property that parts of values inherit.

* `gives_listOf`, `gives_tableOf` — what is read of the parts of a container holds for all of them.
* `gives_record` — a property of the blank record that reading a member keeps holds for every record
  that is read, in whatever form and order its members are written.
-/

namespace ContractCompiler.Decode

/-- If the reading succeeds, the result has the property. -/
def Ensures {α : Type} (x : Except Fault α) (P : α → Prop) : Prop := ∀ a, x = .ok a → P a

namespace Ensures

variable {α β : Type} {x : Except Fault α} {P : α → Prop}

theorem ok {a : α} (h : P a) : Ensures (.ok a) P := by
  intro b hb
  cases hb
  exact h

theorem error (e : Fault) : Ensures (.error e) P := by
  intro b hb
  cases hb

theorem bind {S : β → Prop} {f : α → Except Fault β} (hx : Ensures x P)
    (hf : ∀ a, P a → Ensures (f a) S) : Ensures (x >>= f) S := by
  cases x with
  | error e => exact error e
  | ok a => exact hf a (hx a rfl)

theorem within {ν : Type} [Source ν (Except Fault)] {n : ν} (h : Ensures x P) :
    Ensures (Decode.within n x) P := by
  cases x with
  | error e => exact error _
  | ok a => exact ok (h a rfl)

end Ensures

/-- Parts of a value with the property have the property. -/
structure Inherited (Q : Json → Prop) : Prop where
  items : ∀ {items}, Q (.array items) → ∀ v ∈ items, Q v
  members : ∀ {members}, Q (.object members) → ∀ m ∈ members, Q m.2

/-- Every reading of a value with the first property has a result with the second one. -/
def Gives {α : Type} (Q : Json → Prop) (read : Json → Except Fault α) (P : α → Prop) : Prop :=
  ∀ v, Q v → Ensures (read v) P

variable {α β : Type} {Q : Json → Prop} {P : α → Prop} {read : Json → Except Fault α}

theorem ensures_readItems {read : β → Except Fault α} {S : β → Prop}
    (h : ∀ x, S x → Ensures (read x) P) {xs : List β} (hxs : ∀ x ∈ xs, S x) (stop : Option Fault) :
    Ensures (readItems read xs stop) fun as => ∀ a ∈ as, P a := by
  induction xs with
  | nil =>
    cases stop with
    | none => exact .ok (fun a ha => by cases ha)
    | some e => exact .error e
  | cons x rest ih =>
    obtain ⟨hx, hrest⟩ := List.forall_mem_cons.1 hxs
    refine (h x hx).bind fun a ha => (ih hrest).bind fun as has => ?_
    exact .ok (List.forall_mem_cons.2 ⟨ha, has⟩)

/-- A value that may be absent is read from a value other than `null`. -/
theorem gives_optional (h : Gives (fun v => Q v ∧ v ≠ .null) read P) :
    Gives Q (optional read) fun o => ∀ a, o = some a → P a := by
  intro v hv
  have hsome (v : Json) (hv : Q v) (hne : v ≠ .null) :
      Ensures (read v >>= fun a => pure (some a)) fun o => ∀ a, o = some a → P a := by
    refine (h v ⟨hv, hne⟩).bind fun a ha => .ok fun b hb => ?_
    cases hb
    exact ha
  cases v with
  | null => exact .ok (fun a ha => by cases ha)
  | bool | number | string | array | object => exact hsome _ hv (by intro h; cases h)

theorem gives_listOf (hQ : Inherited Q) (h : Gives Q read P) :
    Gives Q (listOf read) fun as => ∀ a ∈ as, P a := by
  intro v hv
  cases v with
  | array items => exact .within (ensures_readItems h (hQ.items hv) none)
  | null | bool | number | string | object => exact .error _

theorem ensures_readEntry (h : Gives Q read P) {e : Json × Json} (he : Q e.2) :
    Ensures (readEntry read e) fun d => P d.2 := by
  have hkey : Ensures (Source.text e.1 "a string") fun _ => True := fun _ _ => trivial
  exact hkey.bind fun key _ => (h e.2 he).bind fun a ha => .ok ha

theorem gives_tableOf (hQ : Inherited Q) (h : Gives Q read P) :
    Gives Q (tableOf read) fun t => t.keys.Nodup ∧ ∀ e ∈ t, P e.2 := by
  intro v hv
  cases v with
  | object members =>
    have hread : Ensures (readItems (readEntry read)
        (members.map fun m => ((.string m.1 : Json), m.2)) none) fun t => ∀ e ∈ t, P e.2 := by
      refine ensures_readItems (S := fun e => Q e.2) (fun e he => ensures_readEntry h he) ?_ none
      intro e he
      obtain ⟨m, hm, rfl⟩ := List.mem_map.1 he
      exact hQ.members hv m hm
    refine hread.within.bind fun entries hentries => .ok ⟨Table.keys_ofEntries_nodup entries, ?_⟩
    exact fun e he => hentries e (Table.mem_of_mem_ofEntries he)
  | null | bool | number | string | array => exact .error _

/-! ## Records -/

/-- What reading changes of a record keeps the property. -/
def Keeps (P : α → Prop) (set : α → α) : Prop := ∀ a, P a → P (set a)

theorem gives_make {read : Json → Except Fault β} {S : β → Prop} {required : Bool} {name : String}
    {set : β → α → α} (h : Gives Q read S) (hset : ∀ b, S b → Keeps P (set b)) :
    Gives Q (Member.make required name read set).read (Keeps P) :=
  fun v hv => (h v hv).bind fun b hb => .ok (hset b hb)

/-- A member whose value the property says nothing about. -/
theorem gives_any {read : Json → Except Fault β} {required : Bool} {name : String} {set : β → α → α}
    (hset : ∀ b, Keeps P (set b)) : Gives Q (Member.make required name read set).read (Keeps P) :=
  gives_make (S := fun _ => True) (fun _ _ _ _ => trivial) fun b _ => hset b

theorem gives_orNamed {member : Member Json (Except Fault) α} {name : String}
    (h : Gives Q member.read (Keeps P)) : Gives Q (member.orNamed name).read (Keeps P) := h

theorem gives_ignored (name : String) : Gives Q (ignored name : Json → Except Fault (α → α)) (Keeps P) :=
  fun _ _ => .ok fun _ ha => ha

variable {r : RecordReader Json (Except Fault) α}

theorem ensures_complete {seen : List String} {a : α} (ha : P a) : Ensures (r.complete seen a) P := by
  unfold RecordReader.complete
  split
  · exact .error _
  · exact .ok ha

theorem ensures_readEntries (hmembers : ∀ member ∈ r.members, Gives Q member.read (Keeps P))
    (hother : ∀ name, r.member? name = none → Gives Q (r.other name) (Keeps P))
    {entries : List (Json × Json)} (hentries : ∀ e ∈ entries, Q e.2) (stop : Option Fault) :
    ∀ {seen : List String} {a : α}, P a → Ensures (r.readEntries seen a entries stop) P := by
  induction entries with
  | nil =>
    intro seen a ha
    cases stop with
    | none => exact ensures_complete ha
    | some e => exact .error e
  | cons e rest ih =>
    intro seen a ha
    obtain ⟨k, v⟩ := e
    obtain ⟨hv, hrest⟩ := List.forall_mem_cons.1 hentries
    have hkey : Ensures (Source.text k "field identifier") fun _ => True := fun _ _ => trivial
    refine hkey.bind fun name _ => ?_
    split
    · rename_i member hmember
      split
      · exact .error _
      · refine (hmembers member (List.mem_of_find?_eq_some hmember) v hv).bind fun set hset => ?_
        exact ih hrest (hset a ha)
    · rename_i hnone
      exact (hother name hnone v hv).bind fun set hset => ih hrest (hset a ha)

theorem ensures_readPositions {n : Json} {total : Nat} {members : List (Member Json (Except Fault) α)}
    (hmembers : ∀ member ∈ members, Gives Q member.read (Keeps P)) :
    ∀ {items : List Json} {position : Nat} {a : α}, (∀ v ∈ items, Q v) → P a →
      Ensures (r.readPositions n total position a members items none) P := by
  induction members with
  | nil =>
    intro items position a hitems ha
    cases items with
    | nil => exact .ok ha
    | cons => exact .error _
  | cons member rest ih =>
    intro items position a hitems ha
    obtain ⟨hmember, hrest⟩ := List.forall_mem_cons.1 hmembers
    cases items with
    | nil =>
      unfold RecordReader.readPositions
      split
      · exact .error _
      · exact ih hrest hitems ha
    | cons v vs =>
      obtain ⟨hv, hvs⟩ := List.forall_mem_cons.1 hitems
      exact (hmember v hv).bind fun set hset => ih hrest hvs (hset a ha)

/-- **Every record that is read has a property** that the blank one has and that reading a member
keeps. -/
theorem gives_record (hQ : Inherited Q) (hblank : P r.blank)
    (hmembers : ∀ member ∈ r.members, Gives Q member.read (Keeps P))
    (hother : ∀ name, r.member? name = none → Gives Q (r.other name) (Keeps P)) :
    Gives Q r.read P := by
  intro v hv
  cases v with
  | array items => exact .within (ensures_readPositions hmembers (hQ.items hv) hblank)
  | object members =>
    refine .within (ensures_readEntries hmembers hother (fun e he => ?_) none hblank)
    obtain ⟨m, hm, rfl⟩ := List.mem_map.1 he
    exact hQ.members hv m hm
  | null | bool | number | string => exact .error _

theorem gives_keyed (hQ : Inherited Q) (hblank : P r.blank)
    (hmembers : ∀ member ∈ r.members, Gives Q member.read (Keeps P))
    (hother : ∀ name, r.member? name = none → Gives Q (r.other name) (Keeps P)) :
    Gives Q r.readKeyed P := by
  intro v hv
  cases v with
  | object members =>
    refine .within (ensures_readEntries hmembers hother (fun e he => ?_) none hblank)
    obtain ⟨m, hm, rfl⟩ := List.mem_map.1 he
    exact hQ.members hv m hm
  | null | bool | number | string | array => exact .error _

end ContractCompiler.Decode
