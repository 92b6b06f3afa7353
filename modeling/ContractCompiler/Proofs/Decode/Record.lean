import ContractCompiler.Proofs.Decode.Rendition

/-!
# Reading records that were written

`Written` relates the members of a record type to the entries that were written for them, in the
order of their declaration, and to what reading these entries makes of a record. `Part` is what one
member contributes: its entry, or nothing where it is not required.

* `readEntries_append` — a reader that has passed what was written stands before the rest.
* `reads_record`, `readKeyed_append` — records are read from what was written.
-/

namespace ContractCompiler.Decode

/-- No member goes by the name of a later one. -/
def RecordReader.NamesDiffer {ν α : Type} {m : Type → Type} (r : RecordReader ν m α) : Prop :=
  r.members.Pairwise fun a b => a.isNamed b.name = false

namespace Member

variable {ν α β : Type} {m : Type → Type} [Monad m] {name other : String} {read : ν → m β}
  {set : β → α → α}

@[simp]
theorem name_must : (must name read set).name = name := rfl

@[simp]
theorem name_may : (may name read set).name = name := rfl

@[simp]
theorem isNamed_must : (must name read set).isNamed other = (name == other) := Bool.or_false _

@[simp]
theorem isNamed_may : (may name read set).isNamed other = (name == other) := Bool.or_false _

omit [Monad m] in
@[simp]
theorem name_orNamed {member : Member ν m α} : (member.orNamed name).name = member.name := rfl

omit [Monad m] in
@[simp]
theorem isNamed_orNamed {member : Member ν m α} :
    (member.orNamed name).isNamed other = (member.name == other || some name == some other) := rfl

end Member

/-- What a member's value changes. Kept closed, so that a record with many members stays a short
term while it is read. -/
def Member.update {α β : Type} (set : β → α → α) (b : β) (a : α) : α := set b a

namespace Rendition

variable {ν : Type} {m : Type → Type} [Monad m] [MonadExceptOf Fault m] [Source ν m] {α β γ : Type}
  {R : Rendition ν m}

/-- What one member contributes to the entries of a record, and how reading it changes the record. -/
inductive Part (R : Rendition ν m) (member : Member ν m α) : List (String × Json) → α → α → Prop where
  | entry {v : Json} {set : α → α} (h : R.Reads member.read v set) (a : α) :
      Part R member [(member.name, v)] a (set a)
  | missing (h : member.required = false) (a : α) : Part R member [] a a

/-- The entries written for members in order, and how reading them changes a record. -/
inductive Written (R : Rendition ν m) :
    List (Member ν m α) → List (String × Json) → α → α → Prop where
  | last {member : Member ν m α} {part : List (String × Json)} {a b c : α}
      (h : R.Part member part a b) (hb : b = c) : Written R [member] part a c
  | cons {member : Member ν m α} {members : List (Member ν m α)}
      {part entries : List (String × Json)} {a b c : α} (h : R.Part member part a b)
      (hrest : Written R members entries b c) : Written R (member :: members) (part ++ entries) a c

theorem Part.orNamed {member : Member ν m α} {part : List (String × Json)} {a b : α} {name : String}
    (h : R.Part member part a b) : R.Part (member.orNamed name) part a b := by
  cases h with
  | @entry v set h =>
    have hread : R.Reads (member.orNamed name).read v set := h
    exact .entry hread a
  | missing h =>
    have hrequired : (member.orNamed name).required = false := h
    exact .missing hrequired a

/-! ## One entry -/

variable [LawfulMonad m] {r : RecordReader ν m α}

theorem readEntries_known {member : Member ν m α} {seen : List String} {a : α} {e : ν × ν}
    {v : Json} {set : α → α} (hmember : r.member? member.name = some member)
    (hseen : member.name ∉ seen) (he : R.StandsEntry e (member.name, v))
    (h : R.Reads member.read v set) (rest : List (ν × ν)) (stop : Option Fault) :
    r.readEntries seen a (e :: rest) stop =
      r.readEntries (member.name :: seen) (set a) rest stop := by
  obtain ⟨k, n⟩ := e
  have hnew : ¬seen.contains member.name = true := by simpa using hseen
  rw [RecordReader.readEntries, R.text he.1, pure_bind]
  dsimp only
  rw [hmember]
  dsimp only
  rw [if_neg hnew, h n he.2, pure_bind]

theorem readEntries_other {name : String} {seen : List String} {a : α} {e : ν × ν} {v : Json}
    {set : α → α} (hmember : r.member? name = none) (he : R.StandsEntry e (name, v))
    (h : R.Reads (r.other name) v set) (rest : List (ν × ν)) (stop : Option Fault) :
    r.readEntries seen a (e :: rest) stop = r.readEntries seen (set a) rest stop := by
  obtain ⟨k, n⟩ := e
  rw [RecordReader.readEntries, R.text he.1, pure_bind]
  dsimp only
  rw [hmember]
  dsimp only
  rw [h n he.2, pure_bind]

/-! ## All entries -/

omit [Monad m] [MonadExceptOf Fault m] [Source ν m] [LawfulMonad m] in
theorem find?_isNamed {members : List (Member ν m α)}
    (hr : members.Pairwise fun a b => a.isNamed b.name = false) {member : Member ν m α}
    (h : member ∈ members) : members.find? (fun d => d.isNamed member.name) = some member := by
  induction hr with
  | nil => cases h
  | cons hfirst _ ih =>
    rcases List.mem_cons.1 h with rfl | h
    · exact List.find?_cons_of_pos (by simp [Member.isNamed])
    · rw [List.find?_cons_of_neg (by simp [hfirst member h])]
      exact ih h

theorem readEntries_part (hr : r.NamesDiffer) {member : Member ν m α} {part : List (String × Json)}
    {a b : α} (h : R.Part member part a b) {passed members : List (Member ν m α)}
    {seen : List String} (hmembers : r.members = passed ++ member :: members)
    (hpassed : ∀ d ∈ passed, d.required = true → d.name ∈ seen)
    (hnew : ∀ d ∈ member :: members, d.name ∉ seen) {nodes : List (ν × ν)}
    (hnodes : List.Forall₂ R.StandsEntry nodes part) :
    ∃ seen', (∀ d ∈ passed ++ [member], d.required = true → d.name ∈ seen') ∧
      (∀ d ∈ members, d.name ∉ seen') ∧
      ∀ rest stop, r.readEntries seen a (nodes ++ rest) stop = r.readEntries seen' b rest stop := by
  have hmem : member ∈ r.members := by simp [hmembers]
  cases h with
  | missing hrequired =>
    cases hnodes
    refine ⟨seen, ?_, fun d hd => hnew d (List.mem_cons_of_mem _ hd), fun rest stop => rfl⟩
    intro d hd hd'
    rcases List.mem_append.1 hd with hd | hd
    · exact hpassed d hd hd'
    · rw [List.mem_singleton.1 hd, hrequired] at hd'
      cases hd'
  | entry hread =>
    obtain _ | ⟨he, hnil⟩ := hnodes
    cases hnil
    refine ⟨member.name :: seen, ?_, ?_, fun rest stop => ?_⟩
    · intro d hd hd'
      rcases List.mem_append.1 hd with hd | hd
      · exact List.mem_cons_of_mem _ (hpassed d hd hd')
      · rw [List.mem_singleton.1 hd]
        exact List.mem_cons_self
    · -- a later member of the same name would be found in place of this one
      intro d hd hseen
      rcases List.mem_cons.1 hseen with hname | hseen
      · unfold RecordReader.NamesDiffer at hr
        rw [hmembers] at hr
        have hfirst := (List.pairwise_cons.1 (List.pairwise_append.1 hr).2.1).1 d hd
        simp [Member.isNamed, hname] at hfirst
      · exact hnew d (List.mem_cons_of_mem _ hd) hseen
    · exact readEntries_known (find?_isNamed hr hmem) (hnew member List.mem_cons_self) he hread rest
        stop

/-- **A reader that has passed what was written stands before the rest**, and has seen every
required member. -/
theorem readEntries_append (hr : r.NamesDiffer) {members : List (Member ν m α)}
    {entries : List (String × Json)} {a b : α} (h : R.Written members entries a b) :
    ∀ {passed : List (Member ν m α)} {seen : List String} {nodes : List (ν × ν)},
      r.members = passed ++ members → (∀ d ∈ passed, d.required = true → d.name ∈ seen) →
      (∀ d ∈ members, d.name ∉ seen) → List.Forall₂ R.StandsEntry nodes entries →
      ∃ seen', (∀ d ∈ r.members, d.required = true → d.name ∈ seen') ∧
        ∀ rest stop, r.readEntries seen a (nodes ++ rest) stop = r.readEntries seen' b rest stop := by
  induction h with
  | last hpart hb =>
    subst hb
    intro passed seen nodes hmembers hpassed hnew hnodes
    obtain ⟨seen', hseen, -, hread⟩ := readEntries_part hr hpart hmembers hpassed hnew hnodes
    exact ⟨seen', by rwa [hmembers], hread⟩
  | cons hpart hrest ih =>
    intro passed seen nodes hmembers hpassed hnew hnodes
    obtain ⟨seen', hseen, hnew', hread⟩ := readEntries_part hr hpart hmembers hpassed hnew
      (List.forall₂_take_append nodes _ _ hnodes)
    obtain ⟨seen'', hseen'', hread'⟩ := ih (by simp [hmembers]) hseen hnew'
      (List.forall₂_drop_append nodes _ _ hnodes)
    refine ⟨seen'', hseen'', fun rest stop => ?_⟩
    rw [← hread', ← hread, ← List.append_assoc, List.take_append_drop]

omit [Source ν m] [LawfulMonad m] in
theorem complete_eq {seen : List String} {a : α}
    (h : ∀ d ∈ r.members, d.required = true → d.name ∈ seen) : r.complete seen a = pure a := by
  have hnone : r.members.find? (fun d => d.required && !seen.contains d.name) = none := by
    refine List.find?_eq_none.2 fun d hd hmissing => ?_
    simp only [Bool.and_eq_true, Bool.not_eq_true', List.contains_eq_mem, decide_eq_false_iff_not]
      at hmissing
    exact hmissing.2 (h d hd hmissing.1)
  rw [RecordReader.complete, hnone]

/-- **A record is read from what was written for its members.** -/
theorem reads_record (hr : r.NamesDiffer) {entries : List (String × Json)} {a : α}
    (h : R.Written r.members entries r.blank a) : R.Reads r.read (.object entries) a := by
  intro n hn
  obtain ⟨nodes, hrecord, hnodes⟩ := R.record hn r.expected
  obtain ⟨seen, hseen, hread⟩ := readEntries_append hr h (List.nil_append _).symm
    (fun d hd => by cases hd) (fun _ _ => List.not_mem_nil) hnodes
  have hall : r.readEntries [] r.blank nodes none = pure a := by
    have hend := hread [] none
    rwa [List.append_nil, RecordReader.readEntries, complete_eq hseen] at hend
  rw [RecordReader.read, hrecord, pure_bind]
  dsimp only
  rw [hall, R.within_pure]

/-- A record that keeps other entries is read from what was written for its members and the rest. -/
theorem readKeyed_append (hr : r.NamesDiffer) {entries others : List (String × Json)} {a b : α}
    (h : R.Written r.members entries r.blank a)
    (hothers : ∀ seen, (∀ d ∈ r.members, d.required = true → d.name ∈ seen) → ∀ nodes,
      List.Forall₂ R.StandsEntry nodes others → r.readEntries seen a nodes none = pure b) :
    R.Reads r.readKeyed (.object (entries ++ others)) b := by
  intro n hn
  obtain ⟨nodes, hentries, hnodes⟩ := R.entries hn r.expected
  obtain ⟨seen, hseen, hread⟩ := readEntries_append hr h (List.nil_append _).symm
    (fun d hd => by cases hd) (fun _ _ => List.not_mem_nil)
    (List.forall₂_take_append nodes entries others hnodes)
  have hall : r.readEntries [] r.blank nodes none = pure b := by
    have hend := hread (nodes.drop entries.length) none
    rwa [List.take_append_drop,
      hothers seen hseen _ (List.forall₂_drop_append nodes entries others hnodes)] at hend
  rw [RecordReader.readKeyed, hentries, pure_bind]
  dsimp only
  rw [hall, R.within_pure]

/-! ## What the kinds of members contribute -/

theorem reads_make {required : Bool} {name : String} {read : ν → m β} {set : β → α → α} {v : Json}
    {b : β} (h : R.Reads read v b) : R.Reads (Member.make required name read set).read v (set b) := by
  intro n hn
  unfold Member.make
  dsimp only
  rw [h n hn, pure_bind]

theorem part_must {name : String} {read : ν → m β} {set : β → α → α} {v : Json} {b : β} {a : α}
    (h : R.Reads read v b) :
    R.Part (.must name read set) (Json.always name v) a (Member.update set b a) :=
  .entry (reads_make h) a

theorem part_may {name : String} {read : ν → m β} {set : β → α → α} {v : Json} {b : β} {a : α}
    (h : R.Reads read v b) :
    R.Part (.may name read set) (Json.always name v) a (Member.update set b a) :=
  .entry (reads_make h) a

omit [LawfulMonad m] in
/-- A member that is missing leaves the record with what it has there. -/
theorem part_missing {name : String} {read : ν → m β} {set : β → α → α} {get : α → β} {a : α}
    (hset : ∀ a, set (get a) a = a) {b : β} (hb : get a = b) :
    R.Part (.may name read set) [] a (Member.update set b a) := by
  rw [Member.update, ← hb, hset]
  exact .missing rfl a

/-- A flag is written when it is set; a record without it has it unset. -/
theorem part_whenTrue {name : String} {set : Bool → α → α} {get : α → Bool} {b : Bool} {a : α}
    (hset : ∀ a, set (get a) a = a) (hget : get a = false) :
    R.Part (.may name Source.flag set) (Json.whenTrue name b) a (Member.update set b a) := by
  cases b with
  | true => exact part_may (reads_flag true)
  | false => exact part_missing hset hget

/-- A value is written when there is one; reading it may take it for nothing. -/
theorem part_whenSome {name : String} {read : ν → m β} {set : Option β → α → α}
    {get : α → Option β} {write : γ → Json} {o : Option γ} {o' : Option β} {a : α}
    (hnone : o = none → o' = none)
    (hsome : ∀ x, o = some x → R.Reads (optional read) (write x) o')
    (hset : ∀ a, set (get a) a = a) (hget : get a = none) :
    R.Part (.may name (optional read) set) (Json.whenSome name write o) a (Member.update set o' a) := by
  cases o with
  | none =>
    rw [hnone rfl]
    exact part_missing hset hget
  | some x => exact part_may (hsome x rfl)

/-- A value that no reading takes for nothing. -/
theorem part_optional {name : String} {read : ν → m β} {set : Option β → α → α}
    {get : α → Option β} {write : β → Json} {o : Option β} {a : α} (hwrite : ∀ x, write x ≠ .null)
    (h : ∀ x, R.Reads read (write x) x) (hset : ∀ a, set (get a) a = a) (hget : get a = none) :
    R.Part (.may name (optional read) set) (Json.whenSome name write o) a (Member.update set o a) := by
  refine part_whenSome id (fun x hx => ?_) hset hget
  rw [hx]
  exact reads_optional (hwrite x) (h x)

/-- A list is written when it has items. -/
theorem part_whenAny {name : String} {read : ν → m β} {set : List β → α → α} {get : α → List β}
    {write : γ → Json} {xs : List γ} {ys : List β} {a : α}
    (h : List.Forall₂ (fun x y => R.Reads read (write x) y) xs ys)
    (hset : ∀ a, set (get a) a = a) (hget : get a = []) :
    R.Part (.may name (listOf read) set) (Json.whenAny name write xs) a (Member.update set ys a) := by
  cases h with
  | nil => exact part_missing hset hget
  | cons hx hrest => exact part_may (reads_listOf (List.forall₂_map_left_iff.2 (.cons hx hrest)))

end Rendition

end ContractCompiler.Decode
