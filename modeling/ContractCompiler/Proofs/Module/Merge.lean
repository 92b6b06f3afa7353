import Mathlib.Data.List.Induction
import ContractCompiler.Proofs.Collection.OrderedMap
import ContractCompiler.Proofs.Module.Origin

/-!
# Merging import sets

What a part of a module needs can be collected in a set of its own and merged into the set of the
module afterwards. A request is a merge with the set of that request alone (`add_eq_merge`), so the
laws of requests come from the laws of merging. All components but one are maps whose merge is
understood key by key. The names of linked models keep the order of their first request, and there a
merge is associative only because no specifier stands twice in a set that requests have built.

* `merge_assoc`, `merge_self`, `empty_merge` — the algebra of sets that keep specifiers apart.
* `applyAll_merge` — what is done to a merged set may as well be done to the set that was merged.
* `add_right_comm`, `addAll_congr` — requests for names may be made in any order, and again.
* `mergeLaws_of_built` — the laws of sets that requests and merges have built.
-/

namespace ContractCompiler.ImportSet

/-! ## Names of a linked module -/

theorem appendMissing_concat (present names : List String) (n : String) :
    appendMissing present (names ++ [n]) =
      if n ∈ appendMissing present names then appendMissing present names
      else appendMissing present names ++ [n] := by
  simp only [appendMissing, List.foldl_append, List.foldl_cons, List.foldl_nil,
    List.contains_iff_mem]

/-- Names that are there already are not appended. -/
theorem appendMissing_of_subset {present names : List String} (h : ∀ n ∈ names, n ∈ present) :
    appendMissing present names = present := by
  induction names with
  | nil => rfl
  | cons n rest ih =>
    obtain ⟨hn, hrest⟩ := List.forall_mem_cons.1 h
    have hstep : appendMissing present (n :: rest) =
        appendMissing (if present.contains n then present else present ++ [n]) rest := rfl
    rw [hstep, if_pos (List.contains_iff_mem.2 hn), ih hrest]

/-- Names that are appended to names may be appended to them first. -/
theorem appendMissing_assoc (a b c : List String) :
    appendMissing (appendMissing a b) c = appendMissing a (appendMissing b c) := by
  induction c using List.reverseRecOn with
  | nil => rfl
  | append_singleton c n ih =>
    have hmem : n ∈ appendMissing a (appendMissing b c) ↔ n ∈ a ∨ n ∈ appendMissing b c :=
      mem_appendMissing _
    rw [appendMissing_concat, appendMissing_concat, ih]
    by_cases hn : n ∈ appendMissing b c
    · rw [if_pos hn, if_pos (hmem.2 (Or.inr hn))]
    · rw [if_neg hn, appendMissing_concat]

/-! ## Linked modules -/

/-- Adds the names of every linked module, in order. -/
def mergeLinked (a b : List (String × List String)) : List (String × List String) :=
  b.foldl (fun acc e => insertLinked e.1 e.2 acc) a

section Linked

variable {k l : String} {ns ms : List String} {a b c : List (String × List String)}

theorem mem_specifiers_insertLinked :
    l ∈ (insertLinked k ns a).map Prod.fst ↔ l ∈ a.map Prod.fst ∨ l = k := by
  rw [map_fst_insertLinked]
  split
  · rename_i hk
    exact (or_iff_left_of_imp fun h => h ▸ hk).symm
  · rw [List.mem_append, List.mem_singleton]

theorem nodup_specifiers_mergeLinked (b : List (String × List String)) :
    ∀ {a : List (String × List String)}, (a.map Prod.fst).Nodup →
      ((mergeLinked a b).map Prod.fst).Nodup := by
  induction b with
  | nil => exact fun h => h
  | cons e rest ih => exact fun h => ih (nodup_specifiers_insertLinked h)

theorem insertLinked_of_not_mem (h : k ∉ a.map Prod.fst) : insertLinked k ns a = a ++ [(k, ns)] := by
  induction a with
  | nil => rfl
  | cons d rest ih =>
    rw [List.map_cons, List.mem_cons, not_or] at h
    rw [insertLinked, if_neg (Ne.symm h.1), ih h.2, List.cons_append]

/-- Two requests of one linked module are one request. -/
theorem insertLinked_insertLinked :
    insertLinked k ns (insertLinked k ms a) = insertLinked k (appendMissing ms ns) a := by
  induction a with
  | nil => simp [insertLinked]
  | cons d rest ih =>
    obtain ⟨s, present⟩ := d
    by_cases hs : s = k
    · simp [insertLinked, hs, appendMissing_assoc]
    · simp [insertLinked, hs, ih]

/-- The requests of two linked modules may be made in any order once one of the modules is there:
the order of the set is that of the first requests. -/
theorem insertLinked_comm (hkl : k ≠ l) (hk : k ∈ a.map Prod.fst) :
    insertLinked k ns (insertLinked l ms a) = insertLinked l ms (insertLinked k ns a) := by
  induction a with
  | nil => cases hk
  | cons d rest ih =>
    obtain ⟨s, present⟩ := d
    rcases List.mem_cons.1 hk with rfl | hk
    · simp [insertLinked, hkl]
    · by_cases hsl : s = l
      · simp [insertLinked, hsl, Ne.symm hkl]
      · by_cases hsk : s = k
        · simp [insertLinked, hsk, hkl]
        · simp [insertLinked, hsl, hsk, ih hk]

/-- A request of a module that is there, and not among the ones merged, may be made first. -/
theorem insertLinked_mergeLinked (b : List (String × List String)) :
    ∀ {a : List (String × List String)}, k ∈ a.map Prod.fst → k ∉ b.map Prod.fst →
      insertLinked k ns (mergeLinked a b) = mergeLinked (insertLinked k ns a) b := by
  induction b with
  | nil => exact fun _ _ => rfl
  | cons e rest ih =>
    intro a hk hnew
    rw [List.map_cons, List.mem_cons, not_or] at hnew
    have hk' : k ∈ (insertLinked e.1 e.2 a).map Prod.fst :=
      mem_specifiers_insertLinked.2 (Or.inl hk)
    have hmerge := ih hk' hnew.2
    rw [insertLinked_comm hnew.1 hk] at hmerge
    exact hmerge

/-- **A request of the merged side may as well be made after the merge.** -/
theorem mergeLinked_insertLinked (b : List (String × List String)) :
    ∀ {a : List (String × List String)}, (b.map Prod.fst).Nodup →
      mergeLinked a (insertLinked k ns b) = insertLinked k ns (mergeLinked a b) := by
  induction b with
  | nil => exact fun _ => rfl
  | cons e rest ih =>
    intro a h
    obtain ⟨s, present⟩ := e
    obtain ⟨hs, hrest⟩ := List.nodup_cons.1 h
    rw [insertLinked]
    split
    · rename_i hk
      subst hk
      have hmem : s ∈ (insertLinked s present a).map Prod.fst :=
        mem_specifiers_insertLinked.2 (Or.inr rfl)
      calc mergeLinked a ((s, appendMissing present ns) :: rest)
          = mergeLinked (insertLinked s ns (insertLinked s present a)) rest := by
            rw [insertLinked_insertLinked]
            rfl
        _ = insertLinked s ns (mergeLinked (insertLinked s present a) rest) :=
            (insertLinked_mergeLinked rest hmem hs).symm
    · exact ih hrest

theorem mergeLinked_assoc (c : List (String × List String)) :
    ∀ {b : List (String × List String)}, (b.map Prod.fst).Nodup →
      mergeLinked (mergeLinked a b) c = mergeLinked a (mergeLinked b c) := by
  induction c with
  | nil => exact fun _ => rfl
  | cons e rest ih =>
    intro b hb
    calc mergeLinked (mergeLinked a b) (e :: rest)
        = mergeLinked (mergeLinked a (insertLinked e.1 e.2 b)) rest := by
          rw [mergeLinked_insertLinked b hb]
          rfl
      _ = mergeLinked a (mergeLinked b (e :: rest)) := ih (nodup_specifiers_insertLinked hb)

theorem mergeLinked_of_nodup (b : List (String × List String)) :
    ∀ {a : List (String × List String)}, ((a ++ b).map Prod.fst).Nodup → mergeLinked a b = a ++ b := by
  induction b with
  | nil => exact fun _ => (List.append_nil _).symm
  | cons e rest ih =>
    intro a h
    have hnew : e.1 ∉ a.map Prod.fst := by
      rw [List.map_append, List.nodup_append] at h
      exact fun hmem => h.2.2 _ hmem _ (by simp) rfl
    have happend : a ++ [(e.1, e.2)] ++ rest = a ++ e :: rest := by simp
    rw [← happend] at h ⊢
    rw [← ih h, ← insertLinked_of_not_mem hnew]
    rfl

theorem insertLinked_of_mem (h : (a.map Prod.fst).Nodup) {e : String × List String} (he : e ∈ a) :
    insertLinked e.1 e.2 a = a := by
  induction a with
  | nil => cases he
  | cons d rest ih =>
    obtain ⟨hd, hrest⟩ := List.nodup_cons.1 h
    rcases List.mem_cons.1 he with rfl | he
    · rw [insertLinked, if_pos rfl, appendMissing_of_subset fun _ hn => hn]
    · have hne : d.1 ≠ e.1 := fun heq => hd (heq ▸ List.mem_map_of_mem he)
      rw [insertLinked, if_neg hne, ih hrest he]

theorem mergeLinked_self (h : (a.map Prod.fst).Nodup) : mergeLinked a a = a := by
  have hpart : ∀ b : List (String × List String), (∀ e ∈ b, e ∈ a) → mergeLinked a b = a := by
    intro b
    induction b with
    | nil => exact fun _ => rfl
    | cons e rest ih =>
      intro hb
      obtain ⟨he, hrest⟩ := List.forall_mem_cons.1 hb
      show mergeLinked (insertLinked e.1 e.2 a) rest = a
      rw [insertLinked_of_mem h he, ih hrest]
  exact hpart a fun _ he => he

end Linked

/-! ## Whole sets -/

/-- No specifier of a linked module stands twice. -/
def KeepsSpecifiersApart (s : ImportSet) : Prop := (s.linked.map Prod.fst).Nodup

variable {s t u : ImportSet} {r q : ImportRequest}

instance last_associative : Std.Associative fun _ new : String => new := ⟨fun _ _ _ => rfl⟩

instance last_idempotentOp : Std.IdempotentOp fun _ new : String => new := ⟨fun _ => rfl⟩

theorem merge_assoc (ht : t.KeepsSpecifiersApart) : (s.merge t).merge u = s.merge (t.merge u) := by
  have hlinked : mergeLinked (mergeLinked s.linked t.linked) u.linked =
      mergeLinked s.linked (mergeLinked t.linked u.linked) := mergeLinked_assoc u.linked ht
  simp only [mergeLinked] at hlinked
  simp only [merge, NameSet.union, OrderedMap.mergeWith_assoc, Bool.or_assoc, hlinked]

theorem merge_empty (s : ImportSet) (coreImport : String) : s.merge (empty coreImport) = s := by
  simp only [merge, empty, NameSet.union, OrderedMap.mergeWith_empty, Bool.or_false, List.foldl_nil]

theorem empty_merge (hs : s.KeepsSpecifiersApart) : (empty s.coreImport).merge s = s := by
  have hlinked : mergeLinked [] s.linked = s.linked := mergeLinked_of_nodup s.linked hs
  simp only [mergeLinked] at hlinked
  simp only [merge, empty, NameSet.union, OrderedMap.empty_mergeWith, Bool.false_or, hlinked]

theorem merge_self (hs : s.KeepsSpecifiersApart) : s.merge s = s := by
  have hlinked : mergeLinked s.linked s.linked = s.linked := mergeLinked_self hs
  simp only [mergeLinked] at hlinked
  simp only [merge, NameSet.union, OrderedMap.mergeWith_self, Bool.or_self, hlinked]

/-- **A request is a merge with the set of that request alone.** -/
theorem add_eq_merge (s : ImportSet) (r : ImportRequest) :
    s.add r = s.merge ((empty s.coreImport).add r) := by
  cases r with
  | custom source name =>
    by_cases hsource : source = s.coreImport
    · rw [add_custom_of_eq hsource, add_custom_of_eq (s := empty s.coreImport) hsource]
      simp [merge, add, empty, NameSet.union, NameSet.insert]
    · rw [add_custom_of_ne hsource, add_custom_of_ne (s := empty s.coreImport) hsource]
      simp [merge, empty, NameSet.union]
  | linked specifier names => simp [merge, add, empty, NameSet.union, insertLinked]
  | _ => simp [merge, add, empty, NameSet.union, NameSet.insert]

theorem coreImport_add : (s.add r).coreImport = s.coreImport := (includes_add s r).coreImport

theorem KeepsSpecifiersApart.empty (coreImport : String) :
    (ImportSet.empty coreImport).KeepsSpecifiersApart := List.nodup_nil

theorem KeepsSpecifiersApart.add (hs : s.KeepsSpecifiersApart) :
    (s.add r).KeepsSpecifiersApart := by
  cases r with
  | linked => exact nodup_specifiers_insertLinked hs
  | custom source name =>
    by_cases hsource : source = s.coreImport
    · rw [add_custom_of_eq hsource]
      exact hs
    · rw [add_custom_of_ne hsource]
      exact hs
  | _ => exact hs

theorem KeepsSpecifiersApart.merge (hs : s.KeepsSpecifiersApart) :
    (s.merge t).KeepsSpecifiersApart := nodup_specifiers_mergeLinked t.linked hs

/-- **A request after a merge may as well be made of the set that is merged.** -/
theorem add_merge (hcore : t.coreImport = s.coreImport) (ht : t.KeepsSpecifiersApart) :
    (s.merge t).add r = s.merge (t.add r) := by
  calc (s.merge t).add r
      = (s.merge t).merge ((empty t.coreImport).add r) := by rw [hcore]; exact add_eq_merge _ r
    _ = s.merge (t.merge ((empty t.coreImport).add r)) := merge_assoc ht
    _ = s.merge (t.add r) := by rw [← add_eq_merge]

/-! ## Sets that are built -/

/-- What requests and merges make of empty sets. -/
inductive Built : ImportSet → Prop where
  | empty (coreImport : String) : Built (.empty coreImport)
  | add {s : ImportSet} (hs : Built s) (r : ImportRequest) : Built (s.add r)
  | merge {s t : ImportSet} (hs : Built s) (ht : Built t) : Built (s.merge t)

/-- A set that is built keeps specifiers apart. -/
theorem Built.keepsSpecifiersApart (h : s.Built) : s.KeepsSpecifiersApart := by
  induction h with
  | empty coreImport => exact .empty coreImport
  | add _ _ ih => exact ih.add
  | merge _ _ ih _ => exact ih.merge

/-- An operation on an import set: a request, or a merge with another set that is built. -/
inductive Operation where
  | add (request : ImportRequest)
  | merge (other : ImportSet) (built : other.Built)

/-- The set after one operation. -/
def apply (s : ImportSet) : Operation → ImportSet
  | .add request => s.add request
  | .merge other _ => s.merge other

/-- The set after operations in order. -/
def applyAll (s : ImportSet) (operations : List Operation) : ImportSet := operations.foldl apply s

variable {operation : Operation}

theorem coreImport_apply : (s.apply operation).coreImport = s.coreImport := by
  cases operation with
  | add => exact coreImport_add
  | merge => rfl

theorem KeepsSpecifiersApart.apply (hs : s.KeepsSpecifiersApart) :
    (s.apply operation).KeepsSpecifiersApart := by
  cases operation with
  | add => exact hs.add
  | merge => exact hs.merge

/-- **One operation after a merge may as well be done to the set that is merged.** -/
theorem apply_merge (hcore : t.coreImport = s.coreImport) (ht : t.KeepsSpecifiersApart) :
    (s.merge t).apply operation = s.merge (t.apply operation) := by
  cases operation with
  | add => exact add_merge hcore ht
  | merge => exact merge_assoc ht

/-- **So may any run of operations.** -/
theorem applyAll_merge (operations : List Operation) :
    ∀ {t : ImportSet}, t.coreImport = s.coreImport → t.KeepsSpecifiersApart →
      (s.merge t).applyAll operations = s.merge (t.applyAll operations) := by
  induction operations with
  | nil => exact fun _ _ => rfl
  | cons operation rest ih =>
    intro t hcore ht
    calc ((s.merge t).apply operation).applyAll rest
        = (s.merge (t.apply operation)).applyAll rest := by rw [apply_merge hcore ht]
      _ = s.merge ((t.apply operation).applyAll rest) := ih (coreImport_apply.trans hcore) ht.apply

/-- Operations on a set are operations on an empty set, merged into it. -/
theorem applyAll_eq_merge (s : ImportSet) (operations : List Operation) :
    s.applyAll operations = s.merge ((empty s.coreImport).applyAll operations) := by
  have hmerge := applyAll_merge (s := s) (t := empty s.coreImport) operations rfl (.empty _)
  rw [merge_empty] at hmerge
  exact hmerge

theorem addAll_eq_applyAll (s : ImportSet) (requests : List ImportRequest) :
    s.addAll requests = s.applyAll (requests.map .add) := by
  rw [applyAll, List.foldl_map]
  rfl

/-- Requests of a set are requests of an empty set, merged into it. -/
theorem addAll_eq_merge (s : ImportSet) (requests : List ImportRequest) :
    s.addAll requests = s.merge ((empty s.coreImport).addAll requests) := by
  rw [addAll_eq_applyAll, addAll_eq_applyAll, applyAll_eq_merge]

/-- The laws of a set that is built: what is done to it may be done to an empty set that is merged
into it afterwards, and merging is associative, with the empty set on either side, and idempotent. -/
structure MergeLaws (a : ImportSet) : Prop where
  recorded : ∀ operations, a.applyAll operations = a.merge ((empty a.coreImport).applyAll operations)
  assoc : ∀ b c, Built b → Built c → (a.merge b).merge c = a.merge (b.merge c)
  merge_empty : ∀ coreImport, a.merge (empty coreImport) = a
  empty_merge : (empty a.coreImport).merge a = a
  merge_self : a.merge a = a

/-- **Recording in a set of one's own and merging it is recording directly**, and merging obeys its
laws, for every set that is built. -/
theorem mergeLaws_of_built (h : s.Built) : s.MergeLaws where
  recorded := applyAll_eq_merge s
  assoc := fun _ _ hb _ => merge_assoc hb.keepsSpecifiersApart
  merge_empty := ImportSet.merge_empty s
  empty_merge := ImportSet.empty_merge h.keepsSpecifiersApart
  merge_self := ImportSet.merge_self h.keepsSpecifiersApart

/-- A set with a linked module that was asked for twice, merged from another core import. -/
def mergedSample : ImportSet :=
  (((empty "core").add (.linked "./b.model" ["B"])).add (.custom "core" "Sanitize")).merge
    (((empty "other").add (.linked "./b.model" ["B", "BFastSchemaStructure"])).add
      (.custom "core" "Trim"))

theorem mergeLaws_mergedSample : mergedSample.Built ∧ mergedSample.MergeLaws := by
  have hbuilt : mergedSample.Built :=
    .merge (.add (.add (.empty "core") _) _) (.add (.add (.empty "other") _) _)
  exact ⟨hbuilt, mergeLaws_of_built hbuilt⟩

end ContractCompiler.ImportSet

namespace ContractCompiler

/-! ## The order of requests -/

/-- The request is for a name of a source: the set does not keep the order of such requests. Whole
modules compete for their bindings, and linked modules stand in the order of their first request. -/
def ImportRequest.Unordered : ImportRequest → Prop
  | wholeModule _ _ => False
  | linked _ _ => False
  | _ => True

namespace ImportSet

variable {s t u : ImportSet} {r q : ImportRequest}

/-- Such a request leaves whole modules and linked models as they are. -/
theorem ordered_add (hr : r.Unordered) :
    (s.add r).namespaces = s.namespaces ∧ (s.add r).linked = s.linked := by
  cases r with
  | wholeModule => exact hr.elim
  | linked => exact hr.elim
  | custom source name =>
    by_cases hsource : source = s.coreImport
    · rw [add_custom_of_eq hsource]
      exact ⟨rfl, rfl⟩
    · rw [add_custom_of_ne hsource]
      exact ⟨rfl, rfl⟩
  | _ => exact ⟨rfl, rfl⟩

/-- Sets without whole modules and linked models may be merged in any order. -/
theorem merge_right_comm (ht : t.namespaces = .empty ∧ t.linked = [])
    (hu : u.namespaces = .empty ∧ u.linked = []) : (s.merge t).merge u = (s.merge u).merge t := by
  simp only [merge, NameSet.union, ht.1, ht.2, hu.1, hu.2, OrderedMap.mergeWith_empty,
    List.foldl_nil, OrderedMap.mergeWith_right_comm _ t.core,
    OrderedMap.mergeWith_right_comm _ t.transformer, OrderedMap.mergeWith_right_comm _ t.validator,
    OrderedMap.mergeWith_right_comm _ t.openapi, OrderedMap.mergeWith_right_comm _ t.graphql,
    OrderedMap.mergeWith_right_comm _ t.custom, Bool.or_right_comm _ t.storage]

/-- **Requests for names may be made in any order.** -/
theorem add_right_comm (hr : r.Unordered) (hq : q.Unordered) :
    (s.add r).add q = (s.add q).add r := by
  have hsingle {p : ImportRequest} (hp : p.Unordered) :
      ((empty s.coreImport).add p).namespaces = .empty ∧ ((empty s.coreImport).add p).linked = [] :=
    ordered_add hp
  rw [add_eq_merge (s.add r) q, add_eq_merge (s.add q) r, coreImport_add, coreImport_add,
    add_eq_merge s r, add_eq_merge s q]
  exact merge_right_comm (hsingle hr) (hsingle hq)

theorem addAll_append (s : ImportSet) (requests requests' : List ImportRequest) :
    s.addAll (requests ++ requests') = (s.addAll requests).addAll requests' := List.foldl_append

theorem addAll_perm {requests requests' : List ImportRequest} (h : requests.Perm requests')
    (hunordered : ∀ r ∈ requests, r.Unordered) : s.addAll requests = s.addAll requests' :=
  h.foldl_eq' (fun _ hx _ hy _ => add_right_comm (hunordered _ hx) (hunordered _ hy)) s

/-- The same request again changes nothing. -/
theorem add_add_self (s : ImportSet) (r : ImportRequest) : (s.add r).add r = s.add r := by
  have hapart : ((empty s.coreImport).add r).KeepsSpecifiersApart :=
    (KeepsSpecifiersApart.empty _).add
  calc (s.add r).add r
      = (s.add r).merge ((empty s.coreImport).add r) := by
        rw [add_eq_merge (s.add r), coreImport_add]
    _ = s.merge (((empty s.coreImport).add r).merge ((empty s.coreImport).add r)) := by
        rw [add_eq_merge s r, merge_assoc hapart]
    _ = s.add r := by rw [merge_self hapart, ← add_eq_merge]

/-- Requests that have been made change nothing when they are made again. -/
theorem addAll_addAll_of_subset {requests again : List ImportRequest}
    (hunordered : ∀ r ∈ requests, r.Unordered) (h : ∀ r ∈ again, r ∈ requests) :
    (s.addAll requests).addAll again = s.addAll requests := by
  induction again with
  | nil => rfl
  | cons r rest ih =>
    obtain ⟨hr, hrest⟩ := List.forall_mem_cons.1 h
    -- with the request moved to the end, it is made twice in a row
    have hperm : requests.Perm (requests.erase r ++ [r]) :=
      (List.perm_cons_erase hr).trans (List.perm_append_singleton r _).symm
    have hstep : (s.addAll requests).add r = s.addAll requests := by
      rw [addAll_perm hperm hunordered, addAll_append]
      exact add_add_self _ r
    calc (s.addAll requests).addAll (r :: rest)
        = ((s.addAll requests).add r).addAll rest := rfl
      _ = s.addAll requests := by rw [hstep, ih hrest]

/-- **What is asked for counts, not how often or in which order.** -/
theorem addAll_congr {requests requests' : List ImportRequest}
    (hunordered : ∀ r ∈ requests, r.Unordered) (h : ∀ r, r ∈ requests ↔ r ∈ requests') :
    s.addAll requests = s.addAll requests' := by
  have hunordered' : ∀ r ∈ requests', r.Unordered := fun r hr => hunordered r ((h r).2 hr)
  have hboth : ∀ r ∈ requests ++ requests', r.Unordered := fun r hr =>
    (List.mem_append.1 hr).elim (hunordered r) (hunordered' r)
  calc s.addAll requests
      = (s.addAll requests).addAll requests' :=
        (addAll_addAll_of_subset hunordered fun r => (h r).2).symm
    _ = s.addAll (requests' ++ requests) := by
        rw [← addAll_append, addAll_perm List.perm_append_comm hboth]
    _ = s.addAll requests' := by
        rw [addAll_append, addAll_addAll_of_subset hunordered' fun r => (h r).1]

/-- So do such requests in order. -/
theorem ordered_addAll {requests : List ImportRequest} (h : ∀ r ∈ requests, r.Unordered) :
    ∀ {s : ImportSet}, (s.addAll requests).namespaces = s.namespaces ∧
      (s.addAll requests).linked = s.linked := by
  induction requests with
  | nil => exact ⟨rfl, rfl⟩
  | cons r rest ih =>
    intro s
    obtain ⟨hr, hrest⟩ := List.forall_mem_cons.1 h
    obtain ⟨hnamespaces, hlinked⟩ := ordered_add (s := s) hr
    exact ⟨(ih hrest).1.trans hnamespaces, (ih hrest).2.trans hlinked⟩

end ImportSet

end ContractCompiler
