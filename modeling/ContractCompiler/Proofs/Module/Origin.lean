import Mathlib.Data.List.Nodup
import ContractCompiler.Proofs.Module.Import

/-!
# Where an imported name comes from

An import set collects names by their origin, and each origin binds a name once. Nothing compares
one origin with another, so a name is bound twice where it is asked for from two of them.

* `holds_add`, `holds_addAll` — what a set holds is what was asked for, by its origin.
* `Tidy.addAll` — no origin holds a name twice.
* `count_groups_le_one_iff` — an import block binds a name once exactly when the name does not have two
  origins.
-/

namespace ContractCompiler

/-- Groups with different keys and without duplicates of their own hold a value once exactly when no
two of them do. -/
theorem count_flatMap_snd_le_one_iff {α β : Type} [DecidableEq β] {groups : List (α × List β)} {n : β}
    (hkeys : (groups.map Prod.fst).Nodup) (hnames : ∀ g ∈ groups, g.2.Nodup) :
    (groups.flatMap Prod.snd).count n ≤ 1 ↔
      ∀ g ∈ groups, ∀ g' ∈ groups, n ∈ g.2 → n ∈ g'.2 → g.1 = g'.1 := by
  induction groups with
  | nil => simp
  | cons g rest ih =>
    obtain ⟨hfresh, hkeys⟩ := List.nodup_cons.1 hkeys
    obtain ⟨hnodup, hnames⟩ := List.forall_mem_cons.1 hnames
    rw [List.flatMap_cons, List.count_append]
    by_cases hg : n ∈ g.2
    · have hone : g.2.count n = 1 := List.count_eq_one_of_mem hnodup hg
      have hrest : (rest.flatMap Prod.snd).count n = 0 ↔ ∀ g' ∈ rest, n ∉ g'.2 := by
        simp only [List.count_eq_zero, List.mem_flatMap, not_exists, not_and]
      rw [show g.2.count n + (rest.flatMap Prod.snd).count n ≤ 1 ↔
        (rest.flatMap Prod.snd).count n = 0 by omega, hrest]
      constructor
      · intro hnone
        have hself : ∀ g' ∈ g :: rest, n ∈ g'.2 → g' = g := by
          intro g' hg' hn
          rcases List.mem_cons.1 hg' with rfl | hg'
          · rfl
          · exact absurd hn (hnone g' hg')
        intro a ha b hb hna hnb
        rw [hself a ha hna, hself b hb hnb]
      · intro hall g' hg' hn
        have hkey := hall g List.mem_cons_self g' (List.mem_cons_of_mem _ hg') hg hn
        exact hfresh (hkey ▸ List.mem_map_of_mem hg')
    · rw [List.count_eq_zero_of_not_mem hg, Nat.zero_add, ih hkeys hnames]
      simp only [List.forall_mem_cons, hg, false_implies, implies_true, true_and]

/-- Where an imported name comes from. Names of one origin are collected together. -/
inductive ImportOrigin where
  | core
  | transformer
  | validator
  | storage
  | openapi
  | graphql
  | custom (source : String)
  /-- The bindings of whole modules, whatever their sources. -/
  | wholeModule
  | linked (specifier : String)
deriving DecidableEq, Repr

namespace ImportRequest

/-- The origin of what is asked for. A name asked for from the core's own source is a core name. -/
def origin (coreImport : String) : ImportRequest → ImportOrigin
  | core _ => .core
  | transformer _ => .transformer
  | validator _ => .validator
  | openapi _ => .openapi
  | graphql _ => .graphql
  | storage => .storage
  | custom source _ => if source = coreImport then .core else .custom source
  | wholeModule _ _ => .wholeModule
  | linked specifier _ => .linked specifier

/-- The names that a request binds. -/
def bindings : ImportRequest → List String
  | core name => [name]
  | transformer name => [name]
  | validator name => [name]
  | openapi name => [name]
  | graphql name => [graphqlBinding name]
  | storage => ["ObjectId"]
  | custom _ name => [name]
  | wholeModule binding _ => [binding]
  | linked _ names => names

/-- The request does not make its origin bind a name twice: no graph decoration is called as the
binding of `Field` is, and the names of a linked module are distinct. -/
def Tidy : ImportRequest → Prop
  | graphql name => name ≠ "GraphQLField"
  | linked _ names => names.Nodup
  | _ => True

end ImportRequest

namespace ImportSet

/-- The set binds the name, from the origin. -/
def Holds (s : ImportSet) (n : String) : ImportOrigin → Prop
  | .core => n ∈ s.core.keys
  | .transformer => n ∈ s.transformer.keys
  | .validator => n ∈ s.validator.keys
  | .storage => s.storage = true ∧ n = "ObjectId"
  | .openapi => n ∈ s.openapi.keys
  | .graphql => n ∈ s.graphql.keys.map graphqlBinding
  | .custom source => s.custom.Has source fun names => n ∈ names.keys
  | .wholeModule => n ∈ s.namespaces.keys
  | .linked specifier => ∃ e ∈ s.linked, e.1 = specifier ∧ n ∈ e.2

variable {s : ImportSet} {r : ImportRequest} {n : String} {o : ImportOrigin}

/-! ## What is asked for -/

theorem exists_mem_insertLinked_iff {specifier k : String} {names : List String}
    {linked : List (String × List String)} :
    (∃ e ∈ insertLinked specifier names linked, e.1 = k ∧ n ∈ e.2) ↔
      (∃ e ∈ linked, e.1 = k ∧ n ∈ e.2) ∨ specifier = k ∧ n ∈ names := by
  induction linked with
  | nil => simp [insertLinked]
  | cons d rest ih =>
    obtain ⟨l, present⟩ := d
    unfold insertLinked
    split
    · rename_i hl
      subst hl
      simp only [List.exists_mem_cons_iff, mem_appendMissing, and_or_left]
      rw [or_right_comm]
    · rw [List.exists_mem_cons_iff, ih, List.exists_mem_cons_iff, or_assoc]

/-- **A request adds what it asks for, to its own origin.** -/
theorem holds_add :
    (s.add r).Holds n o ↔ s.Holds n o ∨ r.origin s.coreImport = o ∧ n ∈ r.bindings := by
  cases r with
  | core | transformer | validator | openapi | wholeModule =>
    cases o <;> simp [Holds, add, ImportRequest.origin, ImportRequest.bindings,
      NameSet.mem_keys_insert, OrderedMap.mem_keys_insertWith, or_comm]
  | storage => cases o <;> simp [Holds, add, ImportRequest.origin, ImportRequest.bindings]
  | graphql name =>
    cases o with
    | graphql =>
      simp only [Holds, add, ImportRequest.origin, ImportRequest.bindings, List.mem_map,
        NameSet.mem_keys_insert, List.mem_singleton, true_and, or_and_right, exists_or, exists_eq_left]
      rw [or_comm, eq_comm]
    | _ => simp [Holds, add, ImportRequest.origin, ImportRequest.bindings]
  | custom source name =>
    by_cases hsource : source = s.coreImport
    · rw [add_custom_of_eq hsource]
      cases o <;> simp [Holds, add, ImportRequest.origin, ImportRequest.bindings, hsource,
        NameSet.mem_keys_insert, or_comm]
    · rw [add_custom_of_ne hsource]
      cases o with
      | custom k =>
        refine (OrderedMap.has_insertWith_iff (P := fun names : NameSet => n ∈ names.keys)
          fun _ => NameSet.mem_keys_union).trans ?_
        have hnone : n ∉ OrderedMap.empty.keys (β := Unit) := List.not_mem_nil
        simp [Holds, ImportRequest.origin, ImportRequest.bindings, hsource, NameSet.mem_keys_insert,
          hnone]
      | _ => simp [Holds, ImportRequest.origin, ImportRequest.bindings, hsource]
  | linked specifier names =>
    cases o with
    | linked k =>
      refine exists_mem_insertLinked_iff.trans ?_
      simp [Holds, ImportRequest.origin, ImportRequest.bindings]
    | _ => simp [Holds, add, ImportRequest.origin, ImportRequest.bindings]

theorem not_holds_empty {coreImport : String} : ¬(empty coreImport).Holds n o := by
  cases o <;> simp [Holds, empty, OrderedMap.Has, OrderedMap.keys, OrderedMap.empty]

theorem holds_addAll {requests : List ImportRequest} :
    ∀ {s : ImportSet}, (s.addAll requests).Holds n o ↔
      s.Holds n o ∨ ∃ r ∈ requests, r.origin s.coreImport = o ∧ n ∈ r.bindings := by
  induction requests with
  | nil => simp [addAll]
  | cons q rest ih =>
    intro s
    have hcore : (s.add q).coreImport = s.coreImport := (includes_add s q).coreImport
    rw [show s.addAll (q :: rest) = (s.add q).addAll rest from rfl, ih, holds_add, hcore, or_assoc,
      List.exists_mem_cons_iff]

/-- **What is collected is what was asked for**, each name from the origin of a request. -/
theorem holds_addAll_empty {coreImport : String} {requests : List ImportRequest} :
    ((empty coreImport).addAll requests).Holds n o ↔
      ∃ r ∈ requests, r.origin coreImport = o ∧ n ∈ r.bindings :=
  holds_addAll.trans (or_iff_right not_holds_empty)

/-! ## Each origin binds a name once -/

/-- No origin of the set binds a name twice. -/
structure Tidy (s : ImportSet) : Prop where
  graphql : "GraphQLField" ∉ s.graphql.keys
  specifiers : (s.linked.map Prod.fst).Nodup
  names : ∀ e ∈ s.linked, e.2.Nodup

theorem nodup_appendMissing (names : List String) :
    ∀ {present : List String}, present.Nodup → (appendMissing present names).Nodup := by
  induction names with
  | nil => exact fun h => h
  | cons n rest ih =>
    intro present h
    show (appendMissing (if present.contains n then present else present ++ [n]) rest).Nodup
    refine ih ?_
    split
    · exact h
    · rename_i hn
      refine List.nodup_append.2 ⟨h, List.nodup_singleton n, fun x hx y hy => ?_⟩
      rw [List.mem_singleton.1 hy]
      rintro rfl
      exact hn (List.contains_iff_mem.2 hx)

theorem map_fst_insertLinked (specifier : String) (names : List String)
    (linked : List (String × List String)) :
    (insertLinked specifier names linked).map Prod.fst =
      if specifier ∈ linked.map Prod.fst then linked.map Prod.fst
      else linked.map Prod.fst ++ [specifier] := by
  induction linked with
  | nil => rfl
  | cons d rest ih =>
    obtain ⟨l, present⟩ := d
    unfold insertLinked
    split
    · rename_i hl
      simp [hl]
    · rename_i hl
      rw [List.map_cons, ih]
      simp only [List.map_cons, List.mem_cons, Ne.symm hl, false_or]
      split <;> rfl

theorem nodup_specifiers_insertLinked {specifier : String} {names : List String}
    {linked : List (String × List String)} (h : (linked.map Prod.fst).Nodup) :
    ((insertLinked specifier names linked).map Prod.fst).Nodup := by
  rw [map_fst_insertLinked]
  split
  · exact h
  · rename_i hnew
    refine List.nodup_append.2 ⟨h, List.nodup_singleton _, fun k hk l hl => ?_⟩
    rw [List.mem_singleton.1 hl]
    exact fun heq => hnew (heq ▸ hk)

theorem nodup_of_mem_insertLinked {specifier : String} {names : List String} (hnames : names.Nodup)
    {linked : List (String × List String)} (h : ∀ e ∈ linked, e.2.Nodup) :
    ∀ e ∈ insertLinked specifier names linked, e.2.Nodup := by
  induction linked with
  | nil =>
    intro e he
    rw [List.mem_singleton.1 he]
    exact hnames
  | cons d rest ih =>
    obtain ⟨l, present⟩ := d
    obtain ⟨hpresent, hrest⟩ := List.forall_mem_cons.1 h
    unfold insertLinked
    split
    · exact List.forall_mem_cons.2 ⟨nodup_appendMissing names hpresent, hrest⟩
    · exact List.forall_mem_cons.2 ⟨hpresent, ih hrest⟩

theorem Tidy.add (hs : s.Tidy) (hr : r.Tidy) : (s.add r).Tidy := by
  cases r with
  | core | transformer | validator | openapi | storage | wholeModule => exact { hs with }
  | graphql name =>
    refine { hs with graphql := fun h => ?_ }
    rcases NameSet.mem_keys_insert.1 h with h | h
    · exact hr h.symm
    · exact hs.graphql h
  | custom source name =>
    by_cases hsource : source = s.coreImport
    · rw [add_custom_of_eq hsource]
      exact { hs with }
    · rw [add_custom_of_ne hsource]
      exact { hs with }
  | linked specifier names =>
    exact { hs with
      specifiers := nodup_specifiers_insertLinked hs.specifiers
      names := nodup_of_mem_insertLinked hr hs.names }

/-- **Requests that are tidy leave no origin with a name twice.** -/
theorem Tidy.addAll {requests : List ImportRequest} (hr : ∀ r ∈ requests, r.Tidy) :
    ∀ {s : ImportSet}, s.Tidy → (s.addAll requests).Tidy := by
  induction requests with
  | nil => exact fun h => h
  | cons q rest ih =>
    intro s hs
    obtain ⟨hq, hrest⟩ := List.forall_mem_cons.1 hr
    exact ih hrest (hs.add hq)

theorem tidy_empty (coreImport : String) : (empty coreImport).Tidy where
  graphql := List.not_mem_nil
  specifiers := List.nodup_nil
  names := fun _ he => absurd he List.not_mem_nil

/-! ## The import block -/

/-- The names that a set binds, by their origins. -/
def groups (s : ImportSet) : List (ImportOrigin × List String) :=
  [(.core, s.core.keys), (.transformer, s.transformer.keys), (.validator, s.validator.keys),
    (.storage, if s.storage then ["ObjectId"] else []), (.openapi, s.openapi.keys),
    (.graphql, s.graphql.keys.map graphqlBinding)] ++
  s.custom.entries.map (fun e => (.custom e.1, e.2.keys)) ++ [(.wholeModule, s.namespaces.keys)] ++
  s.linked.map fun e => (.linked e.1, e.2)

theorem bindings_group (names : List ImportedName) (source : String) :
    (group names source).flatMap ImportStatement.bindings = names.map ImportedName.binding := by
  cases names with
  | nil => rfl
  | cons n rest => exact List.append_nil _

theorem map_binding_same (names : List String) :
    (names.map ImportedName.same).map ImportedName.binding = names :=
  (List.map_map ..).trans (List.map_id names)

theorem map_binding_same_keys (t : NameSet) : (same t).map ImportedName.binding = t.keys :=
  map_binding_same t.keys

/-- The import block binds the serializer and the names of its groups. -/
theorem bindings_statements (s : ImportSet) :
    s.statements.flatMap ImportStatement.bindings = "fastJson" :: s.groups.flatMap Prod.snd := by
  have hgraphql : (s.graphql.keys.map fun n => ImportedName.mk n (graphqlBinding n)).map
      ImportedName.binding = s.graphql.keys.map graphqlBinding := List.map_map ..
  have hstorage : (if s.storage then [ImportStatement.names [.same "ObjectId"] storageSource]
      else []).flatMap ImportStatement.bindings = if s.storage then ["ObjectId"] else [] := by
    cases s.storage <;> rfl
  have hwhole : s.namespaces.entries.flatMap (fun e => [e.1]) = s.namespaces.keys :=
    (List.map_eq_flatMap ..).symm
  simp only [statements, groups, List.flatMap_append, List.flatMap_assoc, List.flatMap_map,
    List.flatMap_cons, bindings_group, map_binding_same, map_binding_same_keys, hgraphql, hstorage,
    hwhole, ImportStatement.bindings, List.append_assoc, List.cons_append, List.nil_append]

/-- What a set holds stands in one of its groups. -/
theorem holds_iff : s.Holds n o ↔ ∃ names, (o, names) ∈ s.groups ∧ n ∈ names := by
  unfold groups
  cases o with
  | storage => cases hs : s.storage <;> simp [Holds, hs]
  | custom source => simp [Holds, OrderedMap.Has]
  | _ => simp [Holds]

/-- The groups of a set are of different origins. -/
theorem Tidy.nodup_origins (hs : s.Tidy) : (s.groups.map Prod.fst).Nodup := by
  have hcustom : (s.custom.keys.map ImportOrigin.custom).Nodup :=
    s.custom.nodup_keys.map fun _ _ h => ImportOrigin.custom.inj h
  have hlinked : ((s.linked.map Prod.fst).map ImportOrigin.linked).Nodup :=
    hs.specifiers.map fun _ _ h => ImportOrigin.linked.inj h
  have horigins : s.groups.map Prod.fst =
      [.core, .transformer, .validator, .storage, .openapi, .graphql] ++
        s.custom.keys.map .custom ++ [.wholeModule] ++ (s.linked.map Prod.fst).map .linked := by
    simp [groups, OrderedMap.keys, Function.comp_def]
  rw [horigins]
  refine List.nodup_append.2 ⟨List.nodup_append.2 ⟨List.nodup_append.2 ⟨by decide, hcustom, by simp⟩,
    List.nodup_singleton _, by simp⟩, hlinked, fun a ha b hb => ?_⟩
  obtain ⟨specifier, -, rfl⟩ := List.mem_map.1 hb
  rintro rfl
  simp at ha

/-- A graph decoration is told from `Field` by its binding, unless it is called as that is. -/
theorem nodup_map_graphqlBinding {names : List String} (h : names.Nodup)
    (hfield : "GraphQLField" ∉ names) : (names.map graphqlBinding).Nodup := by
  refine h.map_on fun a ha b hb hab => ?_
  unfold graphqlBinding at hab
  split at hab <;> split at hab
  · simp [*]
  · exact absurd (hab ▸ hb) hfield
  · exact absurd (hab ▸ ha) hfield
  · exact hab

/-- No group of a set has a name twice. -/
theorem Tidy.nodup_names (hs : s.Tidy) : ∀ g ∈ s.groups, g.2.Nodup := by
  rintro ⟨o, names⟩ h
  simp only [groups, List.mem_append, List.mem_cons, List.mem_map, List.not_mem_nil, or_false,
    Prod.mk.injEq, or_assoc] at h
  rcases h with ⟨-, rfl⟩ | ⟨-, rfl⟩ | ⟨-, rfl⟩ | ⟨-, rfl⟩ | ⟨-, rfl⟩ | ⟨-, rfl⟩ |
    ⟨e, -, -, rfl⟩ | ⟨-, rfl⟩ | ⟨e, he, -, rfl⟩
  case inr.inr.inr.inl => cases s.storage <;> simp
  case inr.inr.inr.inr.inr.inl => exact nodup_map_graphqlBinding s.graphql.nodup_keys hs.graphql
  case inr.inr.inr.inr.inr.inr.inr.inr => exact hs.names e he
  all_goals exact OrderedMap.nodup_keys _

theorem mem_flatMap_groups : n ∈ s.groups.flatMap Prod.snd ↔ ∃ o, s.Holds n o := by
  simp only [holds_iff, List.mem_flatMap, Prod.exists]

/-- **The groups of a set bind a name once exactly when it does not have two origins.** -/
theorem count_groups_le_one_iff (hs : s.Tidy) :
    (s.groups.flatMap Prod.snd).count n ≤ 1 ↔ ∀ o o', s.Holds n o → s.Holds n o' → o = o' := by
  rw [count_flatMap_snd_le_one_iff hs.nodup_origins hs.nodup_names]
  constructor
  · intro hgroups o o' ho ho'
    obtain ⟨names, hg, hn⟩ := holds_iff.1 ho
    obtain ⟨names', hg', hn'⟩ := holds_iff.1 ho'
    exact hgroups _ hg _ hg' hn hn'
  · intro horigins g hg g' hg' hn hn'
    exact horigins _ _ (holds_iff.2 ⟨_, hg, hn⟩) (holds_iff.2 ⟨_, hg', hn'⟩)

end ImportSet

end ContractCompiler
