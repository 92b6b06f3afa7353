import ContractCompiler.Module.Code
import ContractCompiler.Proofs.Collection.OrderedMap

/-!
# What an import block binds

Each request that is added to an import set is answered by a statement of its import block, and no
later request takes that statement's name away.

* `meets_add_self`, `includes_add` — one step: a request is met once it is added, and takes nothing
  away.
* `meets_addAll` — a run: every request of a list is met.
* `binds_of_meets` — a request that is met is bound by the import block, from the right source.
-/

namespace ContractCompiler

namespace ImportSet

/-- The import block binds the name, taken from the source. -/
def Binds (s : ImportSet) (name : ImportedName) (source : String) : Prop :=
  ∃ names, .names names source ∈ s.statements ∧ name ∈ names

/-- Names are imported from a linked module. -/
def Links (s : ImportSet) (specifier : String) (names : List String) : Prop :=
  ∃ e ∈ s.linked, e.1 = specifier ∧ ∀ n ∈ names, n ∈ e.2

/-- The names of the request are in the set. -/
def Meets (s : ImportSet) : ImportRequest → Prop
  | .core name => name ∈ s.core.keys
  | .transformer name => name ∈ s.transformer.keys
  | .validator name => name ∈ s.validator.keys
  | .openapi name => name ∈ s.openapi.keys
  | .graphql name => name ∈ s.graphql.keys
  | .storage => s.storage = true
  | .custom source name =>
    (source = s.coreImport ∧ name ∈ s.core.keys) ∨
      s.custom.Has source fun names => name ∈ names.keys
  | .wholeModule binding _ => binding ∈ s.namespaces.keys
  | .linked specifier names => s.Links specifier names

end ImportSet

/-- Where a statement imports from. -/
def ImportStatement.source : ImportStatement → String
  | wholeModule _ source => source
  | names _ source => source

/-- What the import block binds for a request, and from where, when the core is imported from
`coreImport`. The binding of a whole module is not among the names. -/
def ImportRequest.bound (coreImport : String) : ImportRequest → List (ImportedName × String)
  | .core name => [(.same name, coreImport)]
  | .transformer name => [(.same name, transformerSource)]
  | .validator name => [(.same name, validatorSource)]
  | .openapi name => [(.same name, openapiSource)]
  | .graphql name => [(⟨name, graphqlBinding name⟩, graphqlSource)]
  | .storage => [(.same "ObjectId", storageSource)]
  | .custom source name => [(.same name, source)]
  | .wholeModule _ _ => []
  | .linked specifier names => names.map fun n => (.same n, specifier)

namespace ImportSet

variable {s : ImportSet} {r q : ImportRequest}

/-! ## Names of linked modules -/

theorem mem_appendMissing (names : List String) :
    ∀ {present : List String} {x : String},
      x ∈ appendMissing present names ↔ x ∈ present ∨ x ∈ names := by
  induction names with
  | nil => simp [appendMissing]
  | cons n rest ih =>
    intro present x
    have hstep : appendMissing present (n :: rest) =
        appendMissing (if present.contains n then present else present ++ [n]) rest := rfl
    rw [hstep, ih]
    split
    · rename_i hn
      have hn : n ∈ present := by simpa using hn
      constructor
      · rintro (h | h)
        · exact Or.inl h
        · exact Or.inr (List.mem_cons_of_mem _ h)
      · rintro (h | h)
        · exact Or.inl h
        · rcases List.mem_cons.1 h with rfl | h
          · exact Or.inl hn
          · exact Or.inr h
    · rw [List.mem_append, List.mem_singleton, List.mem_cons, or_assoc]

theorem exists_insertLinked_self (specifier : String) (names : List String)
    (linked : List (String × List String)) :
    ∃ e ∈ insertLinked specifier names linked, e.1 = specifier ∧ ∀ n ∈ names, n ∈ e.2 := by
  induction linked with
  | nil => exact ⟨(specifier, names), by simp [insertLinked], rfl, fun _ h => h⟩
  | cons d rest ih =>
    obtain ⟨k, present⟩ := d
    unfold insertLinked
    split
    · rename_i hk
      exact ⟨_, List.mem_cons_self, hk, fun n hn => (mem_appendMissing names).2 (Or.inr hn)⟩
    · obtain ⟨e, he, h⟩ := ih
      exact ⟨e, List.mem_cons_of_mem _ he, h⟩

theorem exists_insertLinked {specifier k : String} {names wanted : List String}
    {linked : List (String × List String)} (h : ∃ e ∈ linked, e.1 = k ∧ ∀ n ∈ wanted, n ∈ e.2) :
    ∃ e ∈ insertLinked specifier names linked, e.1 = k ∧ ∀ n ∈ wanted, n ∈ e.2 := by
  induction linked with
  | nil =>
    obtain ⟨e, he, -⟩ := h
    cases he
  | cons d rest ih =>
    obtain ⟨l, present⟩ := d
    obtain ⟨e, he, hk, hn⟩ := h
    unfold insertLinked
    split
    · rcases List.mem_cons.1 he with rfl | he
      · exact ⟨_, List.mem_cons_self, hk, fun n h => (mem_appendMissing names).2 (Or.inl (hn n h))⟩
      · exact ⟨e, List.mem_cons_of_mem _ he, hk, hn⟩
    · rcases List.mem_cons.1 he with rfl | he
      · exact ⟨_, List.mem_cons_self, hk, hn⟩
      · obtain ⟨e', he', h'⟩ := ih ⟨e, he, hk, hn⟩
        exact ⟨e', List.mem_cons_of_mem _ he', h'⟩

/-! ## One request -/

/-- The second set holds all that the first one holds. -/
structure Includes (s t : ImportSet) : Prop where
  coreImport : t.coreImport = s.coreImport
  core : ∀ x ∈ s.core.keys, x ∈ t.core.keys
  transformer : ∀ x ∈ s.transformer.keys, x ∈ t.transformer.keys
  validator : ∀ x ∈ s.validator.keys, x ∈ t.validator.keys
  openapi : ∀ x ∈ s.openapi.keys, x ∈ t.openapi.keys
  graphql : ∀ x ∈ s.graphql.keys, x ∈ t.graphql.keys
  storage : s.storage = true → t.storage = true
  custom : ∀ source x, s.custom.Has source (fun names => x ∈ names.keys) →
    t.custom.Has source fun names => x ∈ names.keys
  namespaces : ∀ x ∈ s.namespaces.keys, x ∈ t.namespaces.keys
  linked : ∀ specifier names, s.Links specifier names → t.Links specifier names

theorem Includes.refl (s : ImportSet) : s.Includes s :=
  ⟨rfl, fun _ h => h, fun _ h => h, fun _ h => h, fun _ h => h, fun _ h => h, id, fun _ _ h => h,
    fun _ h => h, fun _ _ h => h⟩

theorem Includes.trans {t u : ImportSet} (h : s.Includes t) (g : t.Includes u) : s.Includes u :=
  ⟨g.coreImport.trans h.coreImport, fun x hx => g.core x (h.core x hx),
    fun x hx => g.transformer x (h.transformer x hx), fun x hx => g.validator x (h.validator x hx),
    fun x hx => g.openapi x (h.openapi x hx), fun x hx => g.graphql x (h.graphql x hx),
    fun hs => g.storage (h.storage hs), fun k x hx => g.custom k x (h.custom k x hx),
    fun x hx => g.namespaces x (h.namespaces x hx), fun k ns hl => g.linked k ns (h.linked k ns hl)⟩

/-- A name asked for from the core's own source is a core name. -/
theorem add_custom_of_eq {source name : String} (h : source = s.coreImport) :
    s.add (.custom source name) = s.add (.core name) := if_pos h

theorem add_custom_of_ne {source name : String} (h : source ≠ s.coreImport) :
    s.add (.custom source name) =
      { s with custom := s.custom.insertWith NameSet.union source (NameSet.insert name .empty) } :=
  if_neg h

theorem mem_insert_of_mem {t : NameSet} {name : String} : ∀ x ∈ t.keys, x ∈ (t.insert name).keys :=
  fun _ h => NameSet.mem_keys_insert.2 (Or.inr h)

/-- **A request takes nothing away.** -/
theorem includes_add (s : ImportSet) (r : ImportRequest) : s.Includes (s.add r) := by
  have hrefl := Includes.refl s
  cases r with
  | core => exact { hrefl with core := mem_insert_of_mem }
  | transformer => exact { hrefl with transformer := mem_insert_of_mem }
  | validator => exact { hrefl with validator := mem_insert_of_mem }
  | openapi => exact { hrefl with openapi := mem_insert_of_mem }
  | graphql => exact { hrefl with graphql := mem_insert_of_mem }
  | storage => exact { hrefl with storage := fun _ => rfl }
  | custom source name =>
    by_cases hsource : source = s.coreImport
    · rw [add_custom_of_eq hsource]
      exact { hrefl with core := mem_insert_of_mem }
    · rw [add_custom_of_ne hsource]
      exact { hrefl with
        custom := fun k x hx =>
          (OrderedMap.has_insertWith_iff fun _ => NameSet.mem_keys_union).2 (Or.inl hx) }
  | wholeModule =>
    exact { hrefl with namespaces := fun _ h => OrderedMap.mem_keys_insertWith.2 (Or.inr h) }
  | linked => exact { hrefl with linked := fun _ _ h => exists_insertLinked h }

/-- **A request is met once it is added.** -/
theorem meets_add_self (s : ImportSet) (r : ImportRequest) : (s.add r).Meets r := by
  cases r with
  | core | transformer | validator | openapi | graphql => exact NameSet.mem_keys_insert.2 (Or.inl rfl)
  | storage => rfl
  | custom source name =>
    by_cases hsource : source = s.coreImport
    · rw [add_custom_of_eq hsource]
      exact Or.inl ⟨hsource, NameSet.mem_keys_insert.2 (Or.inl rfl)⟩
    · rw [add_custom_of_ne hsource]
      refine Or.inr ((OrderedMap.has_insertWith_iff fun _ => NameSet.mem_keys_union).2 ?_)
      exact Or.inr ⟨rfl, NameSet.mem_keys_insert.2 (Or.inl rfl)⟩
  | wholeModule binding source => exact OrderedMap.mem_keys_insertWith.2 (Or.inl rfl)
  | linked specifier names => exact exists_insertLinked_self specifier names s.linked

/-- **A request that is met stays met in a larger set.** -/
theorem Meets.mono {t : ImportSet} (hst : s.Includes t) (h : s.Meets r) : t.Meets r := by
  cases r with
  | core name => exact hst.core name h
  | transformer name => exact hst.transformer name h
  | validator name => exact hst.validator name h
  | openapi name => exact hst.openapi name h
  | graphql name => exact hst.graphql name h
  | storage => exact hst.storage h
  | custom source name =>
    rcases h with ⟨hsource, h⟩ | h
    · exact Or.inl ⟨hsource.trans hst.coreImport.symm, hst.core name h⟩
    · exact Or.inr (hst.custom source name h)
  | wholeModule binding => exact hst.namespaces binding h
  | linked specifier names => exact hst.linked specifier names h

/-! ## All requests -/

theorem includes_addAll (requests : List ImportRequest) :
    ∀ s : ImportSet, s.Includes (s.addAll requests) := by
  induction requests with
  | nil => exact Includes.refl
  | cons q rest ih => exact fun s => (includes_add s q).trans (ih (s.add q))

/-- **Every request of a list is met once all are added.** -/
theorem meets_addAll {requests : List ImportRequest} (hr : r ∈ requests) :
    (s.addAll requests).Meets r := by
  induction requests generalizing s with
  | nil => cases hr
  | cons q rest ih =>
    rcases List.mem_cons.1 hr with rfl | hr
    · exact (meets_add_self s r).mono (includes_addAll rest (s.add r))
    · exact ih hr

/-! ## The import block -/

theorem mem_statements {st : ImportStatement} :
    st ∈ s.statements ↔
      st = .wholeModule "fastJson" serializerSource ∨ st ∈ group (same s.core) s.coreImport ∨
      st ∈ group (same s.transformer) transformerSource ∨
      st ∈ group (same s.validator) validatorSource ∨
      (s.storage = true ∧ st = .names [.same "ObjectId"] storageSource) ∨
      st ∈ group (same s.openapi) openapiSource ∨
      st ∈ group (s.graphql.keys.map fun n => ⟨n, graphqlBinding n⟩) graphqlSource ∨
      (∃ e ∈ s.custom.entries, st ∈ group (same e.2) e.1) ∨
      (∃ e ∈ s.namespaces.entries, .wholeModule e.1 e.2 = st) ∨
      ∃ e ∈ s.linked, .names (e.2.map .same) e.1 = st := by
  unfold statements
  cases s.storage <;>
    simp only [List.mem_append, List.mem_singleton, List.mem_flatMap, List.mem_map, or_assoc,
      Bool.false_eq_true, if_false, if_true, List.not_mem_nil, false_and, true_and, false_or]

theorem mem_group {names : List ImportedName} {n : ImportedName} (source : String) (h : n ∈ names) :
    .names names source ∈ group names source := by
  cases names with
  | nil => cases h
  | cons => exact List.mem_singleton.2 rfl

theorem mem_same {t : NameSet} {x : String} (h : x ∈ t.keys) : .same x ∈ same t :=
  List.mem_map.2 ⟨x, h, rfl⟩

/-- **A request that is met is bound by the import block.** -/
theorem binds_of_meets (h : s.Meets r) {b : ImportedName × String} (hb : b ∈ r.bound s.coreImport) :
    s.Binds b.1 b.2 := by
  cases r with
  | core name =>
    cases List.mem_singleton.1 hb
    exact ⟨_, mem_statements.2 (by simp [mem_group _ (mem_same h)]), mem_same h⟩
  | transformer name =>
    cases List.mem_singleton.1 hb
    exact ⟨_, mem_statements.2 (by simp [mem_group _ (mem_same h)]), mem_same h⟩
  | validator name =>
    cases List.mem_singleton.1 hb
    exact ⟨_, mem_statements.2 (by simp [mem_group _ (mem_same h)]), mem_same h⟩
  | openapi name =>
    cases List.mem_singleton.1 hb
    exact ⟨_, mem_statements.2 (by simp [mem_group _ (mem_same h)]), mem_same h⟩
  | graphql name =>
    cases List.mem_singleton.1 hb
    have hn : (⟨name, graphqlBinding name⟩ : ImportedName) ∈
        s.graphql.keys.map fun n => (⟨n, graphqlBinding n⟩ : ImportedName) :=
      List.mem_map.2 ⟨name, h, rfl⟩
    exact ⟨_, mem_statements.2 (by simp [mem_group _ hn]), hn⟩
  | storage =>
    cases List.mem_singleton.1 hb
    refine ⟨[.same "ObjectId"], mem_statements.2 ?_, List.mem_singleton.2 rfl⟩
    simp [show s.storage = true from h]
  | custom source name =>
    cases List.mem_singleton.1 hb
    rcases h with ⟨rfl, h⟩ | ⟨e, he, rfl, h⟩
    · exact ⟨_, mem_statements.2 (by simp [mem_group _ (mem_same h)]), mem_same h⟩
    · refine ⟨_, mem_statements.2 ?_, mem_same h⟩
      iterate 7 apply Or.inr
      exact Or.inl ⟨e, he, mem_group e.1 (mem_same h)⟩
  | wholeModule => cases hb
  | linked specifier names =>
    obtain ⟨n, hn, rfl⟩ := List.mem_map.1 hb
    obtain ⟨e, he, rfl, hall⟩ := h
    refine ⟨e.2.map .same, mem_statements.2 ?_, List.mem_map.2 ⟨n, hall n hn, rfl⟩⟩
    iterate 9 apply Or.inr
    exact ⟨e, he, rfl⟩

end ImportSet

end ContractCompiler
