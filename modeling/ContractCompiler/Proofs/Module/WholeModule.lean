import ContractCompiler.Proofs.Module.Recording

/-!
# The whole modules that a contract imports

Each entry of a contract's imports is bound to a name derived from its source, and an import set holds
one source for each binding: a request takes the place of an earlier one for the same binding. An
entry is therefore in the import block exactly when no later entry with the same binding asks for
another module.

* `get?_namespaces_add` — one request: it takes its binding, and leaves the others alone.
* `get?_namespaces_addAll` — a run of requests: the last one for a binding has it.
* `get?_namespaces_of_modelModule` — a module binds the last entry of each binding.
* `wholeModules_of_emitModel` — which entries are imported, and when all are.
-/

namespace ContractCompiler

/-! ## Requests -/

/-- The source that a request gives the binding of a whole module. -/
def ImportRequest.sourceFor (binding : String) : ImportRequest → Option String
  | wholeModule b source => if b = binding then some source else none
  | _ => none

theorem ImportRequest.Unordered.sourceFor {r : ImportRequest} (h : r.Unordered) (binding : String) :
    r.sourceFor binding = none := by
  cases r with
  | wholeModule => exact h.elim
  | _ => rfl

namespace ImportSet

variable {s : ImportSet} {r : ImportRequest} {binding : String}

/-- **A request takes its binding and leaves the others alone.** -/
theorem get?_namespaces_add :
    (s.add r).namespaces.get? binding =
      (r.sourceFor binding).or (s.namespaces.get? binding) := by
  cases r with
  | wholeModule b source =>
    show (s.namespaces.insertWith (fun _ new => new) b source).get? binding = _
    rw [OrderedMap.get?_insertWith, ImportRequest.sourceFor]
    split
    · cases s.namespaces.get? binding <;> rfl
    · rfl
  | custom source name =>
    have hunordered : (ImportRequest.custom source name).Unordered := trivial
    have hsame : (s.add (.custom source name)).namespaces = s.namespaces := (ordered_add hunordered).1
    rw [hsame]
    rfl
  | _ => rfl

/-- **The last request for a binding has it.** -/
theorem get?_namespaces_addAll (requests : List ImportRequest) :
    ∀ {s : ImportSet}, (s.addAll requests).namespaces.get? binding =
      (requests.filterMap (ImportRequest.sourceFor binding)).getLast?.or
        (s.namespaces.get? binding) := by
  induction requests with
  | nil => exact rfl
  | cons r rest ih =>
    intro s
    show ((s.add r).addAll rest).namespaces.get? binding = _
    rw [ih, get?_namespaces_add, ← Option.or_assoc]
    cases hr : r.sourceFor binding with
    | none => rw [List.filterMap_cons_none hr, Option.or_none]
    | some source =>
      rw [List.filterMap_cons_some hr, List.getLast?_cons]
      cases (rest.filterMap (ImportRequest.sourceFor binding)).getLast? <;> rfl

/-- The import block holds the whole-module import that an entry with this source asks for. -/
def ImportsModule (s : ImportSet) (source : String) : Prop :=
  .wholeModule (moduleBinding source) source ∈ s.statements

theorem wholeModule_not_mem_group {names : List ImportedName} {source b t : String} :
    .wholeModule b t ∉ group names source := by
  unfold group
  split <;> simp

/-- An entry is in the import block exactly when its binding is for its source. The statement for the
serializer is none of an entry: an entry with that source would be bound to another name. -/
theorem importsModule_iff {source : String} :
    s.ImportsModule source ↔ s.namespaces.get? (moduleBinding source) = some source := by
  have hserializer : ImportStatement.wholeModule (moduleBinding source) source ≠
      .wholeModule "fastJson" serializerSource := by
    intro h
    obtain ⟨hbinding, rfl⟩ := ImportStatement.wholeModule.inj h
    exact absurd hbinding (by decide)
  rw [OrderedMap.get?_eq_some_iff, ImportsModule, mem_statements]
  simp only [hserializer, wholeModule_not_mem_group, reduceCtorEq, and_false, exists_false, false_or,
    or_false, ImportStatement.wholeModule.injEq]
  constructor
  · rintro ⟨e, he, hbinding, hsource⟩
    rw [← hbinding, ← hsource]
    exact he
  · exact fun h => ⟨_, h, rfl, rfl⟩

end ImportSet

namespace Contract

variable {c : Contract} {contracts : List Contract} {ctx : EmissionContext} {resolver : Resolver}

/-- The last entry of a contract's imports with the binding. -/
def lastImport (c : Contract) (binding : String) : Option String :=
  (c.imports.filter fun source => moduleBinding source == binding).getLast?

theorem sourceFor_of_mem_linkedRequests {binding : String} {part : List Field} :
    ∀ {seen : List String}, ∀ r ∈ c.linkedRequests contracts resolver seen part,
      r.sourceFor binding = none := by
  induction part with
  | nil => simp [linkedRequests]
  | cons f rest ih =>
    intro seen r hr
    rw [linkedRequests_cons] at hr
    split at hr
    · exact ih r hr
    · split at hr
      · exact ih r hr
      · rcases List.mem_cons.1 hr with rfl | hr
        · rfl
        · exact ih r hr

/-- The entries of a contract's imports ask for their bindings. -/
theorem filterMap_sourceFor_imports {binding : String} (hbinding : Text.isIdentifier binding = true)
    (imports : List String) :
    (imports.flatMap moduleRequest).filterMap (ImportRequest.sourceFor binding) =
      imports.filter fun source => moduleBinding source == binding := by
  induction imports with
  | nil => rfl
  | cons source rest ih =>
    rw [List.flatMap_cons, List.filterMap_append, ih, List.filter_cons, moduleRequest]
    by_cases hsource : moduleBinding source = binding
    · simp [hsource, hbinding, ImportRequest.sourceFor]
    · split <;> simp [hsource, ImportRequest.sourceFor]

/-- **A module binds the last entry of each binding.** -/
theorem get?_namespaces_of_modelModule {m : ModelModule}
    (h : c.modelModule contracts ctx resolver = .ok m) {binding : String}
    (hbinding : Text.isIdentifier binding = true) :
    m.imports.namespaces.get? binding = c.lastImport binding := by
  obtain ⟨links, fields, messages, -, -, hfields, hmessages, rfl⟩ := modelModule_eq_ok_iff.1 h
  have hlinked : (c.linkedRequests contracts resolver [] c.fields).filterMap
      (ImportRequest.sourceFor binding) = [] :=
    List.filterMap_eq_nil_iff.2 sourceFor_of_mem_linkedRequests
  have hclass : (c.classAround ctx fields).requests.filterMap (ImportRequest.sourceFor binding) = [] :=
    List.filterMap_eq_nil_iff.2 fun r hr => (unordered_of_mem_class hfields r hr).sourceFor binding
  have hmessages : ((messages.filterMap Placed.code?).flatMap MessageCode.requests).filterMap
      (ImportRequest.sourceFor binding) = [] :=
    List.filterMap_eq_nil_iff.2 fun r hr =>
      (unordered_of_mem_messages hmessages r hr).sourceFor binding
  have hstorage : (if ctx.usesDocumentIdentity c.modelName then [ImportRequest.storage] else
      []).filterMap (ImportRequest.sourceFor binding) = [] := by
    split <;> rfl
  show (c.moduleImports contracts ctx resolver _ messages).namespaces.get? binding = _
  rw [moduleImports, ImportSet.get?_namespaces_addAll, List.filterMap_append, List.filterMap_append,
    List.filterMap_append, List.filterMap_append, hstorage, hlinked, hclass, hmessages,
    filterMap_sourceFor_imports hbinding, List.nil_append, List.append_nil, List.append_nil]
  exact Option.or_none

/-- Entries that are bound to names are told apart by their bindings. -/
def DistinctBindings (c : Contract) : Prop :=
  ∀ a ∈ c.imports, ∀ b ∈ c.imports, Text.isIdentifier (moduleBinding a) = true →
    moduleBinding a = moduleBinding b → a = b

theorem exists_lastImport {source : String} (h : source ∈ c.imports) :
    ∃ last ∈ c.imports, moduleBinding last = moduleBinding source ∧
      c.lastImport (moduleBinding source) = some last := by
  have hmem : source ∈ c.imports.filter fun s => moduleBinding s == moduleBinding source := by
    simpa using h
  cases hlast : c.lastImport (moduleBinding source) with
  | none =>
    rw [lastImport, List.getLast?_eq_none_iff] at hlast
    rw [hlast] at hmem
    cases hmem
  | some last =>
    have hfilter := List.mem_filter.1 (List.mem_of_getLast? hlast)
    exact ⟨last, hfilter.1, by simpa using hfilter.2, rfl⟩

/-- **Of the entries with one binding, the last is imported.** An entry with a binding is in the import
block of its emitted module exactly when it is the last one with that binding; so all of them are
exactly when no two of them share a binding. -/
theorem wholeModules_of_emitModel {t : String} (h : c.emitModel contracts ctx resolver = .ok t) :
    ∃ m, c.modelModule contracts ctx resolver = .ok m ∧ t = m.render ∧
      (∀ source ∈ c.imports, Text.isIdentifier (moduleBinding source) = true →
        (m.imports.ImportsModule source ↔ c.lastImport (moduleBinding source) = some source)) ∧
      ((∀ source ∈ c.imports, Text.isIdentifier (moduleBinding source) = true →
        m.imports.ImportsModule source) ↔ c.DistinctBindings) := by
  obtain ⟨m, hm, rfl⟩ := emitModel_eq_ok_iff.1 h
  have hkept : ∀ source, Text.isIdentifier (moduleBinding source) = true →
      (m.imports.ImportsModule source ↔ c.lastImport (moduleBinding source) = some source) := by
    intro source hbinding
    rw [ImportSet.importsModule_iff, get?_namespaces_of_modelModule hm hbinding]
  refine ⟨m, hm, rfl, fun source _ => hkept source, fun hall a ha b hb hbinding hab => ?_,
    fun hdistinct source hsource hbinding => ?_⟩
  · have hlasta := (hkept a hbinding).1 (hall a ha hbinding)
    have hlastb := (hkept b (hab ▸ hbinding)).1 (hall b hb (hab ▸ hbinding))
    rw [← hab, hlasta] at hlastb
    exact Option.some.inj hlastb
  · obtain ⟨last, hmem, hlast, heq⟩ := exists_lastImport hsource
    rw [hkept source hbinding, heq, hdistinct source hsource last hmem hbinding hlast.symm]

/-! ## Two modules of one name -/

/-- A contract that imports two modules with the same last segment. -/
def mapper : Contract := { named "Mapper" "Mapper" with imports := ["lodash/map", "ramda/map"] }

theorem wholeModules_mapper :
    ∃ t, mapper.emitModel [mapper] (.ofConfig .default .empty) nameResolver = .ok t ∧
      ∃ m, mapper.modelModule [mapper] (.ofConfig .default .empty) nameResolver = .ok m ∧
        t = m.render ∧
        (∀ source ∈ mapper.imports, Text.isIdentifier (moduleBinding source) = true →
          (m.imports.ImportsModule source ↔
            mapper.lastImport (moduleBinding source) = some source)) ∧
        ((∀ source ∈ mapper.imports, Text.isIdentifier (moduleBinding source) = true →
          m.imports.ImportsModule source) ↔ mapper.DistinctBindings) :=
  ⟨_, rfl, wholeModules_of_emitModel rfl⟩

/-- The first of the two modules is not imported, whatever the name that it would be bound to. -/
theorem lodash_not_imported_mapper :
    ∃ m, mapper.modelModule [mapper] (.ofConfig .default .empty) nameResolver = .ok m ∧
      mapper.emitModel [mapper] (.ofConfig .default .empty) nameResolver = .ok m.render ∧
      "lodash/map" ∈ mapper.imports ∧ moduleBinding "lodash/map" = "map" ∧
      Text.isIdentifier "map" = true ∧
      "lodash/map" ∉ m.imports.statements.map ImportStatement.source := by
  refine ⟨_, rfl, rfl, by decide, by decide, by decide, ?_⟩
  decide

end Contract

end ContractCompiler
