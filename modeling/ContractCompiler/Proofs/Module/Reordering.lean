import Mathlib.Data.List.Perm.Basic
import ContractCompiler.Proofs.Module.Recording

/-!
# Imports do not depend on the order of declarations

A contract may declare its fields and its messages in any order, and a field its validations and its
decorations. Without linked fields, what the module of the contract imports stays the same.

* `Field.Reorders.code` — a field with reordered parts asks for the same names.
* `mem_partRequests_iff` — the class and the messages of a module ask for what their parts ask for,
  whichever of them could be emitted.
* `imports_of_reorders` — reordered contracts are emitted together or not at all, with one import
  block.
-/

namespace ContractCompiler

/-! ## Loops that may fail -/

/-- A loop over reordered parts makes the same, in the new order. -/
theorem exists_mapM_of_perm {β γ : Type} {emit : γ → Except EmissionError β} {parts parts' : List γ}
    {bs : List β} (hperm : parts.Perm parts') (h : parts.mapM emit = .ok bs) :
    ∃ bs', parts'.mapM emit = .ok bs' ∧ bs.Perm bs' := by
  obtain ⟨bs', hbs', hbs⟩ := List.perm_comp_forall₂ hperm.symm (mapM_eq_ok_iff.1 h)
  exact ⟨bs', mapM_eq_ok_iff.2 hbs', hbs.symm⟩

/-! ## Reordered declarations -/

/-- The field with its validations and its decorations in another order. -/
inductive Field.Reorders (f : Field) : Field → Prop where
  | intro {validations : List Validation} {decorators : Table Decorator}
      (hvalidations : f.validations.Perm validations) (hdecorators : f.decorators.Perm decorators) :
      Reorders f { f with validations := validations, decorators := decorators }

/-- The contract with its fields and its messages in another order, and each field reordered. -/
inductive Contract.Reorders (c : Contract) : Contract → Prop where
  | intro {permuted fields : List Field} {messages : List Message}
      (hfields : c.fields.Perm permuted) (heach : List.Forall₂ Field.Reorders permuted fields)
      (hmessages : c.messages.Perm messages) :
      Reorders c { c with fields := fields, messages := messages }

namespace Field.Reorders

variable {f g : Field} {ctx : EmissionContext} {target : Option LinkTarget}

theorem symm (h : f.Reorders g) : g.Reorders f := by
  cases h with
  | intro hvalidations hdecorators => exact .intro hvalidations.symm hdecorators.symm

theorem propertyKey (h : f.Reorders g) : g.propertyKey = f.propertyKey := by
  cases h
  rfl

theorem link (h : f.Reorders g) : g.link = f.link := by
  cases h
  rfl

theorem afterValidation (h : f.Reorders g) : g.afterValidation = f.afterValidation := by
  cases h
  rfl

/-- **A field with reordered parts is emitted when the field is, and asks for the same names.** -/
theorem code (h : f.Reorders g) {code : MemberCode} (hcode : f.code ctx target = .ok code) :
    ∃ code', g.code ctx target = .ok code' ∧ ∀ r, r ∈ code.requests ↔ r ∈ code'.requests := by
  obtain ⟨hkey, hlink, decorators, validations, hd, hv, rfl⟩ := code_eq_ok_iff.1 hcode
  cases h with
  | intro hvalidations hdecorators =>
    obtain ⟨decorators', hd', hpermd⟩ := exists_mapM_of_perm hdecorators hd
    obtain ⟨validations', hv', hpermv⟩ := exists_mapM_of_perm hvalidations hv
    refine ⟨_, code_eq_ok_iff.2 ⟨hkey, hlink, decorators', validations', hd', hv', rfl⟩, fun r => ?_⟩
    have hdecorations : r ∈ decorators.map Decoration.request ↔ r ∈ decorators'.map Decoration.request :=
      (hpermd.map _).mem_iff
    have hvalidations : r ∈ validations.map Decoration.request ↔
        r ∈ validations'.map Decoration.request := (hpermv.map _).mem_iff
    simp only [MemberCode.requests, memberAround, List.map_append, List.mem_append, hdecorations,
      hvalidations]
    exact Iff.rfl

end Field.Reorders

namespace Contract.Reorders

variable {c d : Contract}

theorem symm (h : c.Reorders d) : d.Reorders c := by
  cases h with
  | intro hfields heach hmessages =>
    obtain ⟨permuted, heach, hpermuted⟩ := List.perm_comp_forall₂ hfields heach
    exact .intro hpermuted.symm (heach.flip.imp fun _ _ h => h.symm) hmessages.symm

theorem exists_field (h : c.Reorders d) : ∀ f ∈ c.fields, ∃ g ∈ d.fields, f.Reorders g := by
  cases h with
  | intro hfields heach hmessages =>
    intro f hf
    exact exists_of_forall₂ heach f (hfields.mem_iff.1 hf)

theorem mem_messages_iff (h : c.Reorders d) {m : Message} : m ∈ c.messages ↔ m ∈ d.messages := by
  cases h with
  | intro hfields heach hmessages => exact hmessages.mem_iff

/-- The keys of the fields are the same, in another order. -/
theorem perm_keys (h : c.Reorders d) :
    (c.fields.map Field.propertyKey).Perm (d.fields.map Field.propertyKey) := by
  cases h with
  | @intro permuted fields _ hfields heach hmessages =>
    have hkeys : permuted.map Field.propertyKey = fields.map Field.propertyKey := by
      rw [← List.forall₂_eq_eq_eq, List.forall₂_map_left_iff, List.forall₂_map_right_iff]
      exact heach.imp fun _ _ hf => hf.propertyKey.symm
    rw [← hkeys]
    exact hfields.map _

/-- Reordered contracts are well formed together. -/
theorem check (h : c.Reorders d) (hcheck : c.check = .ok ()) : d.check = .ok () := by
  obtain ⟨hname, hcontroller, hblank, hnodup⟩ := check_eq_ok_iff.1 hcheck
  have hblank : ∀ key ∈ c.fields.map Field.propertyKey, Text.isBlankText key = false :=
    List.forall_mem_map.2 hblank
  refine check_eq_ok_iff.2 ⟨?_, ?_, ?_, h.perm_keys.nodup hnodup⟩
  · cases h
    exact hname
  · cases h
    exact hcontroller
  · exact List.forall_mem_map.1 fun key hkey => hblank key (h.perm_keys.mem_iff.2 hkey)

/-- Reordered contracts have linked fields together. -/
theorem unlinked (h : c.Reorders d) (hlink : ∀ f ∈ c.fields, f.link = []) :
    ∀ g ∈ d.fields, g.link = [] := by
  intro g hg
  obtain ⟨f, hf, hfg⟩ := h.symm.exists_field g hg
  rw [← hfg.link]
  exact hlink f hf

end Contract.Reorders

/-! ## Contracts without links -/

namespace Contract

variable {c d : Contract} {contracts : List Contract} {ctx : EmissionContext} {resolver : Resolver}
  {fields : List (Placed MemberCode)} {messages : List (Placed MessageCode)}

theorem resolveFields_of_unlinked {links : Table LinkTarget} {part : List Field}
    (h : ∀ f ∈ part, f.link = []) : c.resolveFields contracts links part = .ok links := by
  induction part with
  | nil => rfl
  | cons f rest ih =>
    obtain ⟨hf, hrest⟩ := List.forall_mem_cons.1 h
    rw [resolveFields, hf]
    exact ih hrest

theorem linkedRequests_of_unlinked {seen : List String} {part : List Field}
    (h : ∀ f ∈ part, f.link = []) : c.linkedRequests contracts resolver seen part = [] := by
  induction part with
  | nil => rfl
  | cons f rest ih =>
    obtain ⟨hf, hrest⟩ := List.forall_mem_cons.1 h
    rw [linkedRequests, hf]
    exact ih hrest

/-- What a part of a contract without links asks for, once it has been emitted. -/
inductive PartRequest (c : Contract) (ctx : EmissionContext) : ImportRequest → Prop where
  | model (h : ctx.capabilities.graphql = true) : PartRequest c ctx (.graphql "ObjectType")
  | identity {code : MemberCode} (h : c.identityCode ctx = some code) {r : ImportRequest}
      (hr : r ∈ code.requests) : PartRequest c ctx r
  | field {f : Field} (hf : f ∈ c.fields) {code : MemberCode} (hcode : f.code ctx none = .ok code)
      {r : ImportRequest} (hr : r ∈ code.requests) : PartRequest c ctx r
  | hook {f : Field} (hf : f ∈ c.fields) {code : MemberCode} (hcode : f.code ctx none = .ok code)
      (h : f.afterValidation.isSome) : PartRequest c ctx (.core "Callbacks")
  | message {m : Message} (hm : m ∈ c.messages) {code : MessageCode}
      (hcode : m.code ctx.capabilities = .ok code) {r : ImportRequest} (hr : r ∈ code.requests) :
      PartRequest c ctx r

/-- **Reordered contracts ask for the same.** -/
theorem PartRequest.of_reorders (h : c.Reorders d) {r : ImportRequest} (hr : c.PartRequest ctx r) :
    d.PartRequest ctx r := by
  cases hr with
  | model hgraphql => exact .model hgraphql
  | identity hidentity hr =>
    refine .identity ?_ hr
    cases h
    exact hidentity
  | field hf hcode hr =>
    obtain ⟨g, hg, hfg⟩ := h.exists_field _ hf
    obtain ⟨code', hcode', hrequests⟩ := hfg.code hcode
    exact .field hg hcode' ((hrequests _).1 hr)
  | hook hf hcode hafter =>
    obtain ⟨g, hg, hfg⟩ := h.exists_field _ hf
    obtain ⟨code', hcode', -⟩ := hfg.code hcode
    exact .hook hg hcode' (by rw [hfg.afterValidation]; exact hafter)
  | message hm hcode hr => exact .message (h.mem_messages_iff.1 hm) hcode hr

theorem hookOf_ne_nil_iff {f : Field} {name : String} {r : Except EmissionError MemberCode}
    {p : Placed MemberCode} (h : Placed.ofResult ctx.policy name r = .ok p) :
    hookOf f p ≠ [] ↔ f.afterValidation.isSome ∧ ∃ code, r = .ok code := by
  cases p with
  | emitted code =>
    rw [Placed.ofResult_eq_emitted h]
    cases hafter : f.afterValidation <;> simp [hookOf, hafter]
  | omitted _ e =>
    rw [(Placed.ofResult_eq_omitted h).1]
    simp [hookOf]

/-- A class has hooks where an emitted field has a callback after validation. -/
theorem hooks_ne_nil_iff {emit : Field → Except EmissionError MemberCode} {part : List Field}
    (h : Placed.all ctx.policy Field.propertyKey emit part = .ok fields) :
    (List.zipWith hookOf part fields).flatten ≠ [] ↔
      ∃ f ∈ part, f.afterValidation.isSome ∧ ∃ code, emit f = .ok code := by
  have hall := Placed.all_eq_ok_iff.1 h
  clear h
  induction hall with
  | nil => simp
  | cons hp _ ih =>
    rw [List.zipWith_cons_cons, List.flatten_cons, ne_eq, List.append_eq_nil_iff, not_and_or,
      List.exists_mem_cons_iff]
    exact or_congr (hookOf_ne_nil_iff hp) ih

/-- The class and the messages of a module ask for what their parts ask for. -/
theorem mem_partRequests_iff (hfields : c.placedFields ctx [] = .ok fields)
    (hmessages : c.placedMessages ctx = .ok messages) {r : ImportRequest} :
    r ∈ (c.classAround ctx fields).requests ++
        (messages.filterMap Placed.code?).flatMap MessageCode.requests ↔ c.PartRequest ctx r := by
  have hhooks := hooks_ne_nil_iff hfields
  simp only [ClassCode.requests, classAround, List.mem_append, List.mem_flatMap, Option.mem_toList,
    Placed.mem_codes_iff hfields, Placed.mem_codes_iff hmessages, or_assoc]
  constructor
  · rintro (hr | ⟨code, hcode, hr⟩ | ⟨code, ⟨f, hf, hcode⟩, hr⟩ | hr | ⟨code, ⟨m, hm, hcode⟩, hr⟩)
    · obtain ⟨a, ha, rfl⟩ := List.mem_map.1 hr
      obtain ⟨hgraphql, ha⟩ := List.mem_ite_nil_right.1 ha
      rw [List.mem_singleton.1 ha]
      exact .model hgraphql
    · exact .identity hcode hr
    · exact .field hf hcode hr
    · obtain ⟨hsome, hr⟩ := List.mem_ite_nil_left.1 hr
      obtain ⟨f, hf, hafter, code, hcode⟩ := hhooks.1 fun hnil => hsome (List.isEmpty_iff.2 hnil)
      rw [List.mem_singleton.1 hr]
      exact .hook hf hcode hafter
    · exact .message hm hcode hr
  · intro h
    cases h with
    | model hgraphql =>
      left
      rw [if_pos hgraphql]
      exact List.mem_singleton.2 rfl
    | identity hcode hr => exact Or.inr (Or.inl ⟨_, hcode, hr⟩)
    | field hf hcode hr => exact Or.inr (Or.inr (Or.inl ⟨_, ⟨_, hf, hcode⟩, hr⟩))
    | hook hf hcode hafter =>
      have hsome := hhooks.2 ⟨_, hf, hafter, _, hcode⟩
      refine Or.inr (Or.inr (Or.inr (Or.inl (List.mem_ite_nil_left.2 ⟨?_, List.mem_singleton.2 rfl⟩))))
      exact fun hnil => hsome (List.isEmpty_iff.1 hnil)
    | message hm hcode hr => exact Or.inr (Or.inr (Or.inr (Or.inr ⟨_, ⟨_, hm, hcode⟩, hr⟩)))

/-- What a module without links imports: what its names and its own imports ask for, and then what
its parts ask for. -/
theorem moduleImports_of_unlinked (h : ∀ f ∈ c.fields, f.link = []) (classCode : ClassCode)
    (messages : List (Placed MessageCode)) :
    c.moduleImports contracts ctx resolver classCode messages =
      ((ImportSet.base ctx.coreImport).addAll
        ((if ctx.usesDocumentIdentity c.modelName then [.storage] else []) ++
          c.imports.flatMap moduleRequest)).addAll
        (classCode.requests ++ (messages.filterMap Placed.code?).flatMap MessageCode.requests) := by
  rw [moduleImports, linkedRequests_of_unlinked h, List.append_nil, List.append_assoc,
    ImportSet.addAll_append]

/-- A contract without links has a module exactly when it is well formed and, under the strict
policy, all of its parts can be emitted. -/
theorem exists_modelModule_iff (hlink : ∀ f ∈ c.fields, f.link = []) :
    (∃ m, c.modelModule contracts ctx resolver = .ok m) ↔
      c.check = .ok () ∧ (ctx.policy = .strict →
        (∀ f ∈ c.fields, ∃ code, f.code ctx none = .ok code) ∧
          ∀ m ∈ c.messages, ∃ code, m.code ctx.capabilities = .ok code) := by
  have hlinks : c.resolveLinks contracts = .ok [] := resolveFields_of_unlinked hlink
  have hfields : (∃ fields, c.placedFields ctx [] = .ok fields) ↔ (ctx.policy = .strict →
      ∀ f ∈ c.fields, ∃ code, f.code ctx none = .ok code) := Placed.exists_all_iff _
  have hmessages : (∃ messages, c.placedMessages ctx = .ok messages) ↔ (ctx.policy = .strict →
      ∀ m ∈ c.messages, ∃ code, m.code ctx.capabilities = .ok code) := Placed.exists_all_iff _
  rw [imp_and, ← hfields, ← hmessages]
  simp only [modelModule_eq_ok_iff, hlinks, Except.ok.injEq, exists_and_left, existsAndEq, true_and,
    and_true, exists_and_right]

/-- Reordered contracts without links have modules together. -/
theorem exists_modelModule_of_reorders (h : c.Reorders d) (hlink : ∀ f ∈ c.fields, f.link = [])
    {contracts' : List Contract} {resolver' : Resolver}
    (hc : ∃ m, c.modelModule contracts ctx resolver = .ok m) :
    ∃ n, d.modelModule contracts' ctx resolver' = .ok n := by
  obtain ⟨hcheck, hparts⟩ := (exists_modelModule_iff hlink).1 hc
  refine (exists_modelModule_iff (h.unlinked hlink)).2 ⟨h.check hcheck, fun hstrict => ?_⟩
  obtain ⟨hfields, hmessages⟩ := hparts hstrict
  constructor
  · intro g hg
    obtain ⟨f, hf, hgf⟩ := h.symm.exists_field g hg
    obtain ⟨code, hcode⟩ := hfields f hf
    obtain ⟨code', hcode', -⟩ := hgf.symm.code hcode
    exact ⟨code', hcode'⟩
  · exact fun m hm => hmessages m (h.mem_messages_iff.2 hm)

/-- **Modules of reordered contracts without links import the same.** -/
theorem imports_eq_of_reorders (h : c.Reorders d) (hlink : ∀ f ∈ c.fields, f.link = [])
    {contracts' : List Contract} {resolver' : Resolver} {m n : ModelModule}
    (hm : c.modelModule contracts ctx resolver = .ok m)
    (hn : d.modelModule contracts' ctx resolver' = .ok n) : m.imports = n.imports := by
  have hlink' := h.unlinked hlink
  have hname : d.modelName = c.modelName := by
    cases h
    rfl
  have himports : d.imports = c.imports := by
    cases h
    rfl
  have hnone {e : Contract} (he : ∀ f ∈ e.fields, f.link = []) (contracts : List Contract) :
      e.resolveLinks contracts = .ok [] := resolveFields_of_unlinked he
  obtain ⟨links, fields, messages, -, hlinks, hfields, hmessages, rfl⟩ := modelModule_eq_ok_iff.1 hm
  obtain ⟨links', fields', messages', -, hlinks', hfields', hmessages', rfl⟩ :=
    modelModule_eq_ok_iff.1 hn
  obtain rfl : [] = links := Except.ok.inj ((hnone hlink contracts).symm.trans hlinks)
  obtain rfl : [] = links' := Except.ok.inj ((hnone hlink' contracts').symm.trans hlinks')
  show c.moduleImports _ ctx _ _ _ = d.moduleImports _ ctx _ _ _
  rw [moduleImports_of_unlinked hlink, moduleImports_of_unlinked hlink', hname, himports]
  refine ImportSet.addAll_congr (fun r hr => ?_) fun r => ?_
  · rcases List.mem_append.1 hr with hr | hr
    · exact unordered_of_mem_class hfields r hr
    · exact unordered_of_mem_messages hmessages r hr
  · rw [mem_partRequests_iff hfields hmessages, mem_partRequests_iff hfields' hmessages']
    exact ⟨.of_reorders h, .of_reorders h.symm⟩

/-- **The import block does not depend on the order of declarations.** Reordered contracts without
links are emitted together or not at all, and their modules have one import block. -/
theorem imports_of_reorders (h : c.Reorders d) (hlink : ∀ f ∈ c.fields, f.link = [])
    (contracts contracts' : List Contract) (ctx : EmissionContext) (resolver resolver' : Resolver) :
    ((∃ t, c.emitModel contracts ctx resolver = .ok t) ↔
      ∃ t, d.emitModel contracts' ctx resolver' = .ok t) ∧
    ∀ t u, c.emitModel contracts ctx resolver = .ok t → d.emitModel contracts' ctx resolver' = .ok u →
      ∃ m n, c.modelModule contracts ctx resolver = .ok m ∧
        d.modelModule contracts' ctx resolver' = .ok n ∧ t = m.render ∧ u = n.render ∧
        m.imports.render = n.imports.render := by
  have hemit {e : Contract} {contracts : List Contract} {resolver : Resolver} :
      (∃ t, e.emitModel contracts ctx resolver = .ok t) ↔
        ∃ m, e.modelModule contracts ctx resolver = .ok m := by
    simp only [emitModel_eq_ok_iff]
    exact ⟨fun ⟨_, m, hm, _⟩ => ⟨m, hm⟩, fun ⟨m, hm⟩ => ⟨_, m, hm, rfl⟩⟩
  refine ⟨?_, fun t u ht hu => ?_⟩
  · rw [hemit, hemit]
    exact ⟨exists_modelModule_of_reorders h hlink,
      exists_modelModule_of_reorders h.symm (h.unlinked hlink)⟩
  · obtain ⟨m, hm, rfl⟩ := emitModel_eq_ok_iff.1 ht
    obtain ⟨n, hn, rfl⟩ := emitModel_eq_ok_iff.1 hu
    exact ⟨m, n, hm, hn, rfl, rfl, by rw [imports_eq_of_reorders h hlink hm hn]⟩

def checkedField : Field :=
  { Field.plain "amount" (.known .int32) with
    validations := [.ofKind (.name "IsInt"), .ofKind (.name "IsPositive")]
    decorators := [("Sanitize", ⟨"@lib/text", none⟩), ("Trim", ⟨"@contractc/core", none⟩)] }

def ordered : Contract :=
  { named "Order" "Order" with
    fields := [checkedField, Field.plain "placed" (.known .date)]
    messages := [⟨"Place", [("amount", .plain (.known .int32))]⟩, ⟨"Cancel", []⟩] }

/-- `checkedField`, declared the other way round. -/
def recheckedField : Field :=
  { checkedField with
    validations := [.ofKind (.name "IsPositive"), .ofKind (.name "IsInt")]
    decorators := [("Trim", ⟨"@contractc/core", none⟩), ("Sanitize", ⟨"@lib/text", none⟩)] }

/-- `ordered`, declared the other way round. -/
def reordered : Contract :=
  { ordered with
    fields := [Field.plain "placed" (.known .date), recheckedField]
    messages := [⟨"Cancel", []⟩, ⟨"Place", [("amount", .plain (.known .int32))]⟩] }

theorem imports_ordered_reordered :
    ordered.Reorders reordered ∧ (∀ f ∈ ordered.fields, f.link = []) ∧
      (∃ t, ordered.emitModel [ordered] fullContext nameResolver = .ok t) ∧
      ((∃ t, ordered.emitModel [ordered] fullContext nameResolver = .ok t) ↔
        ∃ t, reordered.emitModel [reordered] fullContext nameResolver = .ok t) ∧
      ∀ t u, ordered.emitModel [ordered] fullContext nameResolver = .ok t →
        reordered.emitModel [reordered] fullContext nameResolver = .ok u →
          ∃ m n, ordered.modelModule [ordered] fullContext nameResolver = .ok m ∧
            reordered.modelModule [reordered] fullContext nameResolver = .ok n ∧
            t = m.render ∧ u = n.render ∧ m.imports.render = n.imports.render := by
  have hvalidations : checkedField.validations.Perm recheckedField.validations :=
    List.Perm.swap _ _ []
  have hdecorators : checkedField.decorators.Perm recheckedField.decorators :=
    List.Perm.swap _ _ []
  have hfield : checkedField.Reorders recheckedField := .intro hvalidations hdecorators
  have hsame (f : Field) : f.Reorders f := .intro (List.Perm.refl _) (List.Perm.refl _)
  have hmessages : ordered.messages.Perm reordered.messages := List.Perm.swap _ _ []
  have horder : ordered.Reorders reordered :=
    .intro (List.Perm.swap _ _ []) (.cons (hsame _) (.cons hfield .nil)) hmessages
  have hlink : ∀ f ∈ ordered.fields, f.link = [] := by decide
  exact ⟨horder, hlink, ⟨_, rfl⟩, imports_of_reorders horder hlink [ordered] [reordered] fullContext
    nameResolver nameResolver⟩

end Contract

end ContractCompiler
