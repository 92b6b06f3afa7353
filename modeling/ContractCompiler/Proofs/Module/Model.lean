import ContractCompiler.Module.Model
import ContractCompiler.Proofs.Module.Placed
import ContractCompiler.Proofs.Text.BlankLines

/-!
# The steps of emission

A module comes about in four steps: the contract is checked, its links are resolved, its fields and
its messages are emitted. `Contract.moduleAround` puts the results together and cannot fail.

* `modelModule_eq_ok_iff` — emission succeeds exactly when the four steps do.
* `modelModule_eq_error_iff` — it fails with the failure of the first step that fails.
* `exists_toList_render` — the first line of a module names the contract that it came from.
* `generatedName_eq_of_emitModel_eq` — contracts with one module text have one generated name.
-/

namespace ContractCompiler.Contract

/-- The contract is refused before any of its parts is emitted. -/
inductive Refused (c : Contract) (contracts : List Contract) : SchemaError → Prop where
  | check {e : SchemaError} (hcheck : c.check = .error e) : Refused c contracts e
  | links {e : SchemaError} (hcheck : c.check = .ok ())
      (hlinks : c.resolveLinks contracts = .error e) : Refused c contracts e

variable {c : Contract} {contracts : List Contract} {ctx : EmissionContext} {resolver : Resolver}

/-- The fields of a contract in the class of its model. -/
def placedFields (c : Contract) (ctx : EmissionContext) (links : Table LinkTarget) :
    Except EmissionError (List (Placed MemberCode)) :=
  Placed.all ctx.policy Field.propertyKey (fun f => f.code ctx (links.get? f.propertyKey)) c.fields

/-- The messages of a contract in its module. -/
def placedMessages (c : Contract) (ctx : EmissionContext) :
    Except EmissionError (List (Placed MessageCode)) :=
  Placed.all ctx.policy Message.name (fun m => m.code ctx.capabilities) c.messages

/-- The class of a model around its emitted fields. -/
def classAround (c : Contract) (ctx : EmissionContext) (fields : List (Placed MemberCode)) :
    ClassCode where
  model := c.modelName
  interfaceName := c.interfaceName
  decorations := if ctx.capabilities.graphql then [⟨.graphql, "ObjectType", ""⟩] else []
  identity := c.identityCode ctx
  fields := fields
  hooks := (List.zipWith hookOf c.fields fields).flatten

/-- The module of a contract around its emitted fields and messages. -/
def moduleAround (c : Contract) (contracts : List Contract) (ctx : EmissionContext)
    (resolver : Resolver) (links : Table LinkTarget) (fields : List (Placed MemberCode))
    (messages : List (Placed MessageCode)) : ModelModule where
  generatedName := c.generatedName
  model := c.modelName
  imports := c.moduleImports contracts ctx resolver (c.classAround ctx fields) messages
  interfaceCode := c.interfaceCode ctx links
  classCode := c.classAround ctx fields
  schema := c.schemaStructure links ctx
  messages := messages

theorem classCode_eq (links : Table LinkTarget) :
    c.classCode ctx links = (c.placedFields ctx links).map (c.classAround ctx) := by
  unfold classCode placedFields
  split
  · rename_i h
    rw [h]
    rfl
  · rename_i h
    rw [h]
    rfl

/-- **A module comes about in four steps**, and is put together from their results. -/
theorem modelModule_eq_ok_iff {m : ModelModule} :
    c.modelModule contracts ctx resolver = .ok m ↔
      ∃ links fields messages, c.check = .ok () ∧ c.resolveLinks contracts = .ok links ∧
        c.placedFields ctx links = .ok fields ∧ c.placedMessages ctx = .ok messages ∧
        m = c.moduleAround contracts ctx resolver links fields messages := by
  unfold modelModule
  constructor
  · intro h
    split at h
    · cases h
    rename_i hcheck
    split at h
    · cases h
    rename_i links hlinks
    split at h
    · cases h
    rename_i classCode hclass
    split at h
    · cases h
    rename_i messages hmessages
    rw [classCode_eq] at hclass
    cases hfields : c.placedFields ctx links with
    | error e =>
      rw [hfields] at hclass
      cases hclass
    | ok fields =>
      rw [hfields] at hclass
      cases hclass
      cases h
      exact ⟨links, fields, messages, hcheck, hlinks, hfields, hmessages, rfl⟩
  · rintro ⟨links, fields, messages, hcheck, hlinks, hfields, hmessages, rfl⟩
    have hclass : c.classCode ctx links = .ok (c.classAround ctx fields) := by
      rw [classCode_eq, hfields]
      rfl
    unfold placedMessages at hmessages
    simp only [hcheck, hlinks, hclass, hmessages]
    rfl

/-- The failures of a module: one of its four steps, after those before it have succeeded. -/
theorem modelModule_eq_error_iff {e : Failure} :
    c.modelModule contracts ctx resolver = .error e ↔
      (∃ s, c.Refused contracts s ∧ e = .schema s) ∨
        ∃ links, c.check = .ok () ∧ c.resolveLinks contracts = .ok links ∧
          ((∃ s, c.placedFields ctx links = .error s ∧ e = .emission s) ∨
            ∃ fields s, c.placedFields ctx links = .ok fields ∧ c.placedMessages ctx = .error s ∧
              e = .emission s) := by
  unfold modelModule
  constructor
  · intro h
    split at h
    · rename_i s hs
      cases h
      exact Or.inl ⟨s, .check hs, rfl⟩
    rename_i hcheck
    split at h
    · rename_i s hs
      cases h
      exact Or.inl ⟨s, .links hcheck hs, rfl⟩
    rename_i links hlinks
    refine Or.inr ⟨links, hcheck, hlinks, ?_⟩
    rw [classCode_eq] at h
    cases hfields : c.placedFields ctx links with
    | error s =>
      simp only [hfields, Except.map, Except.error.injEq] at h
      exact Or.inl ⟨s, rfl, h.symm⟩
    | ok fields =>
      simp only [hfields, Except.map] at h
      split at h
      · rename_i s hs
        cases h
        exact Or.inr ⟨fields, s, rfl, hs, rfl⟩
      · cases h
  · rintro (⟨s, hs | ⟨hcheck, hs⟩, rfl⟩ | ⟨links, hcheck, hlinks, hparts⟩)
    · simp only [*]
    · simp only [*]
    · simp only [hcheck, hlinks, classCode_eq]
      rcases hparts with ⟨s, hfields, rfl⟩ | ⟨fields, s, hfields, hmessages, rfl⟩
      · simp only [hfields, Except.map]
      · unfold placedMessages at hmessages
        simp only [hfields, Except.map, hmessages]

theorem emitModel_eq_ok_iff {t : String} :
    c.emitModel contracts ctx resolver = .ok t ↔
      ∃ m, c.modelModule contracts ctx resolver = .ok m ∧ t = m.render := by
  unfold emitModel
  split
  · rename_i h
    simp [h]
  · rename_i m h
    simp [h, eq_comm]

theorem emitModel_eq_error_iff {e : Failure} :
    c.emitModel contracts ctx resolver = .error e ↔ c.modelModule contracts ctx resolver = .error e := by
  unfold emitModel
  split
  · rename_i h
    simp [h]
  · rename_i m h
    simp [h]

end ContractCompiler.Contract

namespace ContractCompiler

/-! ## The first line -/

namespace ModelModule

variable {m n : ModelModule}

def headline (m : ModelModule) : String :=
  "// Generated from " ++ m.generatedName ++ ". Do not edit."

theorem toList_headline (m : ModelModule) :
    m.headline.toList =
      "// Generated from ".toList ++ m.generatedName.toList ++ ". Do not edit.".toList := by
  unfold headline
  rw [String.toList_append, String.toList_append]

theorem newline_notMem_headline (h : '\n' ∉ m.generatedName.toList) :
    '\n' ∉ m.headline.toList := by
  have hfront : '\n' ∉ "// Generated from ".toList := by decide
  have hback : '\n' ∉ ". Do not edit.".toList := by decide
  rw [toList_headline, List.mem_append, List.mem_append]
  exact fun hm => hm.elim (fun hm => hm.elim hfront h) hback

theorem generatedName_eq_of_headline_eq (h : m.headline.toList = n.headline.toList) :
    m.generatedName = n.generatedName := by
  rw [toList_headline, toList_headline] at h
  exact String.toList_inj.1 (List.append_cancel_left (List.append_cancel_right h))

/-- **The first line of a module names its contract**, when the name stays on one line. -/
theorem exists_toList_render (h : '\n' ∉ m.generatedName.toList) :
    ∃ tail, m.render.toList = m.headline.toList ++ '\n' :: tail := by
  have hcode : ∀ back : String,
      ("// Generated from " ++ (m.generatedName ++ (". Do not edit.\n\n" ++ back))).toList =
        m.headline.toList ++ '\n' :: '\n' :: back.toList := by
    intro back
    have hline : ". Do not edit.\n\n".toList = ". Do not edit.".toList ++ ['\n', '\n'] := by decide
    rw [toList_headline, String.toList_append, String.toList_append, String.toList_append, hline]
    simp only [List.append_assoc, List.cons_append, List.nil_append]
  have hhead : ∃ c ∈ m.headline.toList.head?, Text.isBlank c = false := by
    refine ⟨'/', ?_, by decide⟩
    have hfront : "// Generated from ".toList.head? = some '/' := by decide
    rw [toList_headline, List.append_assoc, List.head?_append, hfront]
    rfl
  have hlast : ∃ c ∈ m.headline.toList.getLast?, Text.isBlank c = false := by
    refine ⟨'.', ?_, by decide⟩
    have hback : ". Do not edit.".toList.getLast? = some '.' := by decide
    rw [toList_headline, List.getLast?_append, hback]
    rfl
  unfold render
  simp only [String.append_assoc]
  exact Text.exists_toList_normalized (hcode _) (newline_notMem_headline h) hhead hlast

end ModelModule

namespace Contract

variable {c d : Contract} {contracts : List Contract} {ctx : EmissionContext} {resolver : Resolver}

theorem generatedName_of_modelModule {m : ModelModule}
    (h : c.modelModule contracts ctx resolver = .ok m) : m.generatedName = c.generatedName := by
  obtain ⟨links, fields, messages, -, -, -, -, rfl⟩ := modelModule_eq_ok_iff.1 h
  rfl

/-- **Contracts with one module text have one generated name**, when the names stay on one line. -/
theorem generatedName_eq_of_emitModel_eq {code : String} (hc : '\n' ∉ c.generatedName.toList)
    (hd : '\n' ∉ d.generatedName.toList) (h : c.emitModel contracts ctx resolver = .ok code)
    (h' : d.emitModel contracts ctx resolver = .ok code) : c.generatedName = d.generatedName := by
  obtain ⟨m, hm, rfl⟩ := emitModel_eq_ok_iff.1 h
  obtain ⟨n, hn, hrender⟩ := emitModel_eq_ok_iff.1 h'
  rw [← generatedName_of_modelModule hm] at hc ⊢
  rw [← generatedName_of_modelModule hn] at hd ⊢
  obtain ⟨tail, htail⟩ := ModelModule.exists_toList_render hc
  obtain ⟨tail', htail'⟩ := ModelModule.exists_toList_render hd
  have htext : m.headline.toList ++ '\n' :: tail = n.headline.toList ++ '\n' :: tail' := by
    rw [← htail, ← htail', hrender]
  exact ModelModule.generatedName_eq_of_headline_eq
    (Text.eq_of_append_newline_eq (ModelModule.newline_notMem_headline hc)
      (ModelModule.newline_notMem_headline hd) htext)

end Contract

end ContractCompiler
