import Mathlib.Data.List.Dedup
import Mathlib.Data.List.Sort
import Mathlib.Logic.Relation
import Mathlib.Order.Extension.Linear
import ContractCompiler.Proofs.Module.Closure

/-!
# References between schema structures

The structure of a model is a constant of its module, and the structures that it refers to have to
be made before it. Each module is emitted on its own, so whether the structures of a set can be made
in any order at all is a property of all its links together.

* `mem_references_iff` — a structure refers to those of the models that its contract's fields are
  linked to, its own left out.
* `refersTo_iff` — the references of a set of modules are its links between different models.
* `exists_evaluationOrder_iff` — there is an order exactly when the references have no cycle.
* `evaluable_iff_of_emitModel` — there is an order exactly when those links have no cycle.
-/

namespace ContractCompiler

/-! ## The references of a structure -/

namespace SchemaNode

mutual

/-- The names in scope that a node refers to, as often as it does. -/
def references : SchemaNode → List String
  | object members => memberReferences members
  | array items => itemReferences items
  | value _ => []
  | ref name => [name]

def itemReferences : List SchemaNode → List String
  | [] => []
  | x :: rest => references x ++ itemReferences rest

def memberReferences : List (String × SchemaNode) → List String
  | [] => []
  | (_, x) :: rest => references x ++ memberReferences rest

end

@[simp] theorem references_text (s : String) : (text s).references = [] := rfl

@[simp] theorem references_flag (b : Bool) : (flag b).references = [] := rfl

@[simp] theorem references_value (v : Json) : (value v).references = [] := rfl

@[simp] theorem references_ref (name : String) : (ref name).references = [name] := rfl

@[simp] theorem references_array (items : List SchemaNode) :
    (array items).references = items.flatMap references := by
  rw [references]
  induction items with
  | nil => rfl
  | cons x rest ih => rw [itemReferences, ih, List.flatMap_cons]

@[simp] theorem references_object (members : List (String × SchemaNode)) :
    (object members).references = members.flatMap fun m => m.2.references := by
  rw [references]
  induction members with
  | nil => rfl
  | cons m rest ih => rw [memberReferences, ih, List.flatMap_cons]

end SchemaNode

theorem structureName_inj {a b : String} : structureName a = structureName b ↔ a = b := by
  constructor
  · intro h
    have hlist := congrArg String.toList h
    unfold structureName at hlist
    rw [String.toList_append, String.toList_append] at hlist
    exact String.toList_inj.1 (List.append_cancel_right hlist)
  · rintro rfl
    rfl

namespace Field

theorem references_plainSchema (f : Field) : f.plainSchema.references = [] := by
  have hdefault : (f.defaultMembers.flatMap fun m => m.2.references) = [] := by
    unfold defaultMembers
    cases f.defaultValue <;> rfl
  unfold plainSchema typeNode
  cases f.itemType <;> simp [hdefault]

/-- The schema of a field refers to the structure of the model behind its link, unless that is the
structure that is being made. -/
theorem mem_references_schema {f : Field} {link : Option LinkTarget} {model name : String} :
    name ∈ (f.schema link model).references ↔
      ∃ target, link.map LinkTarget.model = some target ∧ target ≠ model ∧
        structureName target = name := by
  cases link with
  | none => simp [schema, references_plainSchema]
  | some target =>
    have hschema : (f.schema (some target) model).references =
        (entitySchema target model).references := by
      rw [schema, linkedSchema]
      split <;> simp
    rw [hschema, entitySchema]
    by_cases h : target.model = model <;> simp [h, @eq_comm _ name]

end Field

namespace Contract

variable {c : Contract} {contracts : List Contract} {ctx : EmissionContext} {resolver : Resolver}

theorem references_schemaStructure (c : Contract) (links : Table LinkTarget) (ctx : EmissionContext) :
    (c.schemaStructure links ctx).references =
      c.fields.flatMap fun f =>
        (f.schema (links.get? f.propertyKey) c.modelName).references := by
  have hidentity : ((ctx.identityKey c.modelName).toList.map fun id =>
      (id, identitySchema)).flatMap (fun m => m.2.references) = [] := by
    cases ctx.identityKey c.modelName <;> rfl
  have hrequired : ((c.requiredKeys ctx).map SchemaNode.text).flatMap SchemaNode.references = [] := by
    simp [List.flatMap_map]
  simp [schemaStructure, schemaProperties, hidentity, hrequired, List.flatMap_map]

theorem model_of_modelModule {m : ModelModule}
    (hm : c.modelModule contracts ctx resolver = .ok m) : m.model = c.modelName := by
  obtain ⟨links, fields, messages, -, -, -, -, rfl⟩ := modelModule_eq_ok_iff.1 hm
  rfl

/-- **A structure refers to those of the models that its contract is linked to**, its own left
out. -/
theorem mem_references_iff {m : ModelModule} (hm : c.modelModule contracts ctx resolver = .ok m)
    {name : String} :
    name ∈ m.schema.references ↔
      ∃ f ∈ c.fields, ∃ t, linkTarget? contracts f = some t ∧ t.modelName ≠ c.modelName ∧
        structureName t.modelName = name := by
  obtain ⟨links, fields, messages, hcheck, hlinks, -, -, rfl⟩ := modelModule_eq_ok_iff.1 hm
  rw [moduleAround, references_schemaStructure, List.mem_flatMap]
  refine exists_congr fun f => and_congr_right fun hf => ?_
  rw [Field.mem_references_schema, map_model_of_entry (get?_resolveLinks hcheck hlinks hf)]
  simp only [Option.map_eq_some_iff]
  constructor
  · rintro ⟨-, ⟨t, ht, rfl⟩, hown, hname⟩
    exact ⟨t, ht, hown, hname⟩
  · rintro ⟨t, ht, hown, hname⟩
    exact ⟨_, ⟨t, ht, rfl⟩, hown, hname⟩

/-! ## The references of a set of modules -/

/-- In the modules of a set, the structure of model `a` refers to that of model `b`. -/
def RefersTo (contracts : List Contract) (ctx : EmissionContext) (resolver : Resolver)
    (a b : String) : Prop :=
  ∃ c ∈ contracts, ∃ m, c.modelModule contracts ctx resolver = .ok m ∧ m.model = a ∧
    structureName b ∈ m.schema.references

/-- A contract of model `a` has a field that is linked to a contract of another model, `b`. -/
def LinksTo (contracts : List Contract) (a b : String) : Prop :=
  a ≠ b ∧ ∃ c ∈ contracts, c.modelName = a ∧
    ∃ f ∈ c.fields, ∃ t, linkTarget? contracts f = some t ∧ t.modelName = b

theorem linksTo_of_refersTo {a b : String} (h : RefersTo contracts ctx resolver a b) :
    LinksTo contracts a b := by
  obtain ⟨c, hc, m, hm, rfl, href⟩ := h
  obtain ⟨f, hf, t, ht, hown, hname⟩ := (mem_references_iff hm).1 href
  obtain rfl := structureName_inj.1 hname
  rw [model_of_modelModule hm]
  exact ⟨hown.symm, c, hc, rfl, f, hf, t, ht, rfl⟩

/-- **The references of a set of modules are its links between different models.** -/
theorem refersTo_iff (hemits : ∀ c ∈ contracts, ∃ t, c.emitModel contracts ctx resolver = .ok t)
    {a b : String} : RefersTo contracts ctx resolver a b ↔ LinksTo contracts a b := by
  refine ⟨linksTo_of_refersTo, ?_⟩
  rintro ⟨hne, c, hc, rfl, f, hf, t, ht, rfl⟩
  obtain ⟨text, htext⟩ := hemits c hc
  obtain ⟨m, hm, -⟩ := emitModel_eq_ok_iff.1 htext
  have href : structureName t.modelName ∈ m.schema.references :=
    (mem_references_iff hm).2 ⟨f, hf, t, ht, hne.symm, rfl⟩
  exact ⟨c, hc, m, hm, model_of_modelModule hm, href⟩

/-! ## Orders of evaluation -/

/-- An order in which the structures of a set can be made: each of them once, and none before one
that it refers to. -/
structure EvaluationOrder (contracts : List Contract) (ctx : EmissionContext) (resolver : Resolver)
    (order : List String) : Prop where
  once : order.Nodup
  complete : ∀ c ∈ contracts, c.modelName ∈ order
  ready : order.Pairwise fun earlier later => ¬RefersTo contracts ctx resolver earlier later

/-- What a structure refers to comes before it. -/
theorem EvaluationOrder.idxOf_lt {order : List String}
    (h : EvaluationOrder contracts ctx resolver order) {a b : String}
    (href : RefersTo contracts ctx resolver a b) : order.idxOf b < order.idxOf a := by
  obtain ⟨hne, c, hc, rfl, f, -, t, ht, rfl⟩ := linksTo_of_refersTo href
  have ha := h.complete c hc
  have hb := h.complete t (mem_of_linkTarget? ht)
  -- otherwise the two would stand in the order that is ruled out
  by_contra hnot
  have hdiffer : order.idxOf c.modelName ≠ order.idxOf t.modelName := fun he =>
    hne (List.idxOf_inj ha |>.1 he)
  have hlt : order.idxOf c.modelName < order.idxOf t.modelName := by omega
  have hready := List.pairwise_iff_getElem.1 h.ready _ _ (List.idxOf_lt_length_of_mem ha)
    (List.idxOf_lt_length_of_mem hb) hlt
  rw [List.getElem_idxOf, List.getElem_idxOf] at hready
  exact hready href

/-- Where there is an order of evaluation, the references have no cycle. -/
theorem EvaluationOrder.acyclic {order : List String}
    (h : EvaluationOrder contracts ctx resolver order) (a : String) :
    ¬Relation.TransGen (RefersTo contracts ctx resolver) a a := by
  have hlt : ∀ {b}, Relation.TransGen (RefersTo contracts ctx resolver) a b →
      order.idxOf b < order.idxOf a := by
    intro b hpath
    induction hpath with
    | single href => exact h.idxOf_lt href
    | tail _ href ih => exact (h.idxOf_lt href).trans ih
  exact fun hcycle => absurd (hlt hcycle) (Nat.lt_irrefl _)

/-- Names among which a relation has no cycle can be listed so that none comes before one that it is
related to. -/
theorem exists_order_of_acyclic {r : String → String → Prop} (names : List String)
    (hacyclic : ∀ a, ¬Relation.TransGen r a a) :
    ∃ order : List String, order.Nodup ∧ (∀ a ∈ names, a ∈ order) ∧
      order.Pairwise fun earlier later => ¬r earlier later := by
  classical
  -- paths backwards are a partial order, and a list sorted by a linear order around it will do
  have hpartial : IsPartialOrder String fun a b => Relation.ReflTransGen r b a :=
    { refl := fun _ => .refl
      trans := fun _ _ _ hab hbc => hbc.trans hab
      antisymm := by
        intro a b hba hab
        rcases Relation.reflTransGen_iff_eq_or_transGen.1 hab with heq | hab
        · exact heq.symm
        · exact absurd (hab.trans_left hba) (hacyclic a) }
  obtain ⟨s, hlinear, hle⟩ := extend_partialOrder fun a b => Relation.ReflTransGen r b a
  have hnodup : (names.dedup.insertionSort s).Nodup :=
    (List.perm_insertionSort s names.dedup).nodup_iff.2 (List.nodup_dedup names)
  refine ⟨names.dedup.insertionSort s, hnodup, fun a ha => ?_, ?_⟩
  · exact (List.mem_insertionSort s).2 (List.mem_dedup.2 ha)
  · refine ((List.pairwise_insertionSort s names.dedup).and hnodup).imp ?_
    rintro earlier later ⟨hs, hne⟩ hr
    exact hne (hlinear.antisymm _ _ hs (hle _ _ (.single hr)))

/-- **The structures of a set can be made in some order exactly when their references have no
cycle.** -/
theorem exists_evaluationOrder_iff :
    (∃ order, EvaluationOrder contracts ctx resolver order) ↔
      ∀ a, ¬Relation.TransGen (RefersTo contracts ctx resolver) a a := by
  constructor
  · rintro ⟨order, horder⟩
    exact horder.acyclic
  · intro hacyclic
    obtain ⟨order, honce, hcomplete, hready⟩ :=
      exists_order_of_acyclic (contracts.map modelName) hacyclic
    exact ⟨order, honce, fun c hc => hcomplete _ (List.mem_map_of_mem hc), hready⟩

/-- **The structures of a set can be made in some order exactly when the links between its models have
no cycle.** A link of a model to itself is no reference, but links back and forth between two models
are. -/
theorem evaluable_iff_of_emitModel
    (hemits : ∀ c ∈ contracts, ∃ t, c.emitModel contracts ctx resolver = .ok t) :
    (∀ a b, RefersTo contracts ctx resolver a b ↔ LinksTo contracts a b) ∧
      ((∀ a, ¬Relation.TransGen (RefersTo contracts ctx resolver) a a) ↔
        ∀ a, ¬Relation.TransGen (LinksTo contracts) a a) ∧
      ((∃ order, EvaluationOrder contracts ctx resolver order) ↔
        ∀ a, ¬Relation.TransGen (LinksTo contracts) a a) := by
  have hrefers : RefersTo contracts ctx resolver = LinksTo contracts := by
    funext a b
    exact propext (refersTo_iff hemits)
  refine ⟨fun a b => refersTo_iff hemits, ?_, ?_⟩
  · rw [hrefers]
  · rw [exists_evaluationOrder_iff, hrefers]

def linkField (key target : String) : Field :=
  { Field.plain key (.known .string) with link := [.to target] }

def folder : Contract := { named "Folder" "Folder" with fields := [linkField "parent" "Folder"] }

def document : Contract := { named "Document" "Document" with fields := [linkField "folder" "Folder"] }

theorem evaluable_iff_documents :
    (∀ c ∈ [document, folder], ∃ t, c.emitModel [document, folder] fullContext nameResolver = .ok t) ∧
      (∀ a b, RefersTo [document, folder] fullContext nameResolver a b ↔
        LinksTo [document, folder] a b) ∧
      ((∀ a, ¬Relation.TransGen (RefersTo [document, folder] fullContext nameResolver) a a) ↔
        ∀ a, ¬Relation.TransGen (LinksTo [document, folder]) a a) ∧
      ((∃ order, EvaluationOrder [document, folder] fullContext nameResolver order) ↔
        ∀ a, ¬Relation.TransGen (LinksTo [document, folder]) a a) := by
  have hemits : ∀ c ∈ [document, folder],
      ∃ t, c.emitModel [document, folder] fullContext nameResolver = .ok t := by
    intro c hc
    rcases List.mem_pair.1 hc with rfl | rfl
    · exact ⟨_, rfl⟩
    · exact ⟨_, rfl⟩
  exact ⟨hemits, evaluable_iff_of_emitModel hemits⟩

/-! ## Links back and forth -/

def book : Contract := { named "Book" "Book" with fields := [linkField "author" "Author"] }

def author : Contract := { named "Author" "Author" with fields := [linkField "favourite" "Book"] }

/-- Two contracts that link to each other are emitted, with structures that refer to each other. -/
theorem cyclic_author_book :
    (∀ c ∈ [author, book], ∃ t, c.emitModel [author, book] fullContext nameResolver = .ok t) ∧
      Relation.TransGen (RefersTo [author, book] fullContext nameResolver) "Author" "Author" ∧
      ¬∃ order, EvaluationOrder [author, book] fullContext nameResolver order := by
  have hforth : RefersTo [author, book] fullContext nameResolver "Author" "Book" :=
    ⟨author, List.mem_cons_self, _, rfl, rfl, by decide⟩
  have hback : RefersTo [author, book] fullContext nameResolver "Book" "Author" :=
    ⟨book, List.mem_cons_of_mem _ List.mem_cons_self, _, rfl, rfl, by decide⟩
  have hcycle : Relation.TransGen (RefersTo [author, book] fullContext nameResolver) "Author" "Author" :=
    .tail (.single hforth) hback
  refine ⟨?_, hcycle, fun horder => exists_evaluationOrder_iff.1 horder _ hcycle⟩
  intro c hc
  rcases List.mem_pair.1 hc with rfl | rfl
  · exact ⟨_, rfl⟩
  · exact ⟨_, rfl⟩

end Contract

end ContractCompiler
