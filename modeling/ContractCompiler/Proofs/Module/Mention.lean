import ContractCompiler.Module.Field

/-!
# Names that emission writes into a field

A name is written into a text when it occurs there. What a contract gives as text may hold any name;
what emission itself writes is asked for by the field that it is written for.

* `core_callbacks_mem_needs` — the callback table, in decorations.
* `storage_mem_extraNeeds` — the identity type of the store, in declarations.
-/

namespace ContractCompiler

/-! ## Names in texts -/

/-- The name occurs in the text. -/
def Text.Mentions (text name : String) : Prop := name.toList <:+: text.toList

namespace Text

theorem Mentions.mem {text name : String} (h : Mentions text name) {ch : Char}
    (hch : ch ∈ name.toList) : ch ∈ text.toList := h.subset hch

/-- A text that goes on with a character foreign to the name mentions it before or after that
character only. -/
theorem infix_of_infix_append_cons {name front tail : List Char} {ch : Char} (hch : ch ∉ name)
    (h : name <:+: front ++ ch :: tail) : name <:+: front ∨ name <:+: tail := by
  rcases List.infix_append_iff.1 h with h | h | ⟨l, r, rfl, hl, hr⟩
  · exact Or.inl h
  · rcases List.infix_cons_iff.1 h with h | h
    · cases name with
      | nil => exact Or.inr List.nil_infix
      | cons x xs =>
        obtain ⟨rfl, -⟩ := List.cons_prefix_cons.1 h
        exact absurd List.mem_cons_self hch
    · exact Or.inr h
  · left
    cases r with
    | nil => simpa using hl.isInfix
    | cons x xs =>
      obtain ⟨rfl, -⟩ := List.cons_prefix_cons.1 hr
      exact absurd (List.mem_append_right _ List.mem_cons_self) hch

end Text

/-! ## What the code of a field writes -/

/-- The decorations that a contract asks for have the names and the sources it gives. -/
theorem Field.exists_of_mem_decorationsOf {key : String} {t : Table Decorator}
    {decorations : List Decoration} (h : Field.decorationsOf key t = .ok decorations) {a : Decoration}
    (ha : a ∈ decorations) : ∃ d ∈ t, a.name = d.1 ∧ a.source = .custom d.2.source := by
  induction t generalizing decorations with
  | nil =>
    cases h
    cases ha
  | cons d rest ih =>
    unfold decorationsOf at h
    split at h
    · split at h
      · cases h
      · rename_i hrest
        cases h
        rcases List.mem_cons.1 ha with rfl | ha
        · exact ⟨d, List.mem_cons_self, rfl, rfl⟩
        · obtain ⟨e, he, hnames⟩ := ih hrest ha
          exact ⟨e, List.mem_cons_of_mem _ he, hnames⟩
    · cases h

/-- The decorations of validations have the names of these and come from the validator. -/
theorem Validation.exists_of_mem_decorations {key : String} {vs : List Validation}
    {decorations : List Decoration} (h : Validation.decorations key vs = .ok decorations)
    {a : Decoration} (ha : a ∈ decorations) :
    ∃ v ∈ vs, v.name? = some a.name ∧ a.source = .validator := by
  induction vs generalizing decorations with
  | nil =>
    cases h
    cases ha
  | cons v rest ih =>
    unfold Validation.decorations at h
    split at h
    · cases h
    · rename_i b hb
      split at h
      · cases h
      · rename_i hrest
        cases h
        rcases List.mem_cons.1 ha with rfl | ha
        · unfold decoration at hb
          split at hb
          · cases hb
          · rename_i hname
            split at hb
            · cases hb
              exact ⟨v, List.mem_cons_self, hname, rfl⟩
            · cases hb
        · obtain ⟨w, hw, hnames⟩ := ih hrest ha
          exact ⟨w, List.mem_cons_of_mem _ hw, hnames⟩

namespace Field

variable {f : Field} {ctx : EmissionContext} {link : Option LinkTarget} {code : MemberCode}

/-- The code of a field that can be emitted, part by part. -/
theorem code_eq_ok (h : f.code ctx link = .ok code) :
    ∃ decorators validations, decorationsOf f.propertyKey f.decorators = .ok decorators ∧
      Validation.decorations f.propertyKey f.validations = .ok validations ∧
      code.decorations = [f.exposure] ++ f.constraints ++ decorators ++ validations ++
        f.documentation ctx.capabilities (f.docType link) ++ f.callbacks ∧
      code.declaration = ⟨f.propertyKey, f.isOptional, f.memberType ctx link, f.initial⟩ ∧
      code.needs = f.extraNeeds ctx link := by
  unfold Field.code at h
  split at h
  · cases h
  · split at h
    · cases h
    · split at h
      · cases h
      · rename_i decorators hd
        split at h
        · cases h
        · rename_i validations hv
          cases h
          exact ⟨decorators, validations, hd, hv, rfl, rfl, rfl⟩

/-- Where emission names the callback table in a decoration, the field has a callback. -/
theorem core_callbacks_mem_needs (h : f.code ctx link = .ok code) {a : Decoration}
    (ha : a ∈ code.decorations) (hsource : a.source = .transformer)
    (hmention : Text.Mentions a.arguments "Callbacks") : .core "Callbacks" ∈ code.needs := by
  obtain ⟨decorators, validations, hd, hv, hdecorations, -, hneeds⟩ := code_eq_ok h
  have hC : 'C' ∈ a.arguments.toList := hmention.mem (by decide)
  rw [hdecorations] at ha
  simp only [List.mem_append, List.mem_singleton, or_assoc] at ha
  rcases ha with rfl | ha | ha | ha | ha | ha
  · revert hC
    unfold exposure
    split
    · split <;> simp
    · simp [Decoration.expose]
  · revert hC
    unfold constraints at ha
    simp only [List.mem_append, List.mem_ite_nil_right, List.mem_singleton, or_assoc] at ha
    rcases ha with ⟨-, rfl⟩ | ⟨-, rfl⟩ | ⟨-, rfl⟩ <;> simp
  · obtain ⟨d, -, -, hs⟩ := exists_of_mem_decorationsOf hd ha
    rw [hs] at hsource
    cases hsource
  · obtain ⟨v, -, -, hs⟩ := Validation.exists_of_mem_decorations hv ha
    rw [hs] at hsource
    cases hsource
  · unfold documentation at ha
    simp only [List.mem_append, List.mem_ite_nil_right, List.mem_singleton] at ha
    rcases ha with ⟨-, rfl⟩ | ⟨-, rfl⟩
    · revert hsource
      split <;> simp [Decoration.apiProperty]
    · simp [Decoration.graphField] at hsource
  · rw [hneeds]
    unfold callbacks callback at ha
    unfold extraNeeds
    cases ht : f.transform with
    | some => simp
    | none =>
      cases hp : f.toPlain with
      | some => simp
      | none => simp [ht, hp] at ha

end Field

namespace LinkTarget

/-- A linked type without the identity type of the store, as characters: the model, a character that
no name holds, and a rest of the emitter's own. -/
theorem toList_declaredType (target : LinkTarget) :
    (target.declaredType false).toList = target.model.toList ++
      (if target.many then '[' :: "] | string[] | null".toList
        else ' ' :: "| string | null".toList) := by
  have htype : target.declaredType false =
      target.model ++ (if target.many then "[]" else "") ++ " | " ++
        ("string" ++ if target.many then "[]" else "") ++ " | " ++ "null" := rfl
  rw [htype]
  cases target.many <;> simp

/-- A linked type names the identity type of the store only where it is asked to, apart from what
the model is called. -/
theorem mentions_of_declaredType {target : LinkTarget}
    (h : Text.Mentions (target.declaredType false) "ObjectId") :
    Text.Mentions target.model "ObjectId" := by
  unfold Text.Mentions at h ⊢
  rw [toList_declaredType] at h
  have hI : 'I' ∈ "ObjectId".toList := by decide
  cases hmany : target.many with
  | false =>
    rw [hmany] at h
    rcases Text.infix_of_infix_append_cons (by decide) h with h | h
    · exact h
    · exact absurd (h.subset hI) (by decide)
  | true =>
    rw [hmany] at h
    rcases Text.infix_of_infix_append_cons (by decide) h with h | h
    · exact h
    · exact absurd (h.subset hI) (by decide)

end LinkTarget

/-! ## What the contract itself gives as a type -/

/-- The types that a type tag stands for are free of capital `O`. -/
theorem TypeTag.not_mem_target (t : TypeTag) : 'O' ∉ t.target.toList := by
  induction t with
  | known k => cases k <;> decide
  | list item ih => simpa [target] using ih
  | other name => simp [target]

theorem mentions_of_listType {type : String} (h : Text.Mentions (listType type) "ObjectId") :
    Text.Mentions type "ObjectId" := by
  unfold listType at h
  split at h
  · exact h
  · unfold Text.Mentions at h ⊢
    rw [String.toList_append] at h
    rcases Text.infix_of_infix_append_cons (by decide) h with h | h
    · exact h
    · exact absurd (h.subset (show 'I' ∈ "ObjectId".toList by decide)) (by decide)

namespace Field

/-- The contract gives the name as part of the field's type: in the object type of the field or, where
the field is linked, in what a model without document identity is called. -/
def GivesType (f : Field) (ctx : EmissionContext) (link : Option LinkTarget) (name : String) : Prop :=
  match link with
  | none => ∃ type, f.objectType = some type ∧ Text.Mentions type name
  | some target => ctx.usesDocumentIdentity target.model = false ∧ Text.Mentions target.model name

variable {f : Field} {ctx : EmissionContext} {link : Option LinkTarget}

/-- A field that is not linked names the identity type of the store only by its object type. -/
theorem givesType_of_declaredType (h : Text.Mentions f.declaredType "ObjectId") :
    f.GivesType ctx none "ObjectId" := by
  have hbase {base : String} (h : Text.Mentions (if f.isRepeated then listType base else base)
      "ObjectId") : Text.Mentions base "ObjectId" := by
    split at h
    · exact mentions_of_listType h
    · exact h
  unfold declaredType at h
  cases hobject : f.objectType with
  | some type =>
    rw [hobject] at h
    exact ⟨type, hobject, hbase h⟩
  | none =>
    rw [hobject] at h
    have hO : 'O' ∈ (f.type.baseTarget f.arrayType).toList := (hbase h).mem (by decide)
    unfold TypeTag.baseTarget at hO
    split at hO
    · rename_i item _ _
      exact absurd hO (by simpa using item.not_mem_target)
    · exact absurd hO f.type.not_mem_target

/-- Where emission names the identity type of the store in a field's declaration, the field needs
it. -/
theorem storage_mem_extraNeeds (h : Text.Mentions (f.memberType ctx link) "ObjectId") :
    .storage ∈ f.extraNeeds ctx link ∨ f.GivesType ctx link "ObjectId" := by
  unfold memberType at h
  cases link with
  | none => exact Or.inr (givesType_of_declaredType h)
  | some target =>
    dsimp only at h
    cases hdocument : ctx.usesDocumentIdentity target.model with
    | true => exact Or.inl (by simp [extraNeeds, hdocument])
    | false =>
      rw [hdocument] at h
      exact Or.inr ⟨hdocument, LinkTarget.mentions_of_declaredType h⟩

end Field

end ContractCompiler
