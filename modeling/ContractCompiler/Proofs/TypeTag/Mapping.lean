import ContractCompiler.Module.Field
import ContractCompiler.Proofs.TypeTag.Canonical

/-!
# Laws of what a type becomes

`TypeTag.itemOf` is the type of the items that a declaration holds, and none for a single value. It
decides what the written type and the documentation type are, whichever way the list is spelled: by
the tag, by `simpleArray` with its item type, or by a repeated declaration.

* `boxed_append_brackets` — a list is documented as its item in brackets.
* `isListType_target`, `jsonType_eq_array_iff` — the written type of a tag ends in `[]`, and its
  keyword is `array`, exactly when the tag alone is that of a list.
* `declared_of_itemOf`, `docType_of_itemOf` — a declaration of items is written and documented as a
  list of them; `declared_of_single`, `docType_of_single` — any other is what its type becomes.
* `docType_eq_boxed_declared` — the documentation type is the form of the written type.
-/

namespace ContractCompiler

open Text

namespace TypeTag

theorem beforeBrackets?_eq_some_iff {cs inner : List Char} :
    beforeBrackets? cs = some inner ↔ cs = inner ++ ['[', ']'] := by
  constructor
  · intro h
    unfold beforeBrackets? at h
    split at h
    · rename_i rest hrest
      cases h
      have hreverse := congrArg List.reverse hrest
      simpa using hreverse
    · cases h
  · rintro rfl
    exact beforeBrackets?_append inner

theorem toList_target_list (item : TypeTag) :
    (list item).target.toList = item.target.toList ++ ['[', ']'] := by
  rw [target, String.toList_append]
  rfl

/-- There is no white space around a written type. -/
theorem trim_target (t : TypeTag) : trim t.target.toList = t.target.toList := by
  induction t with
  | known k => cases k <;> decide
  | other name => exact (by decide : trim "any".toList = "any".toList)
  | list item ih =>
    rw [toList_target_list]
    exact trim_append_brackets ih

end TypeTag

/-! ## Brackets -/

/-- The test for a list type is one for the ending. -/
theorem isListType_iff {type : String} : isListType type = true ↔ "[]".toList <:+ type.toList := by
  unfold isListType
  rw [Option.isSome_iff_exists]
  constructor
  · rintro ⟨inner, h⟩
    exact ⟨inner, (TypeTag.beforeBrackets?_eq_some_iff.1 h).symm⟩
  · rintro ⟨inner, h⟩
    exact ⟨inner, TypeTag.beforeBrackets?_eq_some_iff.2 h.symm⟩

theorem boxedChars_of_brackets {cs inner : List Char}
    (h : TypeTag.beforeBrackets? (trim cs) = some inner) :
    boxedChars cs = "[" ++ boxedChars inner ++ "]" := by
  rw [boxedChars]
  split
  · rename_i inner' h'
    rw [h] at h'
    cases h'
    rfl
  · rename_i h'
    rw [h] at h'
    cases h'

/-- **A list is documented as its item in brackets.** -/
theorem boxed_append_brackets {item : String} (h : trim item.toList = item.toList) :
    boxed (item ++ "[]") = "[" ++ boxed item ++ "]" := by
  have htrim := TypeTag.trim_append_brackets h
  have hlist : (item ++ "[]").toList = item.toList ++ ['[', ']'] := String.toList_append
  unfold boxed
  rw [hlist, boxedChars_of_brackets]
  rw [htrim]
  exact TypeTag.beforeBrackets?_append _

/-- A keyword is told by its text. -/
theorem JsonType.keyword_eq_array_iff {k : JsonType} : k.keyword = "array" ↔ k = .array := by
  cases k <;> decide

namespace TypeTag

variable {t i : TypeTag} {item : Option TypeTag} {repeated : Bool}

theorem isListLike_iff : t.isListLike = true ↔ t = .known .simpleArray ∨ ∃ i, t = .list i := by
  unfold isListLike
  split
  · simp
  · simp
  · rename_i hflat hlist
    simpa using ⟨hflat, hlist⟩

/-- **The written type of a tag ends in `[]` exactly when the tag is that of a list.** -/
theorem isListType_target (t : TypeTag) : isListType t.target = t.isListLike := by
  cases t with
  | known k => cases k <;> decide
  | other name => exact (by decide : isListType "any" = false)
  | list item =>
    show (beforeBrackets? (list item).target.toList).isSome = true
    rw [toList_target_list, beforeBrackets?_append]
    rfl

/-- **The keyword of a tag is `array` exactly when the tag is that of a list.** -/
theorem jsonType_eq_array_iff (t : TypeTag) : t.jsonType = .array ↔ t.isListLike = true := by
  cases t with
  | known k => cases k <;> decide
  | other name => simp [jsonType, isListLike]
  | list item => simp [jsonType, isListLike]

/-! ## Items -/

/-- The type of the items of a declaration: the one declared beside a `simpleArray`, the one in the
tag of a list, and the type itself when the declaration is repeated. -/
def itemOf (t : TypeTag) (item : Option TypeTag) (repeated : Bool) : Option TypeTag :=
  match t with
  | .known .simpleArray => some (item.getD (.known .string))
  | .list i => some i
  | t => if repeated then some t else none

/-- The written type of a declaration. -/
def declared (t : TypeTag) (item : Option TypeTag) (repeated : Bool) : String :=
  if repeated then listType (t.baseTarget item) else t.baseTarget item

/-! A tag that is not a list's leaves everything to the declaration. -/

theorem itemOf_of_not_isListLike (h : t.isListLike = false) :
    t.itemOf item repeated = if repeated then some t else none := by
  unfold itemOf
  split
  · cases h
  · cases h
  · rfl

theorem baseTarget_of_not_isListLike (h : t.isListLike = false) : t.baseTarget item = t.target := by
  unfold baseTarget
  split
  · cases h
  · rfl

theorem docType_of_not_isListLike (h : t.isListLike = false) :
    t.docType item repeated =
      if repeated then "[" ++ boxed t.target ++ "]" else boxed t.target := by
  unfold docType
  split
  · cases h
  · cases h
  · rfl

/-- A declaration of a single value: neither its tag nor a repetition makes a list of it. -/
theorem single_of_itemOf (h : t.itemOf item repeated = none) :
    t.isListLike = false ∧ repeated = false := by
  have hlist : t.isListLike = false := by
    rw [← Bool.not_eq_true]
    intro hlist
    rcases isListLike_iff.1 hlist with rfl | ⟨j, rfl⟩
    · cases h
    · cases h
  rw [itemOf_of_not_isListLike hlist] at h
  exact ⟨hlist, by simpa using h⟩

/-- A type that ends in `[]` is written as it is, repeated or not. -/
theorem declared_of_isListType (h : isListType (t.baseTarget item) = true) :
    t.declared item repeated = t.baseTarget item := by
  unfold declared listType
  rw [if_pos h, ite_self]

theorem isListType_append_brackets (s : String) : isListType (s ++ "[]") = true := by
  rw [isListType_iff, String.toList_append]
  exact List.suffix_append _ _

/-- **A declaration of items is written as a list of their type.** -/
theorem declared_of_itemOf (h : t.itemOf item repeated = some i) :
    t.declared item repeated = i.target ++ "[]" := by
  cases hlist : t.isListLike with
  | false =>
    rw [itemOf_of_not_isListLike hlist] at h
    obtain ⟨hrepeated, rfl⟩ : repeated = true ∧ t = i := by simpa using h
    have hnot : isListType t.target = false := by rw [isListType_target, hlist]
    rw [declared, if_pos hrepeated, baseTarget_of_not_isListLike hlist, listType, hnot]
    rfl
  | true =>
    have hbase : t.baseTarget item = i.target ++ "[]" := by
      rcases isListLike_iff.1 hlist with rfl | ⟨j, rfl⟩
      · obtain rfl := Option.some.inj h
        cases item with
        | none => decide
        | some j => rfl
      · obtain rfl := Option.some.inj h
        rfl
    rw [declared_of_isListType (by rw [hbase]; exact isListType_append_brackets _), hbase]

/-- **A declaration of items is documented as a list of their type.** -/
theorem docType_of_itemOf (h : t.itemOf item repeated = some i) :
    t.docType item repeated = "[" ++ boxed i.target ++ "]" := by
  cases hlist : t.isListLike with
  | false =>
    rw [itemOf_of_not_isListLike hlist] at h
    obtain ⟨hrepeated, rfl⟩ : repeated = true ∧ t = i := by simpa using h
    rw [docType_of_not_isListLike hlist, if_pos hrepeated]
  | true =>
    rcases isListLike_iff.1 hlist with rfl | ⟨j, rfl⟩
    · obtain rfl := Option.some.inj h
      cases item with
      | none => rfl
      | some j => rfl
    · obtain rfl := Option.some.inj h
      exact boxed_append_brackets (trim_target j)

/-- **A single value is written as what its type becomes.** -/
theorem declared_of_single (h : t.itemOf item repeated = none) :
    t.declared item repeated = t.target := by
  obtain ⟨hlist, rfl⟩ := single_of_itemOf h
  exact baseTarget_of_not_isListLike hlist

/-- **A single value is documented as what its type becomes.** -/
theorem docType_of_single (h : t.itemOf item repeated = none) :
    t.docType item repeated = boxed t.target := by
  obtain ⟨hlist, rfl⟩ := single_of_itemOf h
  exact docType_of_not_isListLike hlist

/-- **The documentation type of a declaration is the form of its written type.** -/
theorem docType_eq_boxed_declared (t : TypeTag) (item : Option TypeTag) (repeated : Bool) :
    t.docType item repeated = boxed (t.declared item repeated) := by
  cases h : t.itemOf item repeated with
  | none => rw [docType_of_single h, declared_of_single h]
  | some i => rw [docType_of_itemOf h, declared_of_itemOf h, boxed_append_brackets (trim_target i)]

/-- **The written type of a declaration ends in `[]` exactly when it holds items.** -/
theorem isListType_declared (t : TypeTag) (item : Option TypeTag) (repeated : Bool) :
    isListType (t.declared item repeated) = (t.itemOf item repeated).isSome := by
  cases h : t.itemOf item repeated with
  | none => rw [declared_of_single h, isListType_target, (single_of_itemOf h).1, Option.isSome_none]
  | some i => rw [declared_of_itemOf h, isListType_append_brackets, Option.isSome_some]

end TypeTag

end ContractCompiler
