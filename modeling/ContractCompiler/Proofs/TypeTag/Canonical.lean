import ContractCompiler.Proofs.Text.BlankLines
import ContractCompiler.Proofs.Text.NormalForm
import ContractCompiler.TypeTag.Basic

/-!
# Canonical type tags

A type is spelled by a name with white space around it, then by a pair of brackets for each list,
with white space behind every pair. `Spells` is that grammar, stated apart from the reader; the
canonical tag of a type is its spelling without white space.

* `ofString_tag_ofString` — the canonical text of a tag that was read is read as that tag.
* `ofChars_eq_iff_spells` — a text is read as the one type that it spells.
* `ofString_canonical` — the canonical tag is a normal form of the texts that spell one type.
-/

namespace ContractCompiler.TypeTag

open Text

/-! ## Reading the canonical tag -/

theorem ofChars_of_list {cs inner : List Char} (h : beforeBrackets? (trim cs) = some inner) :
    ofChars cs = .list (ofChars inner) := by
  rw [ofChars]
  split
  · rename_i inner' h'
    rw [h] at h'
    cases h'
    rfl
  · rename_i h'
    rw [h] at h'
    cases h'

theorem ofChars_of_name {cs : List Char} (h : beforeBrackets? (trim cs) = none) :
    ofChars cs =
      match KnownType.ofName? (String.ofList (trim cs)) with
      | some k => .known k
      | none => .other (String.ofList (trim cs)) := by
  rw [ofChars]
  split
  · rename_i inner' h'
    rw [h] at h'
    cases h'
  · rfl

theorem beforeBrackets?_append (cs : List Char) : beforeBrackets? (cs ++ ['[', ']']) = some cs := by
  simp [beforeBrackets?]

/-- Brackets after a trimmed text leave it trimmed. -/
theorem trim_append_brackets {cs : List Char} (h : trim cs = cs) :
    trim (cs ++ ['[', ']']) = cs ++ ['[', ']'] := by
  rw [trim_eq_self_iff] at h ⊢
  refine ⟨fun c hc => ?_, fun c hc => ?_⟩
  · cases cs with
    | nil =>
      cases hc
      decide
    | cons d rest => exact h.1 c hc
  · rw [List.getLast?_append] at hc
    cases hc
    decide

theorem name_of_ofName? {name : String} {k : KnownType} (h : KnownType.ofName? name = some k) :
    k.name = name := by
  simpa using List.find?_some h

/-- The canonical text of a tag that was read has no white space around it and is read as that
tag. -/
theorem ofChars_tag_ofChars (cs : List Char) :
    trim (ofChars cs).tag.toList = (ofChars cs).tag.toList ∧
      ofChars (ofChars cs).tag.toList = ofChars cs := by
  induction cs using ofChars.induct with
  | case1 cs inner h ih =>
    obtain ⟨htrim, hread⟩ := ih
    have htag : (ofChars cs).tag.toList = (ofChars inner).tag.toList ++ ['[', ']'] := by
      rw [ofChars_of_list h, tag, String.toList_append]
      rfl
    have happend := trim_append_brackets htrim
    rw [htag]
    refine ⟨happend, ?_⟩
    rw [ofChars_of_list (happend ▸ beforeBrackets?_append _), hread, ofChars_of_list h]
  | case2 cs h name k hk =>
    have hread : ofChars cs = .known k := by
      rw [ofChars_of_name h, hk]
    have htag : (ofChars cs).tag.toList = trim cs := by
      rw [hread, tag, name_of_ofName? hk, String.toList_ofList]
    rw [htag]
    refine ⟨trim_trim cs, ?_⟩
    rw [ofChars_of_name (by rw [trim_trim, h]), trim_trim, hk, hread]
  | case3 cs h name hk =>
    have hread : ofChars cs = .other name := by
      rw [ofChars_of_name h, hk]
    have htag : (ofChars cs).tag.toList = trim cs := by
      rw [hread, tag, String.toList_ofList]
    rw [htag]
    refine ⟨trim_trim cs, ?_⟩
    rw [ofChars_of_name (by rw [trim_trim, h]), trim_trim, hk, hread]

theorem ofString_name (k : KnownType) : ofString k.name = .known k := by
  rw [ofString, ofChars_of_name (by cases k <;> decide)]
  cases k <;> rfl

/-- **The canonical text of a tag that was read is read as that tag.** -/
theorem ofString_tag_ofString (s : String) : ofString (ofString s).tag = ofString s :=
  (ofChars_tag_ofChars s.toList).2

/-! ## Spellings -/

/-- The type is a name, and its tag is read as that name: outside the known set it has no white space
at its ends and no brackets behind it. -/
def IsName : TypeTag → Prop
  | known _ => True
  | list _ => False
  | other name =>
    trim name.toList = name.toList ∧ beforeBrackets? name.toList = none ∧
      KnownType.ofName? name = none

/-- The characters spell the type: its name with white space around it, then a pair of brackets for
each list, with white space behind each pair. -/
inductive Spells : TypeTag → List Char → Prop where
  | name {t : TypeTag} {before after : List Char} (ht : t.IsName)
      (hbefore : isBlankLine before = true) (hafter : isBlankLine after = true) :
      Spells t (before ++ t.tag.toList ++ after)
  | list {item : TypeTag} {cs after : List Char} (hitem : Spells item cs)
      (hafter : isBlankLine after = true) : Spells (.list item) (cs ++ ['[', ']'] ++ after)

variable {cs before after : List Char} {t : TypeTag}

/-! ## White space -/

theorem isBlankLine_append (hbefore : isBlankLine before = true) (hafter : isBlankLine after = true) :
    isBlankLine (before ++ after) = true := by
  rw [isBlankLine, List.all_append]
  exact Bool.and_eq_true_iff.2 ⟨hbefore, hafter⟩

/-- White space may stand before every spelling. -/
theorem Spells.blank_append (hbefore : isBlankLine before = true) (h : Spells t cs) :
    Spells t (before ++ cs) := by
  induction h with
  | name ht hfirst hafter =>
    rw [← List.append_assoc, ← List.append_assoc]
    exact .name ht (isBlankLine_append hbefore hfirst) hafter
  | list _ hafter ih =>
    rw [← List.append_assoc, ← List.append_assoc]
    exact .list ih hafter

/-- A text is its trimmed part with white space around it. -/
theorem exists_eq_append_trim (cs : List Char) :
    ∃ before after, cs = before ++ trim cs ++ after ∧ isBlankLine before = true ∧
      isBlankLine after = true := by
  refine ⟨cs.takeWhile isBlank, (cs.dropWhile isBlank).rtakeWhile isBlank, ?_,
    List.all_eq_true.2 fun _ hc => List.mem_takeWhile_imp hc,
    List.all_eq_true.2 fun _ hc => List.mem_rtakeWhile_imp hc⟩
  have hend : trim cs ++ (cs.dropWhile isBlank).rtakeWhile isBlank = cs.dropWhile isBlank :=
    List.rdropWhile_append_rtakeWhile
  rw [List.append_assoc, hend, List.takeWhile_append_dropWhile]

/-- White space around a text is trimmed. -/
theorem trim_append_append (hbefore : isBlankLine before = true) (hafter : isBlankLine after = true)
    (cs : List Char) : trim (before ++ cs ++ after) = trim cs := by
  rw [trim_append_of_blank hafter, trim, trimStart_append_of_blank hbefore, trim]

/-- Brackets keep what stands before them from being trimmed at its end. -/
theorem trim_append_brackets_append (hafter : isBlankLine after = true) (cs : List Char) :
    trim (cs ++ ['[', ']'] ++ after) = trimStart cs ++ ['[', ']'] := by
  rw [trim_append_of_blank hafter]
  cases hcs : isBlankLine cs with
  | true =>
    have hstart : trimStart cs = [] := List.dropWhile_eq_nil_iff.2 (List.all_eq_true.1 hcs)
    rw [trim, trimStart_append_of_blank hcs, hstart]
    decide
  | false =>
    rw [trim, trimStart_append_of_text hcs, trimEnd_append_of_text (by decide)]
    rfl

/-! ## Reading a spelling -/

/-- What is read of a text is seen from its trimmed part. -/
theorem ofChars_congr {ds : List Char} (h : trim cs = trim ds) : ofChars cs = ofChars ds := by
  cases hbrackets : beforeBrackets? (trim cs) with
  | some inner =>
    have hbrackets' : beforeBrackets? (trim ds) = some inner := h ▸ hbrackets
    rw [ofChars_of_list hbrackets, ofChars_of_list hbrackets']
  | none =>
    have hbrackets' : beforeBrackets? (trim ds) = none := h ▸ hbrackets
    rw [ofChars_of_name hbrackets, ofChars_of_name hbrackets', h]

theorem ofChars_tag_of_isName (h : t.IsName) : ofChars t.tag.toList = t := by
  cases t with
  | known k => exact ofString_name k
  | list item => exact h.elim
  | other name =>
    obtain ⟨htrim, hbrackets, hunknown⟩ := h
    rw [tag, ofChars_of_name (by rw [htrim, hbrackets]), htrim, String.ofList_toList, hunknown]

theorem eq_append_of_beforeBrackets? {inner : List Char} (h : beforeBrackets? cs = some inner) :
    cs = inner ++ ['[', ']'] := by
  unfold beforeBrackets? at h
  split at h
  · rename_i rest hreverse
    obtain rfl := Option.some.inj h
    rw [← List.reverse_reverse cs, hreverse]
    simp
  · cases h

/-- A text spells the name that its trimmed part is. -/
theorem spells_of_tag (ht : t.IsName) (htag : t.tag.toList = trim cs) : Spells t cs := by
  obtain ⟨before, after, hcs, hbefore, hafter⟩ := exists_eq_append_trim cs
  rw [hcs, ← htag]
  exact .name ht hbefore hafter

/-- What is read of a text is spelled by it. -/
theorem spells_ofChars (cs : List Char) : Spells (ofChars cs) cs := by
  induction cs using ofChars.induct with
  | case1 cs inner h ih =>
    obtain ⟨before, after, hcs, hbefore, hafter⟩ := exists_eq_append_trim cs
    have hsplit : cs = before ++ inner ++ ['[', ']'] ++ after := by
      rw [List.append_assoc before, ← eq_append_of_beforeBrackets? h, ← hcs]
    have hlist : Spells (.list (ofChars inner)) (before ++ inner ++ ['[', ']'] ++ after) :=
      .list (ih.blank_append hbefore) hafter
    rwa [ofChars_of_list h, hsplit]
  | case2 cs h name k hk =>
    rw [ofChars_of_name h, hk]
    exact spells_of_tag trivial (by rw [tag, name_of_ofName? hk, String.toList_ofList])
  | case3 cs h name hk =>
    have hname : name.toList = trim cs := String.toList_ofList
    have hisName : (other name).IsName := ⟨by rw [hname, trim_trim], by rw [hname, h], hk⟩
    rw [ofChars_of_name h, hk]
    exact spells_of_tag hisName hname

/-- **A text is read as the type that it spells**, and spells no other. -/
theorem ofChars_eq_iff_spells : ofChars cs = t ↔ Spells t cs := by
  constructor
  · rintro rfl
    exact spells_ofChars cs
  · intro h
    induction h with
    | @name t before after ht hbefore hafter =>
      rw [ofChars_congr (trim_append_append hbefore hafter _), ofChars_tag_of_isName ht]
    | @list item cs after _ hafter ih =>
      have htrim := trim_append_brackets_append hafter cs
      have hcongr : ofChars (trimStart cs) = ofChars cs := ofChars_congr (by
        rw [trim, trim]
        exact congrArg trimEnd (List.dropWhile_idempotent isBlank cs))
      rw [ofChars_of_list (by rw [htrim, beforeBrackets?_append]), hcongr, ih]

/-! ## The canonical tag -/

/-- **The canonical tag is a normal form.** Every text spells exactly one type, which is read of it; the
canonical tag of that type is read as that type again and is its own canonical tag, and two texts spell
one type exactly when they have one canonical tag. -/
theorem ofString_canonical (s : String) :
    (∀ t, ofString s = t ↔ Spells t s.toList) ∧
      ofString (ofString s).tag = ofString s ∧
      (ofString (ofString s).tag).tag = (ofString s).tag ∧
      ∀ s' : String, ofString s = ofString s' ↔ (ofString s).tag = (ofString s').tag := by
  have hread := ofString_tag_ofString s
  refine ⟨fun t => ofChars_eq_iff_spells, hread, congrArg tag hread, fun s' => ?_⟩
  constructor
  · exact congrArg tag
  · intro htag
    calc ofString s
        = ofString (ofString s).tag := hread.symm
      _ = ofString (ofString s').tag := by rw [htag]
      _ = ofString s' := ofString_tag_ofString s'

/-- White space of any kind around the base, which is empty here, and behind the brackets. -/
example : ofString "\u2003[] \t[]\u00a0" = .list (.list (.other "")) ∧
    (ofString "\u2003[] \t[]\u00a0").tag = "[][]" := by decide +kernel

end ContractCompiler.TypeTag
