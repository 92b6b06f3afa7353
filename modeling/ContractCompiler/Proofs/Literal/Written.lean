import ContractCompiler.Proofs.Literal.Grammar

/-!
# Texts that write literals

The grammar of literals over texts: how a text that writes a literal is put together from the texts of
its parts, with white space in front of any of them.

* `Written.item`, `Written.member` — the texts of items and of members.
* `ofText_of_written` — a text is read as what it writes.
* `written_compact` — the text of a JSON value without doubles writes that value.
-/

namespace ContractCompiler

open Json

namespace Literal

/-- The text writes the phrase, wherever it stands before the end of words. -/
def Written (cs : List Char) (p : Phrase) : Prop := ∃ ts, Token.Spells cs ts ∧ Derives p ts

/-- The text writes the key. -/
def WritesKey (cs : List Char) (key : String) : Prop :=
  ∃ t : Token, Token.Spells cs [t] ∧ t.key? = some key

variable {cs back space keyText : List Char} {p : Phrase} {x : Literal} {xs : List Literal}
  {key : String} {ms : List (String × Literal)}

/-- **A text is read as what it writes.** -/
theorem ofText_of_written {s : String} (h : Written s.toList (.value x)) : ofText s = some x := by
  obtain ⟨ts, hspells, hderives⟩ := h
  exact ofText_eq_some_iff.2 ⟨ts, hspells.tokenize_eq, hderives⟩

namespace Written

theorem blank {c : Char} (h : Written cs p) (hc : Text.isBlank c = true) : Written (c :: cs) p := by
  obtain ⟨ts, hspells, hderives⟩ := h
  exact ⟨ts, hspells.blank hc, hderives⟩

theorem blanks (h : Written cs p) (hblanks : ∀ c ∈ space, Text.isBlank c = true) :
    Written (space ++ cs) p := by
  obtain ⟨ts, hspells, hderives⟩ := h
  exact ⟨ts, hspells.blanks hblanks, hderives⟩

theorem array (h : Written cs (.items xs)) : Written ('[' :: cs) (.value (.array xs)) := by
  obtain ⟨ts, hspells, hderives⟩ := h
  exact ⟨_, hspells.punctuation rfl, .array hderives⟩

theorem object (h : Written cs (.members ms)) : Written ('\x7b' :: cs) (.value (.object ms)) := by
  obtain ⟨ts, hspells, hderives⟩ := h
  exact ⟨_, hspells.punctuation rfl, .object hderives⟩

theorem noItems : Written [']'] (.items []) := ⟨_, Token.spells_nil.punctuation rfl, .noItems⟩

theorem lastItem (h : Written cs (.value x)) : Written (cs ++ [']']) (.items [x]) := by
  obtain ⟨ts, hspells, hderives⟩ := h
  exact ⟨_, hspells.append (by decide) (Token.spells_nil.punctuation rfl), .lastItem hderives⟩

theorem item (h : Written cs (.value x)) (hback : Written back (.items xs)) :
    Written (cs ++ ',' :: back) (.items (x :: xs)) := by
  obtain ⟨ts, hspells, hderives⟩ := h
  obtain ⟨us, hrest, hitems⟩ := hback
  exact ⟨_, hspells.append (by decide) (hrest.punctuation rfl), .item hderives hitems⟩

theorem noMembers : Written ['\x7d'] (.members []) :=
  ⟨_, Token.spells_nil.punctuation rfl, .noMembers⟩

theorem lastMember (hkey : WritesKey keyText key) (h : Written cs (.value x)) :
    Written (keyText ++ ':' :: (cs ++ ['\x7d'])) (.members [(key, x)]) := by
  obtain ⟨t, ht, hkey⟩ := hkey
  obtain ⟨ts, hspells, hderives⟩ := h
  have hclose : Token.Spells (cs ++ ['\x7d']) (ts ++ [.closeBrace]) :=
    hspells.append (by decide) (Token.spells_nil.punctuation rfl)
  exact ⟨_, ht.append (by decide) (hclose.punctuation rfl), .lastMember hkey hderives⟩

theorem member (hkey : WritesKey keyText key) (h : Written cs (.value x))
    (hback : Written back (.members ms)) :
    Written (keyText ++ ':' :: (cs ++ ',' :: back)) (.members ((key, x) :: ms)) := by
  obtain ⟨t, ht, hkey⟩ := hkey
  obtain ⟨ts, hspells, hderives⟩ := h
  obtain ⟨us, hrest, hmembers⟩ := hback
  have hmore : Token.Spells (cs ++ ',' :: back) (ts ++ .comma :: us) :=
    hspells.append (by decide) (hrest.punctuation rfl)
  exact ⟨_, ht.append (by decide) (hmore.punctuation rfl), .member hkey hderives hmembers⟩

end Written

/-! ## Words, strings and numbers -/

theorem written_word {name : String} (h : Text.isIdentifier name = true) :
    Written name.toList (.value (ofWord name)) := ⟨_, Token.spells_word h, .word name⟩

theorem written_quote (s : String) : Written (quote s).toList (.value (.string s)) :=
  ⟨_, Token.spells_quote s, .string s⟩

theorem written_integer {i : Int} (fits : -0x8000000000000000 ≤ i ∧ i < 0x10000000000000000) :
    Written (JsonNumber.integer i fits).render.toList (.value (.number (.integer i fits))) :=
  ⟨_, Token.spells_integer fits, .number _⟩

theorem writesKey_word {name : String} (h : Text.isIdentifier name = true) :
    WritesKey name.toList name := ⟨_, Token.spells_word h, rfl⟩

theorem writesKey_quote (s : String) : WritesKey (quote s).toList s := ⟨_, Token.spells_quote s, rfl⟩

/-! ## JSON values -/

mutual

/-- The literal of a JSON value. -/
def ofJson : Json → Literal
  | .null => null
  | .bool b => bool b
  | .number n => number n
  | .string s => string s
  | .array items => array (ofItems items)
  | .object members => object (ofMembers members)

def ofItems : List Json → List Literal
  | [] => []
  | v :: rest => ofJson v :: ofItems rest

def ofMembers : List (String × Json) → List (String × Literal)
  | [] => []
  | (key, v) :: rest => (key, ofJson v) :: ofMembers rest

end

/-- The text of the value writes its literal. -/
def JsonWritten (v : Json) : Prop := Written v.compact.toList (.value (ofJson v))

theorem written_compactItems {items : List Json} (h : ∀ v ∈ items, JsonWritten v) :
    Written ((compactItems items).toList ++ [']']) (.items (ofItems items)) := by
  induction items with
  | nil => exact .noItems
  | cons v rest ih =>
    obtain ⟨hv, hrest⟩ := List.forall_mem_cons.1 h
    cases rest with
    | nil => exact .lastItem hv
    | cons w rest =>
      have hcomma : ",".toList = [','] := rfl
      rw [compactItems, String.toList_append, String.toList_append, hcomma, List.append_assoc,
        List.append_assoc, List.singleton_append]
      exact .item hv (ih hrest)

theorem written_compactMembers {members : List (String × Json)} (h : ∀ m ∈ members, JsonWritten m.2) :
    Written ((compactMembers members).toList ++ ['\x7d']) (.members (ofMembers members)) := by
  have hcolon : ":".toList = [':'] := rfl
  have hcomma : ",".toList = [','] := rfl
  induction members with
  | nil => exact .noMembers
  | cons m rest ih =>
    obtain ⟨key, v⟩ := m
    obtain ⟨hv, hrest⟩ : JsonWritten v ∧ ∀ m ∈ rest, JsonWritten m.2 := List.forall_mem_cons.1 h
    cases rest with
    | nil =>
      simp only [compactMembers, String.toList_append, hcolon, List.append_assoc,
        List.singleton_append]
      exact .lastMember (writesKey_quote key) hv
    | cons w rest =>
      simp only [compactMembers, String.toList_append, hcolon, hcomma, List.append_assoc,
        List.singleton_append]
      exact .member (writesKey_quote key) hv (ih hrest)

/-- **The text of a JSON value without doubles writes that value.** -/
theorem written_compact {v : Json} (h : v.isDoubleFree = true) : JsonWritten v := by
  induction v with
  | null =>
    have hword : Text.isIdentifier "null" = true := by decide
    exact written_word hword
  | bool b =>
    cases b with
    | false =>
      have hword : Text.isIdentifier "false" = true := by decide
      exact written_word hword
    | true =>
      have hword : Text.isIdentifier "true" = true := by decide
      exact written_word hword
  | number n =>
    cases n with
    | integer i fits => exact written_integer fits
    | double d => cases h
  | string s => exact written_quote s
  | array items ih =>
    have hitems := isDoubleFree_array.1 h
    have htext : (Json.array items).compact.toList = '[' :: ((compactItems items).toList ++ [']']) := by
      rw [compact, String.toList_append, String.toList_append, List.append_assoc]
      rfl
    rw [JsonWritten, htext, ofJson]
    exact .array (written_compactItems fun v hv => ih v hv (hitems v hv))
  | object members ih =>
    have hmembers := isDoubleFree_object.1 h
    have htext : (Json.object members).compact.toList =
        '\x7b' :: ((compactMembers members).toList ++ ['\x7d']) := by
      rw [compact, String.toList_append, String.toList_append, List.append_assoc]
      rfl
    rw [JsonWritten, htext, ofJson]
    exact .object (written_compactMembers fun m hm => ih m hm (hmembers m hm))

end Literal

end ContractCompiler
