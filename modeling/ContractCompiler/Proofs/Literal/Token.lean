import ContractCompiler.Proofs.Json.Progress
import ContractCompiler.Proofs.Json.Text
import ContractCompiler.Text.Basic

/-!
# Tokens of expressions

Object literals are written with brackets, braces, colons and commas, words, strings and numbers.
`tokenize` splits a text into these. Any white space may stand between them, and a word or a number is
as long as it can be.

* `tokenize_blank` — white space in front of a token changes nothing.
* `Spells.append` — the tokens of a text are those of its pieces, where no piece runs into the next.
* `spells_word`, `spells_quote`, `spells_integer` — identifiers, string literals and exact numbers are
  single tokens.
-/

namespace ContractCompiler

open Text Json

namespace Literal

/-- A token of an expression. -/
inductive Token where
  | openBrace
  | closeBrace
  | openBracket
  | closeBracket
  | colon
  | comma
  | word (name : String)
  | string (value : String)
  | number (value : JsonNumber)
deriving DecidableEq, Repr

namespace Token

/-- The token that a single character is. -/
def punctuation? (c : Char) : Option Token :=
  if c = '\x7b' then some openBrace
  else if c = '\x7d' then some closeBrace
  else if c = '[' then some openBracket
  else if c = ']' then some closeBracket
  else if c = ':' then some colon
  else if c = ',' then some comma
  else none

/-- The token at the front of a text that begins with a character other than white space, and what
follows it. -/
def read? (c : Char) (cs : List Char) : Option (Token × List Char) :=
  match punctuation? c with
  | some t => some (t, cs)
  | none =>
    if c = '"' then
      match Raw.readString cs with
      | some (some s, rest) => some (string s, rest)
      | _ => none
    else if startsIdentifier c then
      some (word (String.ofList (c :: cs.takeWhile continuesIdentifier)),
        cs.dropWhile continuesIdentifier)
    else
      match readNumeral (c :: cs) with
      | some (numeral, rest) => numeral.toNumber?.map fun n => (number n, rest)
      | none => none

theorem length_read? {c : Char} {cs rest : List Char} {t : Token} (h : read? c cs = some (t, rest)) :
    rest.length ≤ cs.length := by
  unfold read? at h
  split at h
  · cases h
    exact Nat.le_refl _
  split at h
  · split at h
    · rename_i hstring
      cases h
      exact Nat.le_of_lt (Raw.length_readString hstring)
    · cases h
  split at h
  · cases h
    exact (List.dropWhile_suffix _).length_le
  · split at h
    · rename_i numeral rest' hnumeral
      obtain ⟨n, -, heq⟩ := Option.map_eq_some_iff.1 h
      cases heq
      exact Nat.le_of_lt_succ (length_readNumeral hnumeral)
    · cases h

/-- The tokens of a text, where it is made of tokens and white space. -/
def tokenize (cs : List Char) : Option (List Token) :=
  match _ : trimStart cs with
  | [] => some []
  | c :: rest =>
    match _ : read? c rest with
    | some (t, after) => (tokenize after).map (t :: ·)
    | none => none
termination_by cs.length
decreasing_by
  have hrest := length_read? ‹read? c rest = some (t, after)›
  have htrimmed : (trimStart cs).length ≤ cs.length := (List.dropWhile_suffix isBlank).length_le
  rw [‹trimStart cs = c :: rest›, List.length_cons] at htrimmed
  omega

variable {c : Char} {cs rest : List Char} {t : Token} {ts : List Token}

@[simp] theorem tokenize_nil : tokenize [] = some [] := by
  rw [tokenize]
  rfl

/-- White space in front of a token changes nothing. -/
theorem tokenize_blank (h : isBlank c = true) (cs : List Char) : tokenize (c :: cs) = tokenize cs := by
  have htrim : trimStart (c :: cs) = trimStart cs := List.dropWhile_cons_of_pos h
  rw [tokenize, tokenize, htrim]

theorem tokenize_read (hc : isBlank c = false) (h : read? c cs = some (t, rest)) :
    tokenize (c :: cs) = (tokenize rest).map (t :: ·) := by
  have htrim : trimStart (c :: cs) = c :: cs := List.dropWhile_cons_of_neg (by simp [hc])
  rw [tokenize]
  split
  · rename_i hnil
    rw [htrim] at hnil
    cases hnil
  · rename_i hcons
    rw [htrim] at hcons
    cases hcons
    split
    · rename_i hread
      rw [h] at hread
      cases hread
      rfl
    · rename_i hread
      rw [h] at hread
      cases hread

/-! ## Texts that spell tokens -/

/-- A word or a number ends before the character. -/
def EndsBefore (c : Char) : Prop := continuesIdentifier c = false ∧ c ≠ '.'

instance (c : Char) : Decidable (EndsBefore c) := inferInstanceAs (Decidable (_ ∧ _))

/-- A word or a number ends before the text. -/
def EndsBeforeText (rest : List Char) : Prop := ∀ c ∈ rest.head?, EndsBefore c

theorem EndsBeforeText.endsNumeral (h : EndsBeforeText rest) : EndsNumeral rest := by
  intro c hc
  obtain ⟨hcontinues, hpoint⟩ := h c hc
  refine ⟨?_, hpoint, ?_, ?_⟩
  · exact (Bool.or_eq_false_iff.1 hcontinues).2
  · rintro rfl
    exact absurd hcontinues (by decide)
  · rintro rfl
    exact absurd hcontinues (by decide)

/-- The text is read as these tokens, wherever it stands before the end of words. -/
def Spells (cs : List Char) (ts : List Token) : Prop :=
  ∀ ⦃rest⦄, EndsBeforeText rest → tokenize (cs ++ rest) = (tokenize rest).map (ts ++ ·)

theorem Spells.tokenize_eq (h : Spells cs ts) : tokenize cs = some ts := by
  have hread : tokenize (cs ++ []) = (tokenize []).map (ts ++ ·) := h fun _ hc => by cases hc
  rwa [List.append_nil, tokenize_nil, Option.map_some, List.append_nil] at hread

theorem spells_nil : Spells [] [] := fun rest _ => by simp

theorem Spells.blank (h : Spells cs ts) (hc : isBlank c = true) : Spells (c :: cs) ts := by
  intro rest hrest
  rw [List.cons_append, tokenize_blank hc, h hrest]

theorem Spells.blanks {blanks : List Char} (h : Spells cs ts)
    (hblanks : ∀ c ∈ blanks, isBlank c = true) : Spells (blanks ++ cs) ts := by
  induction blanks with
  | nil => exact h
  | cons c blanks ih =>
    obtain ⟨hc, hblanks⟩ := List.forall_mem_cons.1 hblanks
    exact (ih hblanks).blank hc

/-- The tokens of a text are those of its pieces, where no piece runs into the next. -/
theorem Spells.append {back : List Char} {us : List Token} (h : Spells cs ts) (hc : EndsBefore c)
    (hback : Spells (c :: back) us) : Spells (cs ++ c :: back) (ts ++ us) := by
  intro rest hrest
  have hends : EndsBeforeText ((c :: back) ++ rest) := by
    rintro d hd
    cases hd
    exact hc
  rw [List.append_assoc, h hends, hback hrest, Option.map_map]
  simp only [Function.comp_def, List.append_assoc]

/-- No token of more than one character begins like a token of one. -/
theorem of_punctuation? (h : punctuation? c = some t) :
    isBlank c = false ∧ c ≠ '"' ∧ startsIdentifier c = false ∧ ¬(c = '-' ∨ c.isDigit = true) := by
  have hsign : c = '\x7b' ∨ c = '\x7d' ∨ c = '[' ∨ c = ']' ∨ c = ':' ∨ c = ',' := by
    by_contra hnot
    simp only [not_or] at hnot
    simp [punctuation?, hnot] at h
  rcases hsign with rfl | rfl | rfl | rfl | rfl | rfl <;> decide

theorem Spells.punctuation (h : Spells cs ts) (ht : punctuation? c = some t) :
    Spells (c :: cs) (t :: ts) := by
  intro rest hrest
  have hread : read? c (cs ++ rest) = some (t, cs ++ rest) := by rw [read?, ht]
  rw [List.cons_append, tokenize_read (of_punctuation? ht).1 hread, h hrest, Option.map_map]
  rfl

/-! ## Single tokens -/

theorem isBlank_of_toNat (h : 0x20 < c.toNat) (h' : c.toNat < 0x85) : isBlank c = false := by
  simp [isBlank, blankRanges]
  omega

theorem toNat_of_startsIdentifier (h : startsIdentifier c = true) :
    c = '$' ∨ 65 ≤ c.toNat ∧ c.toNat ≤ 122 := by
  have halpha : c.isAlpha = (c.isUpper || c.isLower) := rfl
  have hupper : c.isUpper = decide (65 ≤ c.toNat ∧ c.toNat ≤ 90) := rfl
  have hlower : c.isLower = (decide (97 ≤ c.toNat) && decide (c.toNat ≤ 122)) := rfl
  rw [startsIdentifier, halpha, hupper, hlower] at h
  simp only [Bool.or_eq_true, Bool.and_eq_true, decide_eq_true_eq, beq_iff_eq] at h
  rcases h with ((h | h) | rfl) | rfl
  · exact .inr (by omega)
  · exact .inr (by omega)
  · exact .inr (by decide)
  · exact .inl rfl

theorem toNat_of_isDigit (h : c.isDigit = true) : 48 ≤ c.toNat ∧ c.toNat ≤ 57 := by
  have hdigit : c.isDigit = (decide (48 ≤ c.toNat) && decide (c.toNat ≤ 57)) := rfl
  rwa [hdigit, Bool.and_eq_true, decide_eq_true_eq, decide_eq_true_eq] at h

theorem isBlank_of_startsIdentifier (h : startsIdentifier c = true) : isBlank c = false := by
  rcases toNat_of_startsIdentifier h with rfl | h
  · decide
  · exact isBlank_of_toNat (by omega) (by omega)

theorem isBlank_of_isDigit (h : c.isDigit = true) : isBlank c = false := by
  have hcode := toNat_of_isDigit h
  exact isBlank_of_toNat (by omega) (by omega)

theorem startsIdentifier_of_isDigit (h : c.isDigit = true) : startsIdentifier c = false := by
  have hcode := toNat_of_isDigit h
  refine Bool.eq_false_iff.2 fun hstart => ?_
  rcases toNat_of_startsIdentifier hstart with rfl | hstart
  · cases h
  · omega

theorem punctuation?_eq_none (h : c = '"' ∨ startsIdentifier c = true ∨ c = '-' ∨ c.isDigit = true) :
    punctuation? c = none := by
  cases ht : punctuation? c with
  | none => rfl
  | some t =>
    obtain ⟨-, hquote, hstart, hnumber⟩ := of_punctuation? ht
    rcases h with h | h | h
    · exact absurd h hquote
    · rw [h] at hstart
      cases hstart
    · exact absurd h hnumber

/-- **An identifier is a single token.** -/
theorem spells_word {name : String} (h : isIdentifier name = true) :
    Spells name.toList [word name] := by
  intro rest hrest
  have hname : String.ofList name.toList = name := String.ofList_toList
  rw [isIdentifier] at h
  cases hlist : name.toList with
  | nil =>
    rw [hlist] at h
    cases h
  | cons c cs =>
    rw [hlist, formsIdentifier, Bool.and_eq_true, List.all_eq_true] at h
    obtain ⟨hstart, hcs⟩ := h
    have hquote : c ≠ '"' := by
      rintro rfl
      cases hstart
    have hends : rest.takeWhile continuesIdentifier = [] ∧
        rest.dropWhile continuesIdentifier = rest := by
      cases rest with
      | nil => exact ⟨rfl, rfl⟩
      | cons d rest => simp [(hrest d rfl).1]
    have htake : (cs ++ rest).takeWhile continuesIdentifier = cs := by
      rw [List.takeWhile_append_of_pos hcs, hends.1, List.append_nil]
    have hdrop : (cs ++ rest).dropWhile continuesIdentifier = rest := by
      rw [List.dropWhile_append_of_pos hcs, hends.2]
    have hread : read? c (cs ++ rest) = some (word name, rest) := by
      rw [read?, punctuation?_eq_none (.inr (.inl hstart))]
      dsimp only
      rw [if_neg hquote, if_pos hstart, htake, hdrop, ← hlist, hname]
    rw [List.cons_append, tokenize_read (isBlank_of_startsIdentifier hstart) hread]
    rfl

/-- **A string literal is a single token.** -/
theorem spells_quote (s : String) : Spells (quote s).toList [string s] := by
  intro rest _
  have hread : read? '"' (s.toList.flatMap escapeChar ++ '"' :: rest) = some (string s, rest) := by
    rw [read?, punctuation?_eq_none (.inl rfl)]
    dsimp only
    rw [if_pos rfl, Raw.readString_escaped]
  rw [Raw.toList_quote_append, tokenize_read (by decide) hread]
  rfl

/-- **An exact number is a single token.** -/
theorem spells_integer {i : Int} (fits : -0x8000000000000000 ≤ i ∧ i < 0x10000000000000000) :
    Spells (JsonNumber.integer i fits).render.toList [number (.integer i fits)] := by
  intro rest hrest
  obtain ⟨c, cs, hcs, hc⟩ := head_render_integer fits
  obtain ⟨numeral, hnumeral, hnumber⟩ := readNumeral_integer fits hrest.endsNumeral
  have hother : isBlank c = false ∧ c ≠ '"' ∧ startsIdentifier c = false := by
    rcases hc with rfl | hc
    · decide
    · refine ⟨isBlank_of_isDigit hc, ?_, startsIdentifier_of_isDigit hc⟩
      rintro rfl
      cases hc
  rw [hcs, List.cons_append] at hnumeral ⊢
  have hread : read? c (cs ++ rest) = some (number (.integer i fits), rest) := by
    rw [read?, punctuation?_eq_none (.inr (.inr hc))]
    dsimp only
    rw [if_neg hother.2.1, if_neg (by simp [hother.2.2]), hnumeral]
    dsimp only
    rw [hnumber, Option.map_some]
  rw [tokenize_read hother.1 hread]
  rfl

end Token

end Literal

end ContractCompiler
