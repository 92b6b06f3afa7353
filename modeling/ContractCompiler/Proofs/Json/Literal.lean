import Mathlib.Data.List.Basic
import ContractCompiler.Json.Printer
import ContractCompiler.Json.Raw

/-!
# Literals are read as what they were written for

* `readNumeral_integer` — the text of an exact number is read as that number.
* `readString_escaped` — the escaped characters of a string are read as that string.
-/

namespace ContractCompiler.Json

/-! ## Digits -/

/-- A numeral does not go on with this text. -/
def EndsNumeral (rest : List Char) : Prop :=
  ∀ c ∈ rest.head?, c.isDigit = false ∧ c ≠ '.' ∧ c ≠ 'e' ∧ c ≠ 'E'

theorem endsNumeral_nil : EndsNumeral [] := fun _ h => by cases h

theorem endsNumeral_cons {c : Char} {rest : List Char}
    (h : c.isDigit = false ∧ c ≠ '.' ∧ c ≠ 'e' ∧ c ≠ 'E') : EndsNumeral (c :: rest) := by
  rintro d hd
  cases hd
  exact h

theorem spanDigits_append {digits rest : List Char} (hdigits : ∀ c ∈ digits, c.isDigit = true)
    (hrest : EndsNumeral rest) : spanDigits (digits ++ rest) = (digits, rest) := by
  induction digits with
  | nil =>
    cases rest with
    | nil => rfl
    | cons c rest => simp [spanDigits, (hrest c rfl).1]
  | cons c digits ih =>
    obtain ⟨hc, hdigits⟩ := List.forall_mem_cons.1 hdigits
    rw [List.cons_append, spanDigits, if_pos hc, ih hdigits]

theorem le_foldl_digits (digits : List Char) :
    ∀ n, n ≤ digits.foldl (fun n c => n * 10 + digitValue c) n := by
  induction digits with
  | nil => exact fun n => Nat.le_refl n
  | cons c digits ih =>
    intro n
    have h := ih (n * 10 + digitValue c)
    rw [List.foldl_cons]
    omega

/-- Digits that fit a word are all taken. -/
theorem takeDigits_eq {digits : List Char} : ∀ {n : Nat},
    digits.foldl (fun n c => n * 10 + digitValue c) n ≤ maxWord →
      takeDigits n digits = (digits.foldl (fun n c => n * 10 + digitValue c) n, 0) := by
  induction digits with
  | nil => exact fun _ => rfl
  | cons c digits ih =>
    intro n h
    rw [List.foldl_cons] at h ⊢
    have hfits := le_foldl_digits digits (n * 10 + digitValue c)
    rw [takeDigits, if_neg (by omega), ih h]

theorem ofDigits_toDigits (n : Nat) : ofDigits (Nat.toDigits 10 n) = n := by
  have h := Nat.ofDigitChars_ten_toDigits (n := n)
  simpa [ofDigits, digitValue, Nat.ofDigitChars, Nat.mul_comm] using h

theorem takeDigits_toDigits {n : Nat} (h : n ≤ maxWord) :
    takeDigits 0 (Nat.toDigits 10 n) = (n, 0) := by
  have hn := ofDigits_toDigits n
  unfold ofDigits at hn
  rw [takeDigits_eq (by rwa [hn]), hn]

theorem isDigit_toDigits {n : Nat} : ∀ c ∈ Nat.toDigits 10 n, c.isDigit = true :=
  fun _ h => Nat.isDigit_of_mem_toDigits (by decide) (by decide) h

theorem head_toDigits {n : Nat} (hn : 0 < n) : (Nat.toDigits 10 n).head? ≠ some '0' := by
  induction n using Nat.strongRecOn with
  | _ n ih =>
    rcases Nat.lt_or_ge n 10 with h | h
    · rw [Nat.toDigits_of_lt_base h]
      simp only [List.head?_cons, ne_eq, Option.some.injEq, Nat.digitChar_eq_zero]
      omega
    · rw [Nat.toDigits_of_base_le (by decide) h, List.head?_append_of_ne_nil _ Nat.toDigits_ne_nil]
      exact ih (n / 10) (by omega) (by omega)

/-- A zero at the front stands alone. -/
theorem toDigits_ne_zero_cons {n : Nat} {c : Char} {digits : List Char} :
    Nat.toDigits 10 n ≠ '0' :: c :: digits := by
  intro h
  rcases Nat.eq_zero_or_pos n with rfl | hn
  · rw [Nat.toDigits_zero] at h
    cases h
  · exact head_toDigits hn (by rw [h, List.head?_cons])

/-! ## Numerals -/

theorem readWhole_toDigits {n : Nat} {rest : List Char} (hrest : EndsNumeral rest) :
    readWhole (Nat.toDigits 10 n ++ rest) = some (Nat.toDigits 10 n, rest) := by
  rw [readWhole, spanDigits_append isDigit_toDigits hrest]
  split
  · rename_i h
    exact absurd (Prod.mk.inj h).1 Nat.toDigits_ne_nil
  · rename_i h
    exact absurd (Prod.mk.inj h).1 toDigits_ne_zero_cons
  · rename_i h
    cases h
    rfl

theorem readFraction_of_ends {rest : List Char} (hrest : EndsNumeral rest) :
    readFraction rest = some (none, rest) := by
  unfold readFraction
  split
  · exact absurd rfl (hrest '.' rfl).2.1
  · rfl

theorem readExponent_of_ends {rest : List Char} (hrest : EndsNumeral rest) :
    readExponent rest = some (none, rest) := by
  cases rest with
  | nil => rfl
  | cons c rest =>
    obtain ⟨-, -, he, hE⟩ := hrest c rfl
    simp [readExponent, he, hE]

theorem readSign_toDigits (n : Nat) (rest : List Char) :
    readSign (Nat.toDigits 10 n ++ rest) = (false, Nat.toDigits 10 n ++ rest) := by
  unfold readSign
  split
  · rename_i h
    cases hdigits : Nat.toDigits 10 n with
    | nil => exact absurd hdigits Nat.toDigits_ne_nil
    | cons c digits =>
      rw [hdigits, List.cons_append] at h
      obtain ⟨rfl, -⟩ := List.cons.inj h
      have hdigit : '-'.isDigit = true := isDigit_toDigits (n := n) '-' (by simp [hdigits])
      exact absurd hdigit (by decide)
  · rfl

/-- Digits, after a sign or not, are read as a numeral. -/
theorem readNumeral_of_sign {cs rest : List Char} {negative : Bool} {n : Nat}
    (hsign : readSign cs = (negative, Nat.toDigits 10 n ++ rest)) (hrest : EndsNumeral rest) :
    readNumeral cs = some (⟨negative, Nat.toDigits 10 n, none, none⟩, rest) := by
  unfold readNumeral
  simp only [hsign, readWhole_toDigits hrest, readFraction_of_ends hrest,
    readExponent_of_ends hrest]

theorem ofInt?_eq {i : Int} (fits : -0x8000000000000000 ≤ i ∧ i < 0x10000000000000000) :
    JsonNumber.ofInt? i = some (.integer i fits) := dif_pos fits

/-- **The text of an exact number is read as that number.** -/
theorem readNumeral_integer {i : Int} {rest : List Char}
    (fits : -0x8000000000000000 ≤ i ∧ i < 0x10000000000000000) (hrest : EndsNumeral rest) :
    ∃ numeral, readNumeral ((JsonNumber.integer i fits).render.toList ++ rest) =
        some (numeral, rest) ∧ numeral.toNumber? = some (.integer i fits) := by
  rw [JsonNumber.render, Int.toString_eq_repr, Int.repr_eq_if]
  split
  · rename_i hi
    refine ⟨⟨false, Nat.toDigits 10 i.toNat, none, none⟩, ?_, ?_⟩
    · rw [Nat.toList_repr]
      exact readNumeral_of_sign (readSign_toDigits _ _) hrest
    · have htake : takeDigits 0 (Nat.toDigits 10 i.toNat) = (i.toNat, 0) :=
        takeDigits_toDigits (by unfold maxWord; omega)
      simp only [Numeral.toNumber?, htake, ne_eq, not_true_eq_false, if_false, Bool.false_eq_true]
      rw [Int.toNat_of_nonneg hi, ofInt?_eq fits]
  · rename_i hi
    refine ⟨⟨true, Nat.toDigits 10 (-i).toNat, none, none⟩, ?_, ?_⟩
    · rw [String.toList_append, Nat.toList_repr]
      exact readNumeral_of_sign rfl hrest
    · have htake : takeDigits 0 (Nat.toDigits 10 (-i).toNat) = ((-i).toNat, 0) :=
        takeDigits_toDigits (by unfold maxWord; omega)
      have hexact : ¬((-i).toNat = 0 ∨ 0x8000000000000000 < (-i).toNat) := by omega
      simp only [Numeral.toNumber?, htake, ne_eq, not_true_eq_false, if_false, if_true, if_neg hexact]
      rw [Int.toNat_of_nonneg (by omega), Int.neg_neg, ofInt?_eq fits]

/-- The text of an exact number begins with a sign or a digit. -/
theorem head_render_integer {i : Int}
    (fits : -0x8000000000000000 ≤ i ∧ i < 0x10000000000000000) :
    ∃ c cs, (JsonNumber.integer i fits).render.toList = c :: cs ∧ (c = '-' ∨ c.isDigit = true) := by
  rw [JsonNumber.render, Int.toString_eq_repr, Int.repr_eq_if]
  split
  · rw [Nat.toList_repr]
    cases hdigits : Nat.toDigits 10 i.toNat with
    | nil => exact absurd hdigits Nat.toDigits_ne_nil
    | cons c cs =>
      exact ⟨c, cs, rfl, Or.inr (isDigit_toDigits (n := i.toNat) c (by simp [hdigits]))⟩
  · exact ⟨'-', (-i).toNat.repr.toList, by rw [String.toList_append]; rfl, Or.inl rfl⟩

/-! ## Strings -/

namespace Raw

theorem hexValue?_hexDigit : ∀ d, d < 16 → hexValue? (Text.hexDigit d) = some d := by
  decide

theorem readPieces_escape {c e : Char} (hu : c ≠ 'u') (he : escaped? c = some e)
    (pieces : List Piece) (rest : List Char) :
    readPieces pieces ('\\' :: c :: rest) = readPieces (.char e :: pieces) rest := by
  rw [readPieces.eq_def]
  split
  · rename_i h
    cases h
  · rename_i h
    cases h
  · rename_i h
    exact absurd (List.cons.inj (List.cons.inj h).2).1 hu
  · rename_i h
    obtain ⟨-, h⟩ := List.cons.inj h
    obtain ⟨rfl, rfl⟩ := List.cons.inj h
    rw [he]
  · rename_i hother h
    obtain ⟨rfl, rfl⟩ := List.cons.inj h
    exact absurd rfl (hother c rest rfl)

theorem readPieces_unit {a b c d : Char} {n : Nat} (h : hexUnit? a b c d = some n)
    (pieces : List Piece) (rest : List Char) :
    readPieces pieces ('\\' :: 'u' :: a :: b :: c :: d :: rest) =
      readPieces (.unit n :: pieces) rest := by
  rw [readPieces, h]

theorem readPieces_plain {c : Char} (hquote : c ≠ '"') (hslash : c ≠ '\\') (hc : ¬c.toNat < 32)
    (pieces : List Piece) (rest : List Char) :
    readPieces pieces (c :: rest) = readPieces (.char c :: pieces) rest := by
  rw [readPieces.eq_def]
  split
  · rename_i h
    cases h
  · rename_i h
    exact absurd (List.cons.inj h).1 hquote
  · rename_i h
    exact absurd (List.cons.inj h).1 hslash
  · rename_i h
    exact absurd (List.cons.inj h).1 hslash
  · rename_i h
    obtain ⟨rfl, rfl⟩ := List.cons.inj h
    simp [hc, hslash]

theorem decodePieces_unit {c : Char} (hc : c.toNat < 32) (after : List Piece) :
    decodePieces (.unit c.toNat :: after) = (decodePieces after).map (c :: ·) := by
  rw [decodePieces.eq_def]
  dsimp only
  rw [if_pos (Or.inl (by omega)), Char.ofNat_toNat]

/-- An escaped character is read as one piece, which is that character. -/
theorem readPieces_escapeChar (c : Char) :
    ∃ piece, (∀ pieces rest, readPieces pieces (escapeChar c ++ rest) =
        readPieces (piece :: pieces) rest) ∧
      ∀ after, decodePieces (piece :: after) = (decodePieces after).map (c :: ·) := by
  have hcode : ∀ {n : Nat}, c.toNat = n → Char.ofNat n = c := fun h => by rw [← h, Char.ofNat_toNat]
  unfold escapeChar
  split
  · rename_i h
    subst h
    exact ⟨.char '"', readPieces_escape (by decide) rfl, fun _ => rfl⟩
  split
  · rename_i h
    subst h
    exact ⟨.char '\\', readPieces_escape (by decide) rfl, fun _ => rfl⟩
  split
  · rename_i h
    subst h
    exact ⟨.char '\n', readPieces_escape (by decide) rfl, fun _ => rfl⟩
  split
  · rename_i h
    subst h
    exact ⟨.char '\r', readPieces_escape (by decide) rfl, fun _ => rfl⟩
  split
  · rename_i h
    subst h
    exact ⟨.char '\t', readPieces_escape (by decide) rfl, fun _ => rfl⟩
  split
  · rename_i h
    refine ⟨.char (Char.ofNat 8), readPieces_escape (by decide) rfl, fun after => ?_⟩
    rw [decodePieces, hcode h]
  split
  · rename_i h
    refine ⟨.char (Char.ofNat 12), readPieces_escape (by decide) rfl, fun after => ?_⟩
    rw [decodePieces, hcode h]
  split
  · rename_i h
    have hunit : hexUnit? '0' '0' (Text.hexDigit (c.toNat / 16)) (Text.hexDigit (c.toNat % 16)) =
        some c.toNat := by
      have hzero : hexValue? '0' = some 0 := rfl
      rw [hexUnit?, hzero, hexValue?_hexDigit _ (by omega), hexValue?_hexDigit _ (by omega)]
      dsimp only
      rw [Option.some.injEq]
      omega
    exact ⟨.unit c.toNat, readPieces_unit hunit, decodePieces_unit h⟩
  · rename_i hquote hslash _ _ _ _ _ hc
    exact ⟨.char c, readPieces_plain hquote hslash hc, fun _ => rfl⟩

/-- The escaped characters of a text are read as pieces, which are that text. -/
theorem readPieces_escaped (cs : List Char) :
    ∃ read, (∀ pieces rest, readPieces pieces (cs.flatMap escapeChar ++ '"' :: rest) =
        some (pieces.reverse ++ read, rest)) ∧
      decodePieces read = some cs := by
  induction cs with
  | nil => exact ⟨[], fun pieces rest => by rw [List.append_nil]; rfl, rfl⟩
  | cons c cs ih =>
    obtain ⟨piece, hread, hdecode⟩ := readPieces_escapeChar c
    obtain ⟨read, hrest, hcs⟩ := ih
    refine ⟨piece :: read, fun pieces rest => ?_, by rw [hdecode, hcs, Option.map_some]⟩
    rw [List.flatMap_cons, List.append_assoc, hread, hrest, List.reverse_cons, List.append_assoc,
      List.singleton_append]

/-- **The escaped characters of a string are read as that string.** -/
theorem readString_escaped (s : String) (rest : List Char) :
    readString (s.toList.flatMap escapeChar ++ '"' :: rest) = some (some s, rest) := by
  obtain ⟨read, hread, hdecode⟩ := readPieces_escaped s.toList
  rw [readString, hread]
  dsimp only
  rw [List.reverse_nil, List.nil_append, hdecode, Option.map_some, String.ofList_toList]

end Raw

end ContractCompiler.Json
