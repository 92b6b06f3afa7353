import ContractCompiler.Json.Raw

/-!
# Reading takes characters away

What is left of a text behind a numeral or a string is shorter than the text.

* `length_readNumeral`, `Raw.length_readString` — the two of them, for whatever reads on from there.
-/

namespace ContractCompiler.Json

variable {cs rest : List Char}

/-! ## Numerals -/

theorem length_spanDigits (cs : List Char) :
    (spanDigits cs).1.length + (spanDigits cs).2.length = cs.length := by
  induction cs with
  | nil => rfl
  | cons c rest ih =>
    unfold spanDigits
    split
    · simp only [List.length_cons]
      omega
    · simp

theorem length_readSign (cs : List Char) : (readSign cs).2.length ≤ cs.length := by
  unfold readSign
  split
  · exact Nat.le_succ _
  · exact Nat.le_refl _

theorem length_readWhole {digits : List Char} (h : readWhole cs = some (digits, rest)) :
    rest.length < cs.length := by
  have hlength := length_spanDigits cs
  unfold readWhole at h
  split at h
  · cases h
  · cases h
  · rename_i digits after hne _ hspan
    cases h
    have hdigits : 0 < digits.length := List.length_pos_iff.2 hne
    rw [hspan] at hlength
    dsimp only at hlength
    omega

theorem length_readFraction {fraction : Option (List Char)}
    (h : readFraction cs = some (fraction, rest)) : rest.length ≤ cs.length := by
  unfold readFraction at h
  split at h
  · rename_i after
    have hlength := length_spanDigits after
    dsimp only at h
    split at h
    · cases h
    · cases h
      rw [List.length_cons]
      omega
  · cases h
    exact Nat.le_refl _

theorem length_readExponent {exponent : Option (Bool × List Char)}
    (h : readExponent cs = some (exponent, rest)) : rest.length ≤ cs.length := by
  unfold readExponent at h
  split at h
  · cases h
    exact Nat.le_refl _
  · rename_i c after
    split at h
    · have hsign : (readExponentSign after).2.length ≤ after.length := by
        unfold readExponentSign
        split <;> simp
      have hlength := length_spanDigits (readExponentSign after).2
      dsimp only at h
      split at h
      · cases h
      · cases h
        rw [List.length_cons]
        omega
    · cases h
      exact Nat.le_refl _

/-- **A numeral takes at least one character.** -/
theorem length_readNumeral {numeral : Numeral} (h : readNumeral cs = some (numeral, rest)) :
    rest.length < cs.length := by
  have hsign := length_readSign cs
  unfold readNumeral at h
  dsimp only at h
  split at h
  · cases h
  · rename_i hwhole
    have hwhole := length_readWhole hwhole
    split at h
    · cases h
    · rename_i hfraction
      have hfraction := length_readFraction hfraction
      split at h
      · cases h
      · rename_i hexponent
        have hexponent := length_readExponent hexponent
        cases h
        omega

/-! ## Strings -/

namespace Raw

theorem length_readPieces {pieces read : List Piece} (h : readPieces pieces cs = some (read, rest)) :
    rest.length < cs.length := by
  fun_induction readPieces pieces cs with
  | case1 => cases h
  | case2 =>
    cases h
    exact Nat.lt_succ_self _
  | case4 | case6 | case7 => cases h
  | case3 _ _ _ _ _ _ _ _ ih | case5 _ _ _ _ _ _ ih | case8 _ _ _ _ _ _ _ ih =>
    have hrest := ih h
    simp only [List.length_cons]
    omega

/-- **The closing quote is taken away.** -/
theorem length_readString {s : Option String} (h : readString cs = some (s, rest)) :
    rest.length < cs.length := by
  unfold readString at h
  split at h
  · cases h
  · rename_i hpieces
    cases h
    exact length_readPieces hpieces

end Raw

end ContractCompiler.Json
