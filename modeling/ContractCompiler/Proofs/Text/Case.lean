import ContractCompiler.Text.Case

/-!
# What lower case leaves alone

Case mappings lead to letters. The ASCII characters before the small letters, separators of paths
among them, stand in a text in lower case only where they stood before.

* `mem_of_mem_lowercase` — such a character of the text in lower case is one of the text.
-/

namespace ContractCompiler.Text

/-- The first of the small letters of ASCII. -/
def firstSmallLetter : Nat := 0x61

/-- An ASCII character before the small letters, other than the null character. -/
def PrecedesSmallLetters (d : Char) : Prop := 0 < d.toNat ∧ d.toNat < firstSmallLetter

instance (d : Char) : Decidable (PrecedesSmallLetters d) :=
  inferInstanceAs (Decidable (0 < d.toNat ∧ d.toNat < firstSmallLetter))

/-- A mapping that leads beyond a bound leaves what it takes to a code point below the bound. -/
theorem apply_eq_self_of_lt {bound n : Nat} {shifts : List CaseShift}
    (hshifts : ∀ s ∈ shifts, (bound : Int) ≤ s.range.first + s.shift)
    (h : CaseShift.apply shifts n < bound) : CaseShift.apply shifts n = n := by
  induction shifts with
  | nil => rfl
  | cons s rest ih =>
    obtain ⟨hs, hrest⟩ := List.forall_mem_cons.1 hshifts
    unfold CaseShift.apply at h ⊢
    split
    · rfl
    · rename_i hfirst
      rw [if_neg hfirst] at h
      split
      · -- a member of the range is mapped beyond the bound
        rename_i hhas
        rw [if_pos hhas] at h
        omega
      · rename_i hhas
        rw [if_neg hhas] at h
        exact ih hrest h

theorem firstSmallLetter_le_lowerShifts :
    ∀ s ∈ lowerShifts, (firstSmallLetter : Int) ≤ s.range.first + s.shift := by
  decide +kernel

theorem toNat_ofNat_of_pos {n : Nat} (h : 0 < (Char.ofNat n).toNat) : (Char.ofNat n).toNat = n := by
  by_cases hn : n.isValidChar
  · rw [Char.ofNat, dif_pos hn]
    rfl
  · rw [Char.ofNat, dif_neg hn] at h
    cases h

theorem eq_of_mem_lowerChar {c d : Char} (hd : PrecedesSmallLetters d) (h : d ∈ lowerChar c) :
    d = c := by
  unfold lowerChar at h
  split at h
  · -- the dotted capital I gives a letter and a combining dot
    rcases List.mem_cons.1 h with rfl | h
    · exact absurd hd (by decide)
    · rw [List.mem_singleton.1 h] at hd
      exact absurd hd (by decide)
  · obtain rfl := List.mem_singleton.1 h
    have hnat := toNat_ofNat_of_pos hd.1
    have hlt := hd.2
    rw [hnat] at hlt
    rw [apply_eq_self_of_lt firstSmallLetter_le_lowerShifts hlt, Char.ofNat_toNat]

theorem mem_of_mem_lowercaseAfter {d : Char} (hd : PrecedesSmallLetters d) {cs : List Char} :
    ∀ {before : List Char}, d ∈ lowercaseAfter before cs → d ∈ cs := by
  induction cs with
  | nil => exact fun h => h
  | cons c rest ih =>
    intro before h
    unfold lowercaseAfter at h
    rcases List.mem_append.1 h with h | h
    · split at h
      · rw [List.mem_singleton.1 h] at hd
        exact absurd hd (by decide)
      · exact List.mem_cons.2 (Or.inl (eq_of_mem_lowerChar hd h))
    · exact List.mem_cons_of_mem _ (ih h)

/-- **A character before the small letters that stands in a text in lower case stood in the text.** -/
theorem mem_of_mem_lowercase {d : Char} (hd : PrecedesSmallLetters d) {s : String}
    (h : d ∈ (lowercase s).toList) : d ∈ s.toList := by
  rw [lowercase, String.toList_ofList] at h
  exact mem_of_mem_lowercaseAfter hd h

end ContractCompiler.Text
