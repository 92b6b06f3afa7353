import Mathlib.Data.List.DropRight
import ContractCompiler.Text.Basic

/-!
# What trimming and normalizing keep

* `trim_eq_self_iff` — a text is left as it is when neither of its ends is white space.
* `trim_trim` — a trimmed text is left as it is.
* `exists_toList_normalized` — a first line without white space at its ends stays the first line.
* `eq_of_append_newline_eq` — a text has one first line.
* `count_normalized` — every character but white space stays as often as it was.
-/

namespace ContractCompiler.Text

/-! ## Trimming -/

variable {cs : List Char}

theorem trimStart_eq_self_iff : trimStart cs = cs ↔ ∀ c ∈ cs.head?, isBlank c = false := by
  unfold trimStart
  rw [List.dropWhile_eq_self_iff]
  cases cs <;> simp

theorem trimEnd_eq_self_iff : trimEnd cs = cs ↔ ∀ c ∈ cs.getLast?, isBlank c = false := by
  have hdrop : trimEnd cs = cs.rdropWhile isBlank := rfl
  rw [hdrop, List.rdropWhile_eq_self_iff]
  rcases List.eq_nil_or_concat cs with rfl | ⟨front, c, rfl⟩ <;> simp

/-- The end of a text is trimmed without touching its start. -/
theorem trimStart_trimEnd (h : trimStart cs = cs) : trimStart (trimEnd cs) = trimEnd cs := by
  rw [trimStart_eq_self_iff] at h ⊢
  have hprefix : trimEnd cs <+: cs := List.rdropWhile_prefix isBlank cs
  intro c hc
  obtain ⟨rest, hrest⟩ := hprefix
  refine h c ?_
  rw [← hrest, List.head?_append, Option.mem_def.1 hc]
  rfl

theorem trim_eq_self_iff :
    trim cs = cs ↔ (∀ c ∈ cs.head?, isBlank c = false) ∧ ∀ c ∈ cs.getLast?, isBlank c = false := by
  rw [← trimStart_eq_self_iff, ← trimEnd_eq_self_iff]
  constructor
  · intro h
    have hstart : trimStart (trim cs) = trim cs :=
      trimStart_trimEnd (List.dropWhile_idempotent isBlank cs)
    rw [h] at hstart
    have hend : trimEnd (trimStart cs) = cs := h
    rw [hstart] at hend
    exact ⟨hstart, hend⟩
  · rintro ⟨hstart, hend⟩
    rw [trim, hstart, hend]

/-- **A trimmed text is left as it is.** -/
theorem trim_trim (cs : List Char) : trim (trim cs) = trim cs := by
  have hstart : trimStart (trim cs) = trim cs :=
    trimStart_trimEnd (List.dropWhile_idempotent isBlank cs)
  have hend : trimEnd (trim cs) = trim cs := List.rdropWhile_idempotent isBlank (trimStart cs)
  rw [trim, hstart, hend]

/-! ## Normalizing -/

variable {line rest : List Char}

theorem splitLines_append_newline (h : '\n' ∉ line) (rest : List Char) :
    splitLines (line ++ '\n' :: rest) = line :: splitLines rest := by
  induction line with
  | nil => simp [splitLines]
  | cons c cs ih =>
    simp only [List.mem_cons, not_or] at h
    simp only [List.cons_append, splitLines, ih h.2, if_neg (Ne.symm h.1)]

/-- A text has one first line. -/
theorem eq_of_append_newline_eq {line' rest' : List Char} (h : '\n' ∉ line) (h' : '\n' ∉ line')
    (heq : line ++ '\n' :: rest = line' ++ '\n' :: rest') : line = line' := by
  have hlines := congrArg splitLines heq
  rw [splitLines_append_newline h, splitLines_append_newline h'] at hlines
  exact (List.cons.inj hlines).1

/-- What follows the first line begins with a newline, if there is anything. -/
theorem exists_joinLines_cons (line : List Char) (lines : List (List Char)) :
    ∃ back, joinLines (line :: lines) = line ++ back ∧ ∀ c ∈ back.head?, c = '\n' := by
  cases lines with
  | nil => exact ⟨[], (List.append_nil line).symm, fun c hc => by cases hc⟩
  | cons next more => exact ⟨_, rfl, fun c hc => by cases hc; rfl⟩

/-- Trimming the end of a text stops at a character that is not white space. -/
theorem trimEnd_append (h : ∃ c ∈ line.getLast?, isBlank c = false) (back : List Char) :
    trimEnd (line ++ back) = line ++ trimEnd back := by
  obtain ⟨c, hc, hblank⟩ := h
  obtain ⟨front, rfl⟩ := List.getLast?_eq_some_iff.1 hc
  have hkeeps : (front ++ [c]).reverse.dropWhile isBlank = (front ++ [c]).reverse := by
    simp [hblank]
  unfold trimEnd
  rw [List.reverse_append, List.dropWhile_append, hkeeps]
  split
  · rename_i hempty
    rw [List.isEmpty_iff.1 hempty]
    simp
  · simp

/-- **A first line without white space at its ends stays the first line.** -/
theorem exists_toList_normalized {code : String} (hcode : code.toList = line ++ '\n' :: rest)
    (hline : '\n' ∉ line) (hhead : ∃ c ∈ line.head?, isBlank c = false)
    (hlast : ∃ c ∈ line.getLast?, isBlank c = false) :
    ∃ tail, (normalized code).toList = line ++ '\n' :: tail := by
  have hlines : collapseBlankLines (splitLines code.toList) =
      line :: collapse .empty (splitLines rest) := by
    rw [hcode, splitLines_append_newline hline]
    rfl
  obtain ⟨back, hback, hnewline⟩ := exists_joinLines_cons line (collapse .empty (splitLines rest))
  have hstart : trimStart (line ++ back) = line ++ back := by
    refine trimStart_eq_self_iff.2 fun c hc => ?_
    obtain ⟨d, hd, hblank⟩ := hhead
    rw [List.head?_append, Option.mem_def.1 hd] at hc
    cases hc
    exact hblank
  have htext : (normalized code).toList = line ++ (trimEnd back ++ ['\n']) := by
    rw [normalized, hlines, hback, trim, hstart, trimEnd_append hlast, String.toList_ofList,
      List.append_assoc]
  have hprefix : trimEnd back <+: back := List.rdropWhile_prefix isBlank back
  rw [htext]
  cases htrimmed : trimEnd back with
  | nil => exact ⟨[], rfl⟩
  | cons c cs =>
    rw [htrimmed] at hprefix
    obtain ⟨more, hmore⟩ := hprefix
    obtain rfl : c = '\n' := hnewline c (by rw [← hmore]; rfl)
    exact ⟨cs ++ ['\n'], rfl⟩

/-! ## Characters that stay -/

section

variable {c : Char}

theorem count_dropWhile_isBlank (hc : isBlank c = false) (cs : List Char) :
    (cs.dropWhile isBlank).count c = cs.count c := by
  have htake : (cs.takeWhile isBlank).count c = 0 := by
    refine List.count_eq_zero.2 fun hmem => ?_
    rw [List.mem_takeWhile_imp hmem] at hc
    cases hc
  have hsplit := congrArg (List.count c) (List.takeWhile_append_dropWhile (p := isBlank) (l := cs))
  rwa [List.count_append, htake, Nat.zero_add] at hsplit

theorem count_trim (hc : isBlank c = false) (cs : List Char) : (trim cs).count c = cs.count c := by
  rw [trim, trimEnd, List.count_reverse, count_dropWhile_isBlank hc, List.count_reverse, trimStart,
    count_dropWhile_isBlank hc]

theorem count_flatten_cons (line : List Char) (lines : List (List Char)) :
    (line :: lines).flatten.count c = line.count c + lines.flatten.count c := by
  rw [List.flatten_cons, List.count_append]

theorem count_joinLines (hc : c ≠ '\n') (lines : List (List Char)) :
    (joinLines lines).count c = lines.flatten.count c := by
  induction lines with
  | nil => rfl
  | cons line rest ih =>
    cases rest with
    | nil => simp [joinLines]
    | cons next lines =>
      rw [joinLines, List.count_append, List.count_cons_of_ne hc.symm, ih, count_flatten_cons line]

theorem count_splitLines (hc : c ≠ '\n') (cs : List Char) :
    (splitLines cs).flatten.count c = cs.count c := by
  induction cs with
  | nil => rfl
  | cons d rest ih =>
    unfold splitLines
    split
    · rename_i hd
      rw [List.flatten_cons, List.nil_append, ih, hd, List.count_cons_of_ne hc.symm]
    · split
      · rename_i hnil
        rw [hnil] at ih
        simp [List.count_cons, ← ih]
      · rename_i line lines hcons
        rw [hcons] at ih
        rw [count_flatten_cons, List.count_cons, List.count_cons, ← ih, count_flatten_cons,
          Nat.add_right_comm]

/-- The lines of a run are blank, so leaving some of them out loses no other character. -/
theorem count_collapse (hc : isBlank c = false) (lines : List (List Char)) :
    ∀ {run : BlankRun}, run.lines.flatten.count c = 0 →
      (collapse run lines).flatten.count c = lines.flatten.count c := by
  induction lines with
  | nil => exact fun hrun => hrun
  | cons line rest ih =>
    intro run hrun
    cases rest with
    | nil => rw [collapse, List.flatten_append, List.count_append, hrun, Nat.zero_add]
    | cons next lines =>
      unfold collapse
      split
      · rename_i hline
        have hblank : line.count c = 0 := by
          refine List.count_eq_zero.2 fun hmem => ?_
          have hpadding := List.all_eq_true.1 hline c hmem
          have hspace : c = ' ' ∨ c = '\t' := by simpa [isPadding] using hpadding
          rcases hspace with rfl | rfl <;> cases hc
        have hadd : (run.add line).lines.flatten.count c = 0 := by
          cases run <;> simp [BlankRun.add, BlankRun.lines, hblank]
        rw [ih hadd, count_flatten_cons line, hblank, Nat.zero_add]
      · rw [List.flatten_append, List.count_append, hrun, Nat.zero_add, count_flatten_cons line,
          ih rfl, count_flatten_cons line]

/-- **Every character but white space stays as often as it was.** -/
theorem count_normalized (hc : isBlank c = false) (code : String) :
    (normalized code).toList.count c = code.toList.count c := by
  have hnewline : c ≠ '\n' := by
    rintro rfl
    cases hc
  have hcollapse : (collapseBlankLines (splitLines code.toList)).flatten.count c =
      (splitLines code.toList).flatten.count c := by
    cases hlines : splitLines code.toList with
    | nil => rfl
    | cons first lines =>
      rw [collapseBlankLines, count_flatten_cons, count_collapse hc lines rfl, count_flatten_cons]
  calc (normalized code).toList.count c
      = (joinLines (collapseBlankLines (splitLines code.toList))).count c := by
        rw [normalized, String.toList_ofList, List.count_append, count_trim hc,
          List.count_singleton, if_neg (by simpa using hnewline.symm), Nat.add_zero]
    _ = (splitLines code.toList).flatten.count c := by rw [count_joinLines hnewline, hcollapse]
    _ = code.toList.count c := count_splitLines hnewline _

end

end ContractCompiler.Text
