import Mathlib.Data.List.Chain
import ContractCompiler.Proofs.Text.Lines

/-!
# The normal form of generated code

Collapsing leaves no two blank lines together, trimming leaves no line without text at either end, and
neither touches what stands on the lines with text. So normalized code is a normal form of the code.

* `textLines_collapse`, `blanksBefore_collapse` — collapsing keeps the lines with text, and which of
  them stand apart.
* `isChain_collapse` — no two blank lines are left together before the last line.
* `collapse_of_isChain` — lines of which no two are blank together are left as they are.
* `normalized_normalized` — normalizing twice is normalizing once.
* `normalized_isNormalForm` — the four laws of the normal form.
-/

namespace ContractCompiler.Text

variable {line : List Char} {lines : List (List Char)} {run : BlankRun}

/-! ## Collapsing -/

/-- The lines of the run hold spaces and tabs only. -/
def BlankRun.IsPadding (run : BlankRun) : Prop := ∀ line ∈ run.lines, isPaddingLine line = true

theorem BlankRun.isPadding_empty : BlankRun.empty.IsPadding := fun _ h => by cases h

theorem BlankRun.isPadding_add (run : BlankRun) (h : isPaddingLine line = true) :
    (run.add line).IsPadding := by
  cases run with
  | empty => exact List.forall_mem_singleton.2 h
  | single | several => exact List.forall_mem_singleton.2 rfl

theorem BlankRun.IsPadding.isBlankLine (h : run.IsPadding) :
    ∀ line ∈ run.lines, isBlankLine line = true :=
  fun line hline => isBlankLine_of_isPaddingLine (h line hline)

theorem collapse_cons (hne : lines ≠ []) :
    collapse run (line :: lines) =
      if isPaddingLine line then collapse (run.add line) lines
      else run.lines ++ line :: collapse .empty lines := by
  obtain ⟨next, more, rfl⟩ := List.exists_cons_of_ne_nil hne
  rw [collapse]

theorem collapse_ne_nil (run : BlankRun) (hne : lines ≠ []) : collapse run lines ≠ [] := by
  induction lines generalizing run with
  | nil => exact absurd rfl hne
  | cons line rest ih =>
    rcases eq_or_ne rest [] with rfl | hrest
    · simp [collapse]
    · rw [collapse_cons hrest]
      split
      · exact ih _ hrest
      · simp

/-- **Collapsing keeps the lines with text.** -/
theorem textLines_collapse (hrun : run.IsPadding) (lines : List (List Char)) :
    textLines (collapse run lines) = textLines lines := by
  induction lines generalizing run with
  | nil => exact textLines_eq_nil hrun.isBlankLine
  | cons line rest ih =>
    rcases eq_or_ne rest [] with rfl | hrest
    · rw [collapse, textLines_append, textLines_eq_nil hrun.isBlankLine, List.nil_append]
    · rw [collapse_cons hrest, textLines_cons line rest]
      split
      · rename_i hline
        have hblank : ∀ l ∈ [line], isBlankLine l = true :=
          List.forall_mem_singleton.2 (isBlankLine_of_isPaddingLine hline)
        rw [ih (run.isPadding_add hline), textLines_eq_nil hblank, List.nil_append]
      · rw [textLines_append, textLines_eq_nil hrun.isBlankLine, List.nil_append, textLines_cons,
          ih BlankRun.isPadding_empty]

/-- **Collapsing keeps which lines with text stand apart**: a run of blank lines never goes away. -/
theorem blanksBefore_collapse (hrun : run.IsPadding) (after : Bool) (lines : List (List Char)) :
    blanksBefore after (collapse run lines) = blanksBefore (after || !run.lines.isEmpty) lines := by
  induction lines generalizing run after with
  | nil =>
    have hblank := blanksBefore_blank_append hrun.isBlankLine after []
    rwa [List.append_nil] at hblank
  | cons line rest ih =>
    rcases eq_or_ne rest [] with rfl | hrest
    · rw [collapse, blanksBefore_blank_append hrun.isBlankLine]
    · rw [collapse_cons hrest]
      split
      · rename_i hline
        have hadd : (run.add line).lines.isEmpty = false := by cases run <;> rfl
        rw [ih (run.isPadding_add hline), hadd, Bool.not_false, Bool.or_true, blanksBefore,
          if_pos (isBlankLine_of_isPaddingLine hline)]
      · rw [blanksBefore_blank_append hrun.isBlankLine, blanksBefore, blanksBefore,
          ih BlankRun.isPadding_empty, ih BlankRun.isPadding_empty]
        simp [BlankRun.lines]

/-- Two lines are not both blank. -/
def NotBothPadding (line next : List Char) : Prop :=
  ¬(isPaddingLine line = true ∧ isPaddingLine next = true)

theorem NotBothPadding.of_left {next : List Char} (h : ¬isPaddingLine line = true) :
    NotBothPadding line next := fun hboth => h hboth.1

theorem NotBothPadding.of_right {next : List Char} (h : ¬isPaddingLine next = true) :
    NotBothPadding line next := fun hboth => h hboth.2

/-- A line that is not blank may stand between any lines. -/
theorem isChain_append_cons {before after : List (List Char)} (hline : ¬isPaddingLine line = true)
    (hbefore : before.IsChain NotBothPadding) (hafter : after.IsChain NotBothPadding) :
    (before ++ line :: after).IsChain NotBothPadding := by
  refine List.isChain_append.2 ⟨hbefore, List.isChain_cons.2 ⟨?_, hafter⟩, ?_⟩
  · exact fun _ _ => .of_left hline
  · rintro last - _ hhead
    cases hhead
    exact .of_right hline

/-- **No two blank lines are left together** before the last line, which belongs to no run. -/
theorem isChain_collapse (run : BlankRun) (lines : List (List Char)) :
    (collapse run lines).dropLast.IsChain NotBothPadding := by
  have hrun : ∀ run : BlankRun, run.lines.IsChain NotBothPadding := by
    intro run
    cases run with
    | empty => exact .nil
    | single | several => exact .singleton _
  induction lines generalizing run with
  | nil => exact (hrun run).dropLast
  | cons line rest ih =>
    rcases eq_or_ne rest [] with rfl | hrest
    · rw [collapse, List.dropLast_concat]
      exact hrun run
    · rw [collapse_cons hrest]
      split
      · exact ih _
      · rename_i hline
        rw [List.dropLast_append_of_ne_nil (List.cons_ne_nil _ _),
          List.dropLast_cons_of_ne_nil (collapse_ne_nil _ hrest)]
        exact isChain_append_cons hline (hrun run) (ih _)

/-- **Lines of which no two are blank together are left as they are.** -/
theorem collapse_of_isChain (hrun : run.IsPadding) (last : List Char)
    (h : (run.lines ++ lines).IsChain NotBothPadding) :
    collapse run (lines ++ [last]) = run.lines ++ (lines ++ [last]) := by
  induction lines generalizing run with
  | nil => rfl
  | cons line rest ih =>
    rw [List.cons_append, collapse_cons (by simp)]
    split
    · rename_i hline
      -- a run before a blank line would make two of them
      obtain rfl : run = .empty := by
        cases run with
        | empty => rfl
        | single other =>
          have hpair := (List.isChain_cons_cons.1 h).1
          exact absurd ⟨hrun other List.mem_cons_self, hline⟩ hpair
        | several =>
          have hpair := (List.isChain_cons_cons.1 h).1
          exact absurd ⟨rfl, hline⟩ hpair
      exact ih (BlankRun.isPadding_add _ hline) h
    · have hrest : rest.IsChain NotBothPadding :=
        h.suffix ((List.suffix_cons line rest).trans (List.suffix_append _ _))
      rw [ih BlankRun.isPadding_empty hrest]
      rfl

/-- No newline is put into a line. -/
theorem newline_notMem_of_mem_collapse (hrun : ∀ l ∈ run.lines, '\n' ∉ l)
    (h : ∀ l ∈ lines, '\n' ∉ l) : ∀ l ∈ collapse run lines, '\n' ∉ l := by
  induction lines generalizing run with
  | nil => exact hrun
  | cons line rest ih =>
    obtain ⟨hline, hlines⟩ := List.forall_mem_cons.1 h
    rcases eq_or_ne rest [] with rfl | hrest
    · rw [collapse]
      exact List.forall_mem_append.2 ⟨hrun, h⟩
    · rw [collapse_cons hrest]
      split
      · refine ih ?_ hlines
        cases run with
        | empty => exact List.forall_mem_singleton.2 hline
        | single | several => exact List.forall_mem_singleton.2 List.not_mem_nil
      · exact List.forall_mem_append.2
          ⟨hrun, List.forall_mem_cons.2 ⟨hline, ih (fun l hl => by cases hl) hlines⟩⟩

/-! ## Trimming -/

theorem isChain_dropLast_suffix {back : List (List Char)} (h : lines.dropLast.IsChain NotBothPadding)
    (hback : back <:+ lines) : back.dropLast.IsChain NotBothPadding := by
  obtain ⟨front, rfl⟩ := hback
  rcases eq_or_ne back [] with rfl | hne
  · exact .nil
  · rw [List.dropLast_append_of_ne_nil hne] at h
    exact h.suffix (List.suffix_append _ _)

/-- The last line that is kept is not blank, so nothing has to be known of the last line. -/
theorem isChain_rdropWhile (h : lines.dropLast.IsChain NotBothPadding) :
    (lines.rdropWhile isBlankLine).IsChain NotBothPadding := by
  rcases List.eq_nil_or_concat lines with rfl | ⟨front, last, rfl⟩
  · exact .nil
  · rw [List.concat_eq_append, List.dropLast_concat] at h
    rw [List.concat_eq_append, List.rdropWhile_concat]
    split
    · have hsplit : front.rdropWhile isBlankLine ++ front.rtakeWhile isBlankLine = front :=
        List.rdropWhile_append_rtakeWhile
      rw [← hsplit] at h
      exact h.left_of_append
    · rename_i hlast
      exact isChain_append_cons (fun hpadding => hlast (isBlankLine_of_isPaddingLine hpadding)) h .nil

/-- The first line belongs to no run, but it is kept only when it has text. -/
theorem isChain_bodyLines {first : List Char} {rest : List (List Char)}
    (h : rest.dropLast.IsChain NotBothPadding) :
    (bodyLines (first :: rest)).IsChain NotBothPadding := by
  refine isChain_rdropWhile ?_
  rw [List.dropWhile_cons]
  split
  · exact isChain_dropLast_suffix h (List.dropWhile_suffix _)
  · rename_i hfirst
    have hpadding : ¬isPaddingLine first = true :=
      fun hpadding => hfirst (isBlankLine_of_isPaddingLine hpadding)
    rcases eq_or_ne rest [] with rfl | hrest
    · exact .nil
    · rw [List.dropLast_cons_of_ne_nil hrest]
      exact isChain_append_cons hpadding .nil h

/-- A line with text is not blank after trimming either. -/
theorem isChain_trimEnds (h : TextAtEnds lines) (hchain : lines.IsChain NotBothPadding) :
    (trimEnds lines).IsChain NotBothPadding := by
  have hfalse : ∀ line, isBlankLine line = false → isPaddingLine line = false := fun line hline =>
    Bool.eq_false_iff.2 fun hpadding => by
      rw [isBlankLine_of_isPaddingLine hpadding] at hline
      cases hline
  have hmap : (trimEnds lines).map isPaddingLine = lines.map isPaddingLine := by
    refine h.map_trimEnds (fun line hline => ?_) fun line hline => ?_
    · rw [hfalse line hline, hfalse _ ((isBlankLine_trimStart line).trans hline)]
    · rw [hfalse line hline, hfalse _ ((isBlankLine_trimEnd line).trans hline)]
  have hflags := (List.isChain_map (R := fun a b => ¬(a = true ∧ b = true)) isPaddingLine).2 hchain
  rw [← hmap] at hflags
  exact (List.isChain_map isPaddingLine).1 hflags

theorem newline_notMem_of_mem_trimEnds (h : ∀ l ∈ lines, '\n' ∉ l) :
    ∀ l ∈ trimEnds lines, '\n' ∉ l := by
  have hhead : ∀ l ∈ lines.modifyHead trimStart, '\n' ∉ l := by
    cases lines with
    | nil => exact h
    | cons first rest =>
      obtain ⟨hfirst, hrest⟩ := List.forall_mem_cons.1 h
      rw [List.modifyHead_cons]
      exact List.forall_mem_cons.2
        ⟨fun hmem => hfirst ((List.dropWhile_suffix isBlank).subset hmem), hrest⟩
  rw [trimEnds]
  rcases List.eq_nil_or_concat (lines.modifyHead trimStart) with hnil | ⟨front, last, hconcat⟩
  · rw [hnil]
    exact fun l hl => by cases hl
  · rw [hconcat, List.concat_eq_append] at hhead ⊢
    obtain ⟨hfront, hlast⟩ := List.forall_mem_append.1 hhead
    have hkept : trimEnd last <+: last := List.rdropWhile_prefix isBlank last
    rw [List.modifyLast_concat]
    exact List.forall_mem_append.2 ⟨hfront, List.forall_mem_singleton.2 fun hmem =>
      hlast last List.mem_cons_self (hkept.subset hmem)⟩

/-! ## The normal form -/

/-- The lines of normalized code. -/
def normalLines (code : String) : List (List Char) :=
  trimEnds (bodyLines (collapseBlankLines (splitLines code.toList)))

theorem toList_normalized (code : String) :
    (normalized code).toList = joinLines (normalLines code) ++ ['\n'] := by
  rw [normalized, String.toList_ofList, trim_joinLines, normalLines]

theorem textLines_collapseBlankLines (lines : List (List Char)) :
    textLines (collapseBlankLines lines) = textLines lines := by
  cases lines with
  | nil => rfl
  | cons first rest =>
    rw [collapseBlankLines, textLines_cons, textLines_collapse BlankRun.isPadding_empty,
      ← textLines_cons]

theorem separations_collapseBlankLines (lines : List (List Char)) :
    separations (collapseBlankLines lines) = separations lines := by
  cases lines with
  | nil => rfl
  | cons first rest =>
    rw [collapseBlankLines, separations, separations, blanksBefore, blanksBefore,
      blanksBefore_collapse BlankRun.isPadding_empty, blanksBefore_collapse BlankRun.isPadding_empty]
    simp [BlankRun.lines]

theorem newline_notMem_of_mem_normalLines (code : String) :
    ∀ l ∈ normalLines code, '\n' ∉ l := by
  have hsplit : ∀ l ∈ splitLines code.toList, '\n' ∉ l := fun l hl =>
    newline_notMem_of_mem_splitLines hl
  have hcollapse : ∀ l ∈ collapseBlankLines (splitLines code.toList), '\n' ∉ l := by
    cases hlines : splitLines code.toList with
    | nil => exact fun l hl => by cases hl
    | cons first rest =>
      rw [hlines] at hsplit
      obtain ⟨hfirst, hrest⟩ := List.forall_mem_cons.1 hsplit
      exact List.forall_mem_cons.2
        ⟨hfirst, newline_notMem_of_mem_collapse (fun l hl => by cases hl) hrest⟩
  exact newline_notMem_of_mem_trimEnds (newline_notMem_of_mem_bodyLines hcollapse)

theorem isChain_normalLines (code : String) : (normalLines code).IsChain NotBothPadding := by
  refine isChain_trimEnds (textAtEnds_bodyLines _) ?_
  obtain ⟨first, rest, hlines⟩ := List.exists_cons_of_ne_nil (splitLines_ne_nil code.toList)
  rw [hlines, collapseBlankLines]
  exact isChain_bodyLines (isChain_collapse .empty rest)

theorem textLines_normalLines (code : String) :
    textLines (normalLines code) = trimEnds (textLines (splitLines code.toList)) := by
  rw [normalLines, (textAtEnds_bodyLines _).textLines_trimEnds, textLines_bodyLines,
    textLines_collapseBlankLines]

theorem separations_normalLines (code : String) :
    separations (normalLines code) = separations (splitLines code.toList) := by
  rw [normalLines, (textAtEnds_bodyLines _).separations_trimEnds, separations_bodyLines,
    separations_collapseBlankLines]

/-- What does not tell one empty line from no line at all is read off the joined text. -/
theorem apply_splitLines_joinLines {α : Sort*} {f : List (List Char) → α} (hf : f [[]] = f [])
    (h : ∀ l ∈ lines, '\n' ∉ l) : f (splitLines (joinLines lines)) = f lines := by
  rcases eq_or_ne lines [] with rfl | hne
  · exact hf
  · rw [splitLines_joinLines h hne]

theorem trim_append_of_blank (h : isBlankLine line = true) (cs : List Char) :
    trim (cs ++ line) = trim cs := by
  cases hcs : isBlankLine cs with
  | true =>
    have hblank : isBlankLine (cs ++ line) = true := by
      rw [isBlankLine, List.all_append]
      exact Bool.and_eq_true_iff.2 ⟨hcs, h⟩
    have hstart : ∀ cs, isBlankLine cs = true → trimStart cs = [] := fun cs hcs =>
      List.dropWhile_eq_nil_iff.2 (List.all_eq_true.1 hcs)
    rw [trim, trim, hstart _ hblank, hstart _ hcs]
  | false => rw [trim, trimStart_append_of_text hcs, trimEnd_append_of_blank h, trim]

theorem trim_normalLines (code : String) :
    trim (joinLines (normalLines code)) = joinLines (normalLines code) := by
  rw [normalLines, ← trim_joinLines, trim_trim]

theorem isChain_splitLines_normalLines (code : String) :
    (splitLines (joinLines (normalLines code))).IsChain NotBothPadding := by
  have hchain := isChain_normalLines code
  rwa [← apply_splitLines_joinLines (f := fun lines => lines.IsChain NotBothPadding) (by simp)
    (newline_notMem_of_mem_normalLines code)] at hchain

/-- The newline at the end begins a last line that is empty. -/
theorem splitLines_normalized (code : String) :
    splitLines (normalized code).toList = splitLines (joinLines (normalLines code)) ++ [[]] := by
  rw [toList_normalized, splitLines_append_singleton]

/-- **Normalizing twice is normalizing once.** -/
theorem normalized_normalized (code : String) : normalized (normalized code) = normalized code := by
  have hsame : collapseBlankLines (splitLines (normalized code).toList) =
      splitLines (normalized code).toList := by
    have hchain := isChain_splitLines_normalLines code
    obtain ⟨first, rest, hcons⟩ :=
      List.exists_cons_of_ne_nil (splitLines_ne_nil (joinLines (normalLines code)))
    rw [hcons] at hchain
    rw [splitLines_normalized, hcons, List.cons_append, collapseBlankLines]
    exact congrArg (first :: ·) (collapse_of_isChain BlankRun.isPadding_empty [] hchain.tail)
  rw [← String.toList_inj, normalized.eq_1 (normalized code), hsame, joinLines_splitLines,
    toList_normalized, trim_append_of_blank (by decide), trim_normalLines, String.toList_ofList]

/-- What it means that `text` is the normal form of `code`. -/
structure IsNormalForm (code text : String) : Prop where
  /-- Normalizing changes it no more. -/
  fixed : normalized text = text
  /-- One newline ends it, and no two of the lines that newlines end are blank together. -/
  lines : ∃ body, text.toList = body ++ ['\n'] ∧ body.getLast? ≠ some '\n' ∧
    (splitLines body).IsChain NotBothPadding
  /-- The lines with text are those of the code, but for white space at the start of the first and at
  the end of the last. -/
  textLines : textLines (splitLines text.toList) = trimEnds (textLines (splitLines code.toList))
  /-- The same lines with text stand apart. -/
  separations : separations (splitLines text.toList) = separations (splitLines code.toList)

/-- **Normalized code is a normal form of the code.** -/
theorem normalized_isNormalForm (code : String) : IsNormalForm code (normalized code) := by
  have hfree := newline_notMem_of_mem_normalLines code
  have hblank : ∀ l ∈ [([] : List Char)], isBlankLine l = true := List.forall_mem_singleton.2 rfl
  constructor
  case fixed => exact normalized_normalized code
  case lines =>
    refine ⟨joinLines (normalLines code), toList_normalized code, fun hlast => ?_,
      isChain_splitLines_normalLines code⟩
    have hnewline := (trim_eq_self_iff.1 (trim_normalLines code)).2 '\n' hlast
    rw [isBlank_newline] at hnewline
    cases hnewline
  case textLines =>
    rw [splitLines_normalized, textLines_append, textLines_eq_nil hblank, List.append_nil,
      apply_splitLines_joinLines (f := textLines) rfl hfree, textLines_normalLines]
  case separations =>
    rw [splitLines_normalized, separations_append_blank hblank,
      apply_splitLines_joinLines (f := separations) rfl hfree, separations_normalLines]

end ContractCompiler.Text
