import Mathlib.Data.List.DropRight
import Mathlib.Data.List.ModifyLast
import ContractCompiler.Proofs.Text.BlankLines
import ContractCompiler.Text.Basic

/-!
# Trimming, line by line

A text is its lines with newlines between them. White space at the ends of a text is lines without
text, and then white space at the ends of the lines that are left.

* `splitLines_joinLines`, `joinLines_splitLines` — a text and its lines determine each other.
* `trim_joinLines` — a text is trimmed by leaving out the outer lines without text and trimming the
  ends of what is left.
* `textLines_trimEnds`, `separations_trimEnds` — that changes neither which lines have text nor which
  of these stand apart.
-/

namespace ContractCompiler.Text

variable {line cs : List Char} {lines : List (List Char)}

/-! ## Lines -/

theorem splitLines_eq_splitOn (cs : List Char) : splitLines cs = cs.splitOn '\n' := by
  induction cs with
  | nil => rfl
  | cons c rest ih =>
    rw [splitLines, ih, List.splitOn_eq_splitOnP, List.splitOn_eq_splitOnP,
      List.splitOnP_cons_eq_if_modifyHead]
    by_cases hc : c = '\n'
    · simp [hc]
    · rw [if_neg hc, if_neg (by simpa using hc)]
      cases h : List.splitOnP (· == '\n') rest with
      | nil => exact absurd h (List.splitOnP_ne_nil _ rest)
      | cons line lines => rfl

theorem joinLines_eq_intercalate (lines : List (List Char)) :
    joinLines lines = ['\n'].intercalate lines := by
  induction lines with
  | nil => rfl
  | cons line rest ih =>
    cases rest with
    | nil => simp [joinLines]
    | cons next more =>
      rw [joinLines, ih, List.intercalate_cons_cons, List.append_assoc, List.singleton_append]

theorem joinLines_splitLines (cs : List Char) : joinLines (splitLines cs) = cs := by
  rw [joinLines_eq_intercalate, splitLines_eq_splitOn, List.intercalate_splitOn]

theorem splitLines_ne_nil (cs : List Char) : splitLines cs ≠ [] := by
  rw [splitLines_eq_splitOn]
  exact List.splitOn_ne_nil '\n' cs

/-- Lines without newlines are those of the text that they are joined to. -/
theorem splitLines_joinLines (h : ∀ line ∈ lines, '\n' ∉ line) (hne : lines ≠ []) :
    splitLines (joinLines lines) = lines := by
  rw [joinLines_eq_intercalate, splitLines_eq_splitOn, List.splitOn_intercalate '\n' h hne]

theorem newline_notMem_of_mem_splitLines (h : line ∈ splitLines cs) : '\n' ∉ line := by
  induction cs generalizing line with
  | nil =>
    obtain rfl := List.mem_singleton.1 h
    exact List.not_mem_nil
  | cons c rest ih =>
    unfold splitLines at h
    split at h
    · rcases List.mem_cons.1 h with rfl | h
      · exact List.not_mem_nil
      · exact ih h
    · rename_i hc
      split at h
      · obtain rfl := List.mem_singleton.1 h
        simpa using Ne.symm hc
      · rename_i first lines hrest
        rw [hrest] at ih
        rcases List.mem_cons.1 h with rfl | h
        · rw [List.mem_cons, not_or]
          exact ⟨Ne.symm hc, ih List.mem_cons_self⟩
        · exact ih (List.mem_cons_of_mem _ h)

theorem joinLines_cons (hne : lines ≠ []) (line : List Char) :
    joinLines (line :: lines) = line ++ '\n' :: joinLines lines := by
  obtain ⟨next, more, rfl⟩ := List.exists_cons_of_ne_nil hne
  rw [joinLines]

theorem joinLines_append_singleton (hne : lines ≠ []) (line : List Char) :
    joinLines (lines ++ [line]) = joinLines lines ++ '\n' :: line := by
  induction lines with
  | nil => exact absurd rfl hne
  | cons first rest ih =>
    cases rest with
    | nil => rfl
    | cons next more =>
      have hrest : next :: more ≠ [] := List.cons_ne_nil next more
      rw [List.cons_append, joinLines_cons (by simp), ih hrest, joinLines_cons hrest,
        List.append_assoc, List.cons_append]

/-- A newline at the end of a text begins a line that is empty. -/
theorem splitLines_append_singleton (cs : List Char) :
    splitLines (cs ++ ['\n']) = splitLines cs ++ [[]] := by
  have hjoin : cs ++ ['\n'] = joinLines (splitLines cs ++ [[]]) := by
    rw [joinLines_append_singleton (splitLines_ne_nil cs), joinLines_splitLines]
  rw [hjoin, splitLines_joinLines _ (by simp)]
  intro line hline
  rcases List.mem_append.1 hline with hline | hline
  · exact newline_notMem_of_mem_splitLines hline
  · obtain rfl := List.mem_singleton.1 hline
    exact List.not_mem_nil

/-! ## Lines without text -/

def isBlankLine (line : List Char) : Bool := line.all isBlank

theorem isBlankLine_of_isPaddingLine (h : isPaddingLine line = true) : isBlankLine line = true := by
  rw [isPaddingLine, List.all_eq_true] at h
  rw [isBlankLine, List.all_eq_true]
  intro c hc
  have hspace : c = ' ' ∨ c = '\t' := by simpa [isPadding] using h c hc
  rcases hspace with rfl | rfl
  · exact isBlank_space
  · exact isBlank_tab

theorem isBlankLine_trimStart (line : List Char) : isBlankLine (trimStart line) = isBlankLine line := by
  have htake : (line.takeWhile isBlank).all isBlank = true :=
    List.all_eq_true.2 fun _ hc => List.mem_takeWhile_imp hc
  have hsplit := congrArg (fun cs => cs.all isBlank)
    (List.takeWhile_append_dropWhile (p := isBlank) (l := line))
  rwa [List.all_append, htake, Bool.true_and] at hsplit

theorem isBlankLine_trimEnd (line : List Char) : isBlankLine (trimEnd line) = isBlankLine line := by
  have h := isBlankLine_trimStart line.reverse
  rwa [isBlankLine, isBlankLine, List.all_reverse, ← List.all_reverse] at h

theorem trimStart_append_of_blank (h : isBlankLine line = true) (cs : List Char) :
    trimStart (line ++ cs) = trimStart cs :=
  List.dropWhile_append_of_pos (List.all_eq_true.1 h)

theorem trimStart_append_of_text (h : isBlankLine line = false) (cs : List Char) :
    trimStart (line ++ cs) = trimStart line ++ cs := by
  have hne : (line.dropWhile isBlank).isEmpty = false := by
    rw [List.isEmpty_eq_false_iff, ne_eq, List.dropWhile_eq_nil_iff, ← List.all_eq_true]
    exact Bool.eq_false_iff.1 h
  rw [trimStart, List.dropWhile_append, hne]
  rfl

theorem trimEnd_append_of_blank (h : isBlankLine line = true) (cs : List Char) :
    trimEnd (cs ++ line) = trimEnd cs := by
  have hreverse : isBlankLine line.reverse = true := by rwa [isBlankLine, List.all_reverse]
  have hdrop := trimStart_append_of_blank hreverse cs.reverse
  rw [trimEnd, List.reverse_append]
  exact congrArg List.reverse hdrop

theorem trimEnd_append_of_text (h : isBlankLine line = false) (cs : List Char) :
    trimEnd (cs ++ line) = cs ++ trimEnd line := by
  have hreverse : isBlankLine line.reverse = false := by rwa [isBlankLine, List.all_reverse]
  have hdrop := congrArg List.reverse (trimStart_append_of_text hreverse cs.reverse)
  rw [List.reverse_append, List.reverse_reverse] at hdrop
  rw [trimEnd, List.reverse_append]
  exact hdrop

/-- The lines that hold more than white space. -/
def textLines (lines : List (List Char)) : List (List Char) :=
  lines.filter fun line => !isBlankLine line

/-- For each line with text, whether a line without text stands right before it; `after` says so of
the first line. -/
def blanksBefore (after : Bool) : List (List Char) → List Bool
  | [] => []
  | line :: lines =>
    if isBlankLine line then blanksBefore true lines else after :: blanksBefore false lines

/-- For each two lines with text that follow one another, whether lines without text stand between
them. -/
def separations (lines : List (List Char)) : List Bool := (blanksBefore false lines).tail

theorem textLines_append (front back : List (List Char)) :
    textLines (front ++ back) = textLines front ++ textLines back :=
  List.filter_append front back

theorem textLines_cons (line : List Char) (lines : List (List Char)) :
    textLines (line :: lines) = textLines [line] ++ textLines lines :=
  textLines_append [line] lines

theorem textLines_eq_nil (h : ∀ line ∈ lines, isBlankLine line = true) : textLines lines = [] := by
  rw [textLines, List.filter_eq_nil_iff]
  intro line hline
  simp [h line hline]

/-- What stands before a line with text is seen from the lines before it alone. -/
theorem blanksBefore_congr {lines' : List (List Char)}
    (h : lines.map isBlankLine = lines'.map isBlankLine) (after : Bool) :
    blanksBefore after lines = blanksBefore after lines' := by
  induction lines generalizing lines' after with
  | nil =>
    obtain rfl := List.map_eq_nil_iff.1 h.symm
    rfl
  | cons line rest ih =>
    cases lines' with
    | nil => cases h
    | cons line' rest' =>
      rw [List.map_cons, List.map_cons, List.cons.injEq] at h
      rw [blanksBefore, blanksBefore, h.1, ih h.2, ih h.2]

theorem blanksBefore_blank_append {blanks : List (List Char)}
    (h : ∀ line ∈ blanks, isBlankLine line = true) (after : Bool) (lines : List (List Char)) :
    blanksBefore after (blanks ++ lines) = blanksBefore (after || !blanks.isEmpty) lines := by
  induction blanks generalizing after with
  | nil => simp
  | cons line blanks ih =>
    obtain ⟨hline, hblanks⟩ := List.forall_mem_cons.1 h
    rw [List.cons_append, blanksBefore, if_pos hline, ih hblanks]
    simp

theorem blanksBefore_append_blank {blanks : List (List Char)}
    (h : ∀ line ∈ blanks, isBlankLine line = true) (after : Bool) (lines : List (List Char)) :
    blanksBefore after (lines ++ blanks) = blanksBefore after lines := by
  induction lines generalizing after with
  | nil =>
    have hblanks := blanksBefore_blank_append h after []
    rwa [List.append_nil] at hblanks
  | cons line rest ih => rw [List.cons_append, blanksBefore, blanksBefore, ih, ih]

/-- What stands before the first line with text separates no two of them. -/
theorem tail_blanksBefore (after : Bool) (lines : List (List Char)) :
    (blanksBefore after lines).tail = separations lines := by
  induction lines generalizing after with
  | nil => rfl
  | cons line rest ih =>
    rw [separations, blanksBefore, blanksBefore]
    split
    · rfl
    · rfl

theorem separations_append_blank {blanks : List (List Char)}
    (h : ∀ line ∈ blanks, isBlankLine line = true) (lines : List (List Char)) :
    separations (lines ++ blanks) = separations lines := by
  rw [separations, separations, blanksBefore_append_blank h]

/-! ## Trimming -/

/-- The lines from the first to the last with text. -/
def bodyLines (lines : List (List Char)) : List (List Char) :=
  (lines.dropWhile isBlankLine).rdropWhile isBlankLine

/-- The lines without white space at the start of the first and at the end of the last. -/
def trimEnds (lines : List (List Char)) : List (List Char) :=
  (lines.modifyHead trimStart).modifyLast trimEnd

theorem trimStart_joinLines (lines : List (List Char)) :
    trimStart (joinLines lines) = joinLines ((lines.dropWhile isBlankLine).modifyHead trimStart) := by
  induction lines with
  | nil => rfl
  | cons line rest ih =>
    cases hline : isBlankLine line with
    | true =>
      rw [List.dropWhile_cons_of_pos hline, ← ih]
      cases rest with
      | nil =>
        rw [joinLines, ← List.append_nil line]
        exact trimStart_append_of_blank hline []
      | cons next more =>
        rw [joinLines, trimStart_append_of_blank hline]
        exact List.dropWhile_cons_of_pos isBlank_newline
    | false =>
      rw [List.dropWhile_cons_of_neg (by simp [hline]), List.modifyHead_cons]
      cases rest with
      | nil => rfl
      | cons next more => rw [joinLines, joinLines, trimStart_append_of_text hline]

theorem trimEnd_joinLines (lines : List (List Char)) :
    trimEnd (joinLines lines) = joinLines ((lines.rdropWhile isBlankLine).modifyLast trimEnd) := by
  induction lines using List.reverseRecOn with
  | nil => rfl
  | append_singleton front line ih =>
    cases hline : isBlankLine line with
    | true =>
      rw [List.rdropWhile_concat_pos _ _ _ hline, ← ih]
      rcases eq_or_ne front [] with rfl | hne
      · exact trimEnd_append_of_blank hline []
      · rw [joinLines_append_singleton hne, ← List.singleton_append, ← List.append_assoc,
          trimEnd_append_of_blank hline]
        exact trimEnd_append_of_blank (by decide) (joinLines front)
    | false =>
      rw [List.rdropWhile_concat_neg _ _ _ (by simp [hline]), List.modifyLast_concat]
      rcases eq_or_ne front [] with rfl | hne
      · rfl
      · rw [joinLines_append_singleton hne, joinLines_append_singleton hne,
          ← List.singleton_append, ← List.append_assoc, trimEnd_append_of_text hline,
          List.append_assoc, List.singleton_append]

theorem rdropWhile_modifyHead {α : Type} {p : α → Bool} {f : α → α} (h : ∀ a, p (f a) = p a)
    (l : List α) : (l.modifyHead f).rdropWhile p = (l.rdropWhile p).modifyHead f := by
  induction l using List.reverseRecOn with
  | nil => rfl
  | append_singleton front a ih =>
    cases front with
    | nil =>
      rw [List.nil_append, List.modifyHead_cons, List.rdropWhile_singleton, List.rdropWhile_singleton,
        h]
      split <;> rfl
    | cons b rest =>
      rw [List.cons_append, List.modifyHead_cons, ← List.cons_append, ← List.cons_append,
        List.rdropWhile_concat, List.rdropWhile_concat]
      split
      · exact ih
      · rfl

/-- **A text is trimmed by leaving out the outer lines without text and trimming the ends of what is
left.** -/
theorem trim_joinLines (lines : List (List Char)) :
    trim (joinLines lines) = joinLines (trimEnds (bodyLines lines)) := by
  rw [trim, trimStart_joinLines, trimEnd_joinLines, rdropWhile_modifyHead isBlankLine_trimStart]
  rfl

/-- The outermost lines have text. -/
structure TextAtEnds (lines : List (List Char)) : Prop where
  head : ∀ line ∈ lines.head?, isBlankLine line = false
  last : ∀ line ∈ lines.getLast?, isBlankLine line = false

theorem textAtEnds_bodyLines (lines : List (List Char)) : TextAtEnds (bodyLines lines) := by
  constructor
  case head =>
    intro line hline
    have hprefix : bodyLines lines <+: lines.dropWhile isBlankLine := List.rdropWhile_prefix _ _
    obtain ⟨rest, hrest⟩ := hprefix
    have hnot := List.head?_dropWhile_not isBlankLine lines
    rw [← hrest, List.head?_append, Option.mem_def.1 hline] at hnot
    exact hnot
  case last =>
    intro line hline
    have hne : bodyLines lines ≠ [] := by
      rintro hnil
      rw [hnil] at hline
      cases hline
    have hlast := List.rdropWhile_last_not isBlankLine _ hne
    rw [List.getLast?_eq_some_getLast hne] at hline
    obtain rfl := Option.some.inj hline
    exact Bool.eq_false_iff.2 hlast

/-- Around the body all lines are without text. -/
theorem exists_bodyLines (lines : List (List Char)) :
    ∃ before after, lines = before ++ (bodyLines lines ++ after) ∧
      (∀ line ∈ before, isBlankLine line = true) ∧ ∀ line ∈ after, isBlankLine line = true := by
  refine ⟨lines.takeWhile isBlankLine, (lines.dropWhile isBlankLine).rtakeWhile isBlankLine, ?_,
    fun _ hline => List.mem_takeWhile_imp hline, fun _ hline => List.mem_rtakeWhile_imp hline⟩
  rw [bodyLines, List.rdropWhile_append_rtakeWhile, List.takeWhile_append_dropWhile]

theorem newline_notMem_of_mem_bodyLines {lines : List (List Char)}
    (h : ∀ line ∈ lines, '\n' ∉ line) : ∀ line ∈ bodyLines lines, '\n' ∉ line := by
  obtain ⟨before, after, hlines, -, -⟩ := exists_bodyLines lines
  rw [hlines] at h
  exact fun line hline => h line (List.mem_append_right _ (List.mem_append_left _ hline))

theorem textLines_bodyLines (lines : List (List Char)) :
    textLines (bodyLines lines) = textLines lines := by
  obtain ⟨before, after, hlines, hbefore, hafter⟩ := exists_bodyLines lines
  conv_rhs => rw [hlines]
  rw [textLines_append, textLines_append, textLines_eq_nil hbefore, textLines_eq_nil hafter,
    List.nil_append, List.append_nil]

theorem separations_bodyLines (lines : List (List Char)) :
    separations (bodyLines lines) = separations lines := by
  obtain ⟨before, after, hlines, hbefore, hafter⟩ := exists_bodyLines lines
  conv_rhs => rw [hlines]
  rw [separations.eq_1 (before ++ _), blanksBefore_blank_append hbefore, tail_blanksBefore,
    separations_append_blank hafter]

/-! ## The ends of the outermost lines -/

theorem map_modifyHead_eq_self {α β : Type} {f : α → α} {g : α → β} {l : List α}
    (h : ∀ a ∈ l.head?, g (f a) = g a) : (l.modifyHead f).map g = l.map g := by
  cases l with
  | nil => rfl
  | cons a rest => rw [List.modifyHead_cons, List.map_cons, List.map_cons, h a rfl]

theorem map_modifyLast_eq_self {α β : Type} {f : α → α} {g : α → β} {l : List α}
    (h : ∀ a ∈ l.getLast?, g (f a) = g a) : (l.modifyLast f).map g = l.map g := by
  rcases List.eq_nil_or_concat l with rfl | ⟨front, a, rfl⟩
  · rfl
  · rw [List.concat_eq_append] at h ⊢
    rw [List.modifyLast_concat, List.map_append, List.map_append, List.map_singleton,
      List.map_singleton, h a (by simp)]

theorem filter_modifyHead {α : Type} {f : α → α} {p : α → Bool} {l : List α}
    (hf : ∀ a, p (f a) = p a) (h : ∀ a ∈ l.head?, p a = true) :
    (l.modifyHead f).filter p = (l.filter p).modifyHead f := by
  cases l with
  | nil => rfl
  | cons a rest =>
    have ha := h a rfl
    rw [List.modifyHead_cons, List.filter_cons_of_pos ha, List.modifyHead_cons,
      List.filter_cons_of_pos (by rw [hf, ha])]

theorem filter_modifyLast {α : Type} {f : α → α} {p : α → Bool} {l : List α}
    (hf : ∀ a, p (f a) = p a) (h : ∀ a ∈ l.getLast?, p a = true) :
    (l.modifyLast f).filter p = (l.filter p).modifyLast f := by
  rcases List.eq_nil_or_concat l with rfl | ⟨front, a, rfl⟩
  · rfl
  · rw [List.concat_eq_append] at h ⊢
    have ha := h a (by simp)
    have hfa : p (f a) = true := by rw [hf, ha]
    rw [List.modifyLast_concat, List.filter_append, List.filter_append, List.filter_singleton,
      List.filter_singleton, ha, hfa]
    exact (List.modifyLast_concat f a _).symm

namespace TextAtEnds

/-- Whether the outermost lines have text is seen from which lines have text. -/
theorem congr {lines' : List (List Char)} (h : TextAtEnds lines)
    (hmap : lines'.map isBlankLine = lines.map isBlankLine) : TextAtEnds lines' := by
  constructor
  case head =>
    intro line hline
    have hhead := congrArg List.head? hmap
    rw [List.head?_map, List.head?_map, Option.mem_def.1 hline, Option.map_some, eq_comm,
      Option.map_eq_some_iff] at hhead
    obtain ⟨first, hfirst, heq⟩ := hhead
    rw [← heq, h.head first hfirst]
  case last =>
    intro line hline
    have hlast := congrArg List.getLast? hmap
    rw [List.getLast?_map, List.getLast?_map, Option.mem_def.1 hline, Option.map_some, eq_comm,
      Option.map_eq_some_iff] at hlast
    obtain ⟨last, hlast, heq⟩ := hlast
    rw [← heq, h.last last hlast]

theorem modifyHead (h : TextAtEnds lines) : TextAtEnds (lines.modifyHead trimStart) :=
  h.congr (map_modifyHead_eq_self fun line _ => isBlankLine_trimStart line)

/-- What is the same of a line with text and of that line trimmed is not changed by trimming. -/
theorem map_trimEnds {α : Type} {g : List Char → α}
    (hstart : ∀ line, isBlankLine line = false → g (trimStart line) = g line)
    (hend : ∀ line, isBlankLine line = false → g (trimEnd line) = g line) (h : TextAtEnds lines) :
    (trimEnds lines).map g = lines.map g := by
  rw [trimEnds, map_modifyLast_eq_self fun line hline => hend line (h.modifyHead.last line hline),
    map_modifyHead_eq_self fun line hline => hstart line (h.head line hline)]

/-- **Trimming keeps the lines with text**, but for white space at the ends of the outermost. -/
theorem textLines_trimEnds (h : TextAtEnds lines) :
    textLines (trimEnds lines) = trimEnds (textLines lines) := by
  have hstart : ∀ line, (!isBlankLine (trimStart line)) = !isBlankLine line := fun line => by
    rw [isBlankLine_trimStart]
  have hend : ∀ line, (!isBlankLine (trimEnd line)) = !isBlankLine line := fun line => by
    rw [isBlankLine_trimEnd]
  have hhead : ∀ line ∈ lines.head?, (!isBlankLine line) = true := fun line hline => by
    rw [h.head line hline, Bool.not_false]
  have hlast : ∀ line ∈ (lines.modifyHead trimStart).getLast?, (!isBlankLine line) = true :=
    fun line hline => by rw [h.modifyHead.last line hline, Bool.not_false]
  rw [textLines, trimEnds, filter_modifyLast hend hlast, filter_modifyHead hstart hhead]
  rfl

/-- **Trimming keeps which lines with text stand apart.** -/
theorem separations_trimEnds (h : TextAtEnds lines) : separations (trimEnds lines) = separations lines := by
  have hmap : (trimEnds lines).map isBlankLine = lines.map isBlankLine :=
    h.map_trimEnds (fun line _ => isBlankLine_trimStart line) fun line _ => isBlankLine_trimEnd line
  rw [separations, separations, blanksBefore_congr hmap]

end TextAtEnds

end ContractCompiler.Text
