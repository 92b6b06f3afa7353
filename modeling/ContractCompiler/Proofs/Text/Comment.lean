import ContractCompiler.Proofs.Text.BlankLines
import ContractCompiler.Proofs.Text.NormalForm

/-!
# Comments in generated code

A line of generated code is a comment when it starts with two slashes after its indentation; lines that
are neither blank nor comments are statements. A comment ends with its line, and a newline is not the
only character that ends one.

* `statements_append`, `statements_normalized` — the statements of a text are those of its parts, and
  normalizing keeps them.
* `isQuiet_scan_iff` — a text without statements is told by reading it once from left to right.
* `staysComment_iff` — a name that leaves no comment it is written in is told in the same way.
* `scan_comment_append` — what is written in a comment behind a name shows whether the name leaves it.
-/

namespace ContractCompiler.Text

variable {cs line : List Char} {lines : List (List Char)}

/-! ## Statements -/

/-- The character ends a line of generated code, and with it a comment. -/
def endsLine (c : Char) : Bool := c == '\n' || c == '\r' || c == '\u2028' || c == '\u2029'

/-- A newline for a character that ends a line. -/
def newlineFor (c : Char) : Char := if endsLine c then '\n' else c

/-- The lines of generated code. -/
def codeLines (cs : List Char) : List (List Char) := splitLines (cs.map newlineFor)

/-- The line is a comment, perhaps after an indentation. -/
def isComment (line : List Char) : Bool := ['/', '/'].isPrefixOf (trimStart line)

/-- What a line says, unless it is blank or a comment. -/
def statement? (line : List Char) : Option (List Char) :=
  if isBlankLine line || isComment line then none else some (trim line)

def statements (cs : List Char) : List (List Char) := (codeLines cs).filterMap statement?

theorem statement?_eq_none_iff :
    statement? line = none ↔ isBlankLine line = true ∨ isComment line = true := by
  rw [statement?, ite_eq_left_iff, Bool.or_eq_true]
  simp only [reduceCtorEq, imp_false, not_not]

/-- All that the text contributes is comments: every line of it with text is one. -/
def OnlyComments (text : String) : Prop :=
  ∀ line ∈ codeLines text.toList, isBlankLine line = true ∨ isComment line = true

instance (text : String) : Decidable (OnlyComments text) :=
  inferInstanceAs (Decidable (∀ line ∈ codeLines text.toList, _ ∨ _))

theorem onlyComments_iff {text : String} : OnlyComments text ↔ statements text.toList = [] := by
  simp only [OnlyComments, statements, List.filterMap_eq_nil_iff, statement?_eq_none_iff]

theorem statement?_of_blank (h : isBlankLine line = true) : statement? line = none :=
  statement?_eq_none_iff.2 (.inl h)

theorem filterMap_statement?_of_blank (h : ∀ line ∈ lines, isBlankLine line = true) :
    lines.filterMap statement? = [] :=
  List.filterMap_eq_nil_iff.2 fun line hline => statement?_of_blank (h line hline)

theorem endsLine_eq {c : Char} (h : endsLine c = true) :
    c = '\n' ∨ c = '\r' ∨ c = '\u2028' ∨ c = '\u2029' := by
  simpa [endsLine, or_assoc] using h

theorem isBlank_of_endsLine {c : Char} (h : endsLine c = true) : isBlank c = true := by
  rcases endsLine_eq h with rfl | rfl | rfl | rfl <;> decide

theorem isBlank_newlineFor (c : Char) : isBlank (newlineFor c) = isBlank c := by
  unfold newlineFor
  split
  · rename_i h
    rw [isBlank_newline, isBlank_of_endsLine h]
  · rfl

/-! ## Parts of a text -/

theorem splitLines_append_cons (as bs : List Char) :
    splitLines (as ++ '\n' :: bs) = splitLines as ++ splitLines bs := by
  induction as with
  | nil => simp [splitLines]
  | cons c rest ih =>
    rw [List.cons_append, splitLines, splitLines, ih]
    split
    · rfl
    · obtain ⟨line, lines, hlines⟩ := List.exists_cons_of_ne_nil (splitLines_ne_nil rest)
      rw [hlines]
      rfl

theorem statements_nil : statements [] = [] := rfl

theorem statements_append_cons (as bs : List Char) :
    statements (as ++ '\n' :: bs) = statements as ++ statements bs := by
  have hnewline : newlineFor '\n' = '\n' := rfl
  rw [statements, codeLines, List.map_append, List.map_cons, hnewline, splitLines_append_cons,
    List.filterMap_append]
  rfl

/-- The text is empty or ends with a newline, so that what is written behind it starts a line. -/
def EndsLines (cs : List Char) : Prop := cs = [] ∨ ∃ front, cs = front ++ ['\n']

theorem endsLines_newline (cs : List Char) : EndsLines (cs ++ ['\n']) := .inr ⟨cs, rfl⟩

theorem EndsLines.append {bs : List Char} (h : EndsLines cs) (h' : EndsLines bs) :
    EndsLines (cs ++ bs) := by
  rcases h' with rfl | ⟨front, rfl⟩
  · rwa [List.append_nil]
  · exact .inr ⟨cs ++ front, (List.append_assoc ..).symm⟩

/-- A text ends its lines as its last part does. -/
theorem EndsLines.prepend (h : EndsLines cs) (hne : cs ≠ []) (front : List Char) :
    EndsLines (front ++ cs) := by
  obtain ⟨back, rfl⟩ := h.resolve_left hne
  exact .inr ⟨front ++ back, (List.append_assoc ..).symm⟩

theorem statements_newline (cs : List Char) : statements (cs ++ ['\n']) = statements cs := by
  rw [statements_append_cons, statements_nil, List.append_nil]

/-- **The statements of a text are those of its parts**, when the first part ends its lines. -/
theorem statements_append (h : EndsLines cs) (bs : List Char) :
    statements (cs ++ bs) = statements cs ++ statements bs := by
  rcases h with rfl | ⟨front, rfl⟩
  · rfl
  · rw [List.append_assoc, List.singleton_append, statements_append_cons, statements_newline]

theorem endsLines_append_newline (s : String) : EndsLines (s ++ "\n").toList := by
  rw [String.toList_append]
  exact endsLines_newline s.toList

theorem EndsLines.append_string {s s' : String} (h : EndsLines s.toList) (h' : EndsLines s'.toList) :
    EndsLines (s ++ s').toList := by
  rw [String.toList_append]
  exact h.append h'

theorem endsLines_join {ss : List String} (h : ∀ s ∈ ss, EndsLines s.toList) :
    EndsLines (String.join ss).toList := by
  induction ss with
  | nil => exact .inl rfl
  | cons s rest ih =>
    obtain ⟨hs, hrest⟩ := List.forall_mem_cons.1 h
    rw [String.join_cons]
    exact hs.append_string (ih hrest)

/-- The statements of texts that end their lines, one behind the other. -/
theorem statements_join {ss : List String} (h : ∀ s ∈ ss, EndsLines s.toList) :
    statements (String.join ss).toList = ss.flatMap fun s => statements s.toList := by
  induction ss with
  | nil => rfl
  | cons s rest ih =>
    obtain ⟨hs, hrest⟩ := List.forall_mem_cons.1 h
    rw [String.join_cons, String.toList_append, statements_append hs, ih hrest, List.flatMap_cons]

theorem statements_joinLines (lines : List (List Char)) :
    statements (joinLines lines) = lines.flatMap statements := by
  induction lines with
  | nil => rfl
  | cons line rest ih =>
    rcases eq_or_ne rest [] with rfl | hne
    · simp [joinLines]
    · rw [joinLines_cons hne, statements_append_cons, ih, List.flatMap_cons]

/-! ## Normalizing -/

theorem trimStart_map_newlineFor (cs : List Char) :
    trimStart (cs.map newlineFor) = (trimStart cs).map newlineFor := by
  have hblank : isBlank ∘ newlineFor = isBlank := funext isBlank_newlineFor
  rw [trimStart, List.dropWhile_map, hblank, trimStart]

theorem trim_map_newlineFor (cs : List Char) :
    trim (cs.map newlineFor) = (trim cs).map newlineFor := by
  have hend (ds : List Char) : trimEnd (ds.map newlineFor) = (trimEnd ds).map newlineFor := by
    have h := trimStart_map_newlineFor ds.reverse
    rw [List.map_reverse] at h
    show (trimStart (ds.map newlineFor).reverse).reverse = _
    rw [h, ← List.map_reverse]
    rfl
  rw [trim, trimStart_map_newlineFor, hend, trim]

/-- The start of a line is found behind its indentation, whatever its end is trimmed to. -/
theorem trimStart_trimEnd_of_text (h : isBlankLine line = false) :
    trimStart (trimEnd line) = trimEnd (trimStart line) := by
  have hblank : isBlankLine (line.takeWhile isBlank) = true :=
    List.all_eq_true.2 fun _ hc => List.mem_takeWhile_imp hc
  have hsplit : line = line.takeWhile isBlank ++ trimStart line :=
    (List.takeWhile_append_dropWhile ..).symm
  have htext : isBlankLine (trimStart line) = false := (isBlankLine_trimStart line).trans h
  have hstart : trimStart (trimStart line) = trimStart line := List.dropWhile_idempotent isBlank line
  conv_lhs => rw [hsplit, trimEnd_append_of_text htext, trimStart_append_of_blank hblank]
  exact trimStart_trimEnd hstart

theorem isPrefixOf_slashes_trimEnd (cs : List Char) :
    ['/', '/'].isPrefixOf (trimEnd cs) = ['/', '/'].isPrefixOf cs := by
  rw [Bool.eq_iff_iff, List.isPrefixOf_iff_prefix, List.isPrefixOf_iff_prefix]
  constructor
  · exact fun h => h.trans (List.rdropWhile_prefix isBlank cs)
  · rintro ⟨rest, rfl⟩
    rw [trimEnd_append ⟨'/', rfl, by decide⟩]
    exact List.prefix_append _ _

theorem statement?_trimStart (line : List Char) : statement? (trimStart line) = statement? line := by
  have hstart : trimStart (trimStart line) = trimStart line := List.dropWhile_idempotent isBlank line
  rw [statement?, statement?, isBlankLine_trimStart, isComment, isComment, trim, trim, hstart]

theorem statement?_trimEnd (h : isBlankLine line = false) :
    statement? (trimEnd line) = statement? line := by
  have hend : trimEnd (trimEnd (trimStart line)) = trimEnd (trimStart line) :=
    List.rdropWhile_idempotent isBlank (trimStart line)
  rw [statement?, statement?, isBlankLine_trimEnd, isComment, isComment, trim, trim,
    trimStart_trimEnd_of_text h, isPrefixOf_slashes_trimEnd, hend]

/-- Trimming the outermost lines with text changes no statement. -/
theorem TextAtEnds.filterMap_statement? (h : TextAtEnds lines) :
    (trimEnds lines).filterMap statement? = lines.filterMap statement? := by
  have hmap : (trimEnds lines).map statement? = lines.map statement? :=
    h.map_trimEnds (fun line _ => statement?_trimStart line) fun _ => statement?_trimEnd
  have hfilter (ls : List (List Char)) : ls.filterMap statement? = (ls.map statement?).filterMap id := by
    rw [List.filterMap_map]
    rfl
  rw [hfilter, hmap, ← hfilter]

theorem filterMap_statement?_bodyLines (lines : List (List Char)) :
    (bodyLines lines).filterMap statement? = lines.filterMap statement? := by
  obtain ⟨before, after, hlines, hbefore, hafter⟩ := exists_bodyLines lines
  conv_rhs => rw [hlines]
  rw [List.filterMap_append, List.filterMap_append, filterMap_statement?_of_blank hbefore,
    filterMap_statement?_of_blank hafter, List.nil_append, List.append_nil]

/-- **Trimming a text changes no statement.** -/
theorem statements_trim (cs : List Char) : statements (trim cs) = statements cs := by
  have hfree : ∀ line ∈ trimEnds (bodyLines (codeLines cs)), '\n' ∉ line :=
    newline_notMem_of_mem_trimEnds (newline_notMem_of_mem_bodyLines fun _ hline =>
      newline_notMem_of_mem_splitLines hline)
  calc statements (trim cs)
      = (splitLines (trim (joinLines (codeLines cs)))).filterMap statement? := by
        rw [codeLines, joinLines_splitLines, trim_map_newlineFor]
        rfl
    _ = (trimEnds (bodyLines (codeLines cs))).filterMap statement? := by
        rw [trim_joinLines, apply_splitLines_joinLines (f := fun ls => ls.filterMap statement?) rfl hfree]
    _ = statements cs := by
        rw [(textAtEnds_bodyLines _).filterMap_statement?, filterMap_statement?_bodyLines, statements]

theorem statements_of_blank (h : isBlankLine cs = true) : statements cs = [] := by
  have htrim : trim cs = [] := by
    have hstart : trimStart cs = [] := List.dropWhile_eq_nil_iff.2 (List.all_eq_true.1 h)
    rw [trim, hstart]
    rfl
  rw [← statements_trim, htrim, statements_nil]

/-- **Normalizing changes no statement.** -/
theorem statements_normalized (code : String) :
    statements (normalized code).toList = statements code.toList := by
  have htext (lines : List (List Char)) :
      lines.flatMap statements = (textLines lines).flatMap statements := by
    induction lines with
    | nil => rfl
    | cons line rest ih =>
      rw [textLines_cons, List.flatMap_append, List.flatMap_cons, ih]
      cases hline : isBlankLine line with
      | true => simp [textLines, hline, statements_of_blank hline]
      | false => simp [textLines, hline]
  calc statements (normalized code).toList
      = statements (joinLines (collapseBlankLines (splitLines code.toList))) := by
        rw [normalized, String.toList_ofList, statements_newline, statements_trim]
    _ = (textLines (splitLines code.toList)).flatMap statements := by
        rw [statements_joinLines, htext, textLines_collapseBlankLines]
    _ = statements code.toList := by
        rw [← htext, ← statements_joinLines, joinLines_splitLines]

/-! ## Reading from left to right -/

/-- Where a reader of generated code stands. -/
inductive Reading where
  /-- Before anything but white space on a line, and no statement has been met. -/
  | margin
  /-- Behind the first slash of a line. -/
  | slash
  | comment
  /-- A statement has been met. -/
  | statement
deriving DecidableEq, Repr

namespace Reading

def next : Reading → Char → Reading
  | margin, c => if isBlank c then margin else if c = '/' then slash else statement
  | slash, c => if c = '/' then comment else statement
  | comment, c => if endsLine c then margin else comment
  | statement, _ => statement

def scan (r : Reading) (cs : List Char) : Reading := cs.foldl next r

/-- No statement has been met. -/
def IsQuiet (r : Reading) : Prop := r = margin ∨ r = comment

instance (r : Reading) : Decidable r.IsQuiet := inferInstanceAs (Decidable (_ ∨ _))

variable {r : Reading} {c : Char} {back : List Char}

theorem scan_append (r : Reading) (as bs : List Char) : r.scan (as ++ bs) = (r.scan as).scan bs :=
  List.foldl_append

theorem scan_nil (r : Reading) : r.scan [] = r := rfl

theorem scan_cons (r : Reading) (c : Char) (cs : List Char) : r.scan (c :: cs) = (r.next c).scan cs :=
  rfl

theorem scan_statement (cs : List Char) : scan statement cs = statement := by
  induction cs with
  | nil => rfl
  | cons c rest ih => exact ih

theorem scan_comment (h : ∀ c ∈ cs, endsLine c = false) : scan comment cs = comment := by
  induction cs with
  | nil => rfl
  | cons c rest ih =>
    obtain ⟨hc, hrest⟩ := List.forall_mem_cons.1 h
    rw [scan_cons, next, hc]
    exact ih hrest

theorem scan_margin_of_blank (h : isBlankLine cs = true) : scan margin cs = margin := by
  induction cs with
  | nil => rfl
  | cons c rest ih =>
    rw [isBlankLine, List.all_cons, Bool.and_eq_true] at h
    rw [scan_cons, next, if_pos h.1]
    exact ih h.2

/-- How a line ends is all the same to a reader. -/
theorem scan_map_newlineFor (r : Reading) (cs : List Char) : r.scan (cs.map newlineFor) = r.scan cs := by
  induction cs generalizing r with
  | nil => rfl
  | cons c rest ih =>
    have hnext : r.next (newlineFor c) = r.next c := by
      unfold newlineFor
      split
      · rename_i hc
        rcases endsLine_eq hc with rfl | rfl | rfl | rfl <;> cases r <;> rfl
      · rfl
    rw [List.map_cons, scan_cons, scan_cons, hnext, ih]

/-- A newline after a line that says nothing leads to the margin; any other line has said something. -/
theorem next_newline (r : Reading) : r.next '\n' = if r.IsQuiet then margin else statement := by
  cases r <;> rfl

/-! ### Lines -/

theorem scan_margin_trimStart (line : List Char) :
    scan margin line = scan margin (trimStart line) := by
  have hblank : isBlankLine (line.takeWhile isBlank) = true :=
    List.all_eq_true.2 fun _ hc => List.mem_takeWhile_imp hc
  have hsplit : line = line.takeWhile isBlank ++ trimStart line :=
    (List.takeWhile_append_dropWhile ..).symm
  conv_lhs => rw [hsplit, scan_append, scan_margin_of_blank hblank]

/-- **A line is blank, a comment, or a statement**, and the reader of it ends accordingly. -/
theorem scan_line (h : ∀ c ∈ line, endsLine c = false) :
    (scan margin line = margin ↔ isBlankLine line = true) ∧
      (scan margin line = comment ↔ isComment line = true) := by
  have hhead : ∀ c ∈ (trimStart line).head?, isBlank c = false :=
    trimStart_eq_self_iff.1 (List.dropWhile_idempotent isBlank line)
  have hfree : ∀ c ∈ trimStart line, endsLine c = false := fun c hc =>
    h c ((List.dropWhile_suffix isBlank).subset hc)
  rw [scan_margin_trimStart, ← isBlankLine_trimStart, isComment]
  generalize trimStart line = text at *
  match text with
  | [] => exact ⟨by decide, by decide⟩
  | [c] =>
    have hc : isBlank c = false := hhead c rfl
    rcases eq_or_ne c '/' with rfl | hslash
    · exact ⟨by decide, by decide⟩
    · simp [scan_cons, scan_nil, next, hc, hslash, isBlankLine]
  | c :: d :: rest =>
    have hc : isBlank c = false := hhead c rfl
    have hrest : scan comment rest = comment :=
      scan_comment fun c hc => hfree c (List.mem_cons_of_mem _ (List.mem_cons_of_mem _ hc))
    rcases eq_or_ne c '/' with rfl | hslash
    · rcases eq_or_ne d '/' with rfl | hslash'
      · simp [scan_cons, next, hc, hrest, isBlankLine]
      · simp [scan_cons, next, hc, hslash', hslash'.symm, scan_statement, isBlankLine]
    · simp [scan_cons, next, hc, hslash, hslash.symm, scan_statement, isBlankLine]

theorem isQuiet_scan_line (h : ∀ c ∈ line, endsLine c = false) :
    (scan margin line).IsQuiet ↔ statement? line = none := by
  rw [IsQuiet, (scan_line h).1, (scan_line h).2, statement?_eq_none_iff]

/-- **Lines are read one by one**: the reader meets no statement exactly if none of them is one, and ends
in a comment if the last line is one. -/
theorem scan_joinLines (hne : lines ≠ []) (h : ∀ line ∈ lines, ∀ c ∈ line, endsLine c = false) :
    ((scan margin (joinLines lines)).IsQuiet ↔ ∀ line ∈ lines, statement? line = none) ∧
      (scan margin (joinLines lines) = comment ↔
        (∀ line ∈ lines, statement? line = none) ∧
          ∀ line ∈ lines.getLast?, isComment line = true) := by
  induction lines with
  | nil => exact absurd rfl hne
  | cons line rest ih =>
    obtain ⟨hline, hrest⟩ := List.forall_mem_cons.1 h
    rcases eq_or_ne rest [] with rfl | hmore
    · have hcomment : isComment line = true → statement? line = none := fun hc =>
        statement?_eq_none_iff.2 (.inr hc)
      simp only [joinLines, isQuiet_scan_line hline, (scan_line hline).2, List.forall_mem_singleton,
        List.getLast?_singleton, Option.mem_some_iff, forall_eq', true_and]
      exact ⟨fun hc => ⟨hcomment hc, hc⟩, And.right⟩
    · obtain ⟨next, more, rfl⟩ := List.exists_cons_of_ne_nil hmore
      obtain ⟨hquiet, hcomment⟩ := ih hmore hrest
      have hstep : scan margin (joinLines (line :: next :: more)) =
          ((scan margin line).next '\n').scan (joinLines (next :: more)) := by
        rw [joinLines_cons hmore, scan_append, scan_cons]
      rw [hstep, next_newline, List.forall_mem_cons, List.getLast?_cons_cons]
      simp only [isQuiet_scan_line hline]
      split
      · rename_i hnone
        simp only [hnone, true_and]
        exact ⟨hquiet, hcomment⟩
      · rename_i hnone
        rw [scan_statement]
        simp [hnone, IsQuiet]

end Reading

/-! ### Texts -/

theorem mem_joinLines {c : Char} (hline : line ∈ lines) (hc : c ∈ line) : c ∈ joinLines lines := by
  induction lines with
  | nil => cases hline
  | cons first rest ih =>
    rcases eq_or_ne rest [] with rfl | hne
    · obtain rfl := List.mem_singleton.1 hline
      exact hc
    · rw [joinLines_cons hne]
      rcases List.mem_cons.1 hline with rfl | hline
      · exact List.mem_append_left _ hc
      · exact List.mem_append_right _ (List.mem_cons_of_mem _ (ih hline))

theorem endsLine_of_mem_codeLines (h : line ∈ codeLines cs) : ∀ c ∈ line, endsLine c = false := by
  intro c hc
  have hmem : c ∈ cs.map newlineFor := by
    rw [← joinLines_splitLines (cs.map newlineFor)]
    exact mem_joinLines h hc
  obtain ⟨d, -, rfl⟩ := List.mem_map.1 hmem
  have hnewline : newlineFor d ≠ '\n' := fun heq => newline_notMem_of_mem_splitLines h (heq ▸ hc)
  unfold newlineFor at hnewline ⊢
  split
  · rename_i hd
    rw [if_pos hd] at hnewline
    exact absurd rfl hnewline
  · rename_i hd
    simpa using hd

theorem scan_codeLines (r : Reading) (cs : List Char) :
    r.scan (joinLines (codeLines cs)) = r.scan cs := by
  rw [codeLines, joinLines_splitLines, Reading.scan_map_newlineFor]

/-- **A text without statements is told by reading it from left to right.** -/
theorem isQuiet_scan_iff : (Reading.margin.scan cs).IsQuiet ↔ statements cs = [] := by
  rw [← scan_codeLines, statements, List.filterMap_eq_nil_iff]
  exact (Reading.scan_joinLines (splitLines_ne_nil _) fun _ hline => endsLine_of_mem_codeLines hline).1

/-- The name leaves no comment that it is written in: every line of it but the first is blank or a
comment, and the last of these, behind which the comment goes on, is no blank one. -/
structure StaysComment (name : String) : Prop where
  lines : ∀ line ∈ (codeLines name.toList).tail, isBlankLine line = true ∨ isComment line = true
  last : ∀ line ∈ (codeLines name.toList).tail.getLast?, isComment line = true

instance (name : String) : Decidable (StaysComment name) :=
  decidable_of_iff
    ((∀ line ∈ (codeLines name.toList).tail, isBlankLine line = true ∨ isComment line = true) ∧
      ∀ line ∈ (codeLines name.toList).tail.getLast?, isComment line = true)
    ⟨fun h => ⟨h.1, h.2⟩, fun h => ⟨h.lines, h.last⟩⟩

/-- **A name that leaves no comment is told by reading it within one.** -/
theorem staysComment_iff {name : String} :
    StaysComment name ↔ Reading.comment.scan name.toList = .comment := by
  have hfree : ∀ line ∈ codeLines name.toList, ∀ c ∈ line, endsLine c = false := fun _ hline =>
    endsLine_of_mem_codeLines hline
  obtain ⟨first, rest, hlines⟩ :=
    List.exists_cons_of_ne_nil (splitLines_ne_nil (name.toList.map newlineFor))
  replace hlines : codeLines name.toList = first :: rest := hlines
  rw [hlines] at hfree
  obtain ⟨hfirst, hrest⟩ := List.forall_mem_cons.1 hfree
  rw [← scan_codeLines, hlines]
  have hstays : StaysComment name ↔ (∀ line ∈ rest, isBlankLine line = true ∨ isComment line = true) ∧
      ∀ line ∈ rest.getLast?, isComment line = true := by
    constructor
    · rintro ⟨h, h'⟩
      rw [hlines] at h h'
      exact ⟨h, h'⟩
    · rintro ⟨h, h'⟩
      exact ⟨by rwa [hlines], by rwa [hlines]⟩
  rw [hstays]
  rcases eq_or_ne rest [] with rfl | hne
  · simp [joinLines, Reading.scan_comment hfirst]
  · have hnewline : Reading.comment.next '\n' = .margin := rfl
    rw [joinLines_cons hne, Reading.scan_append, Reading.scan_comment hfirst, Reading.scan_cons, hnewline,
      (Reading.scan_joinLines hne hrest).2]
    simp only [statement?_eq_none_iff]

/-- The text ends no line, and what it starts with is neither white space nor a slash, so that behind a
name it goes on with a comment or is a statement. -/
def continuesComment (cs : List Char) : Bool :=
  cs.head?.any (fun c => !isBlank c && c != '/') && cs.all fun c => !endsLine c

/-- **What is written in a comment behind a name shows whether the name leaves it.** -/
theorem scan_comment_append {name : String} (h : continuesComment cs = true) :
    Reading.comment.scan (name.toList ++ cs) = if StaysComment name then .comment else .statement := by
  obtain ⟨hhead, hall⟩ := Bool.and_eq_true_iff.1 h
  obtain ⟨c, hc, hstart⟩ := (Option.any_eq_true ..).1 hhead
  obtain ⟨rest, rfl⟩ := List.head?_eq_some_iff.1 hc
  obtain ⟨hblank, hslash⟩ : isBlank c = false ∧ c ≠ '/' := by simpa using hstart
  have hfree : ∀ d ∈ c :: rest, endsLine d = false := by simpa using hall
  rw [Reading.scan_append]
  split
  · rename_i hname
    rw [staysComment_iff.1 hname]
    exact Reading.scan_comment hfree
  · rename_i hname
    rw [Reading.scan_cons]
    cases hscan : Reading.comment.scan name.toList with
    | comment => exact absurd (staysComment_iff.2 hscan) hname
    | margin | slash | statement =>
      simp [Reading.next, hblank, hslash, Reading.scan_statement]

theorem staysComment_append {name ending : String} (h : continuesComment ending.toList = true) :
    StaysComment (name ++ ending) ↔ StaysComment name := by
  rw [staysComment_iff, String.toList_append, scan_comment_append h]
  split <;> simp [*]

end ContractCompiler.Text
