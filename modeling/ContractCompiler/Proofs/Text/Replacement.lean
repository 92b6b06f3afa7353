import Mathlib.Computability.RegularExpressions
import ContractCompiler.Proofs.Text.NormalForm

/-!
# Collapsing as a replacement

Blank lines are collapsed by replacing matches of a regular expression: two or more line breaks with
nothing but spaces and tabs after each, and one more line break. Matches are looked for from the left,
each is as long as it can be, and the search goes on behind it. The lines of a text show the same
matches.

* `mem_blankRun_iff` — what matches is made of two or more blank lines and the line breaks around them.
* `Replaces.unique` — a text has one replacement.
* `replaces_collapseBlankLines` — collapsing the lines of a text replaces the matches in it.
* `exists_replaces_normalized` — normalized code is the replacement, trimmed, with one newline.
-/

namespace ContractCompiler.Text

variable {cs front back out first line : List Char} {lines pads rest : List (List Char)}

/-! ## Replacements -/

/-- What replacing the matches in a text gives, where matches are looked for from the left, each is as
long as it can be, and the search goes on behind it. -/
inductive Replaces (matched : Language Char) (new : List Char) : List Char → List Char → Prop
  /-- Nothing in the text matches. -/
  | none {cs : List Char} (none : ∀ front m back, cs = front ++ (m ++ back) → m ∉ matched) :
    Replaces matched new cs cs
  | next {front m back out : List Char} (mem : m ∈ matched)
    (leftmost : ∀ front' m' back', m' ∈ matched → front ++ (m ++ back) = front' ++ (m' ++ back') →
      front.length ≤ front'.length)
    (longest : ∀ m' back', m' ∈ matched → m ++ back = m' ++ back' → m'.length ≤ m.length)
    (rest : Replaces matched new back out) :
    Replaces matched new (front ++ (m ++ back)) (front ++ (new ++ out))

/-- A text has one replacement. -/
theorem Replaces.unique {matched : Language Char} {new out' : List Char}
    (h : Replaces matched new cs out) (h' : Replaces matched new cs out') : out = out' := by
  induction h generalizing out' with
  | none hnone =>
    cases h' with
    | none => rfl
    | next mem => exact absurd mem (hnone _ _ _ rfl)
  | @next front m back out mem leftmost longest rest ih =>
    generalize hcs : front ++ (m ++ back) = cs at h'
    cases h' with
    | none hnone => exact absurd mem (hnone _ _ _ hcs.symm)
    | @next front' m' back' _ mem' leftmost' longest' rest' =>
      have hlength : front.length = front'.length :=
        Nat.le_antisymm (leftmost _ _ _ mem' hcs) (leftmost' _ _ _ mem hcs.symm)
      obtain ⟨rfl, hmatch⟩ := List.append_inj hcs hlength
      have hlength : m.length = m'.length :=
        Nat.le_antisymm (longest' _ _ mem hmatch.symm) (longest _ _ mem' hmatch)
      obtain ⟨rfl, rfl⟩ := List.append_inj hmatch hlength
      rw [ih rest']

/-! ## Runs of blank lines -/

/-- A line break. -/
def lineBreak : RegularExpression Char := .char '\n'

/-- Spaces and tabs. -/
def padding : RegularExpression Char := .star (.char ' ' + .char '\t')

/-- Two or more blank lines and the line breaks around them. -/
def blankRun : RegularExpression Char :=
  lineBreak * padding * ((lineBreak * padding) * .star (lineBreak * padding)) * lineBreak

/-- The blank lines with a line break in front of each and one behind the last. -/
def runText (pads : List (List Char)) : List Char := pads.flatMap ('\n' :: ·) ++ ['\n']

theorem mem_padding_iff : line ∈ padding.matches' ↔ isPaddingLine line = true := by
  have hspace : ∀ y, y ∈ (RegularExpression.char ' ' + .char '\t').matches' ↔
      y = [' '] ∨ y = ['\t'] := fun _ => Iff.rfl
  rw [padding, RegularExpression.matches'_star, Language.mem_kstar]
  constructor
  · rintro ⟨pieces, rfl, hpieces⟩
    rw [isPaddingLine, List.all_eq_true]
    intro c hc
    obtain ⟨piece, hpiece, hc⟩ := List.mem_flatten.1 hc
    rcases (hspace piece).1 (hpieces piece hpiece) with rfl | rfl
    · obtain rfl := List.mem_singleton.1 hc
      rfl
    · obtain rfl := List.mem_singleton.1 hc
      rfl
  · intro h
    rw [isPaddingLine, List.all_eq_true] at h
    refine ⟨line.map ([·]), by rw [← List.flatMap_def, List.flatMap_singleton'], ?_⟩
    intro piece hpiece
    obtain ⟨c, hc, rfl⟩ := List.mem_map.1 hpiece
    have hcases : c = ' ' ∨ c = '\t' := by simpa [isPadding] using h c hc
    exact (hspace [c]).2 (by simpa using hcases)

/-- A line break and the blank line behind it. -/
theorem mem_lineBreak_padding_iff {m : List Char} :
    m ∈ (lineBreak * padding).matches' ↔ ∃ line, isPaddingLine line = true ∧ m = '\n' :: line := by
  rw [RegularExpression.matches'_mul, Language.mem_mul]
  constructor
  · rintro ⟨_, rfl, line, hline, rfl⟩
    exact ⟨line, mem_padding_iff.1 hline, rfl⟩
  · rintro ⟨line, hline, rfl⟩
    exact ⟨['\n'], rfl, line, mem_padding_iff.2 hline, rfl⟩

theorem mem_star_iff {m : List Char} :
    m ∈ (RegularExpression.star (lineBreak * padding)).matches' ↔
      ∃ pads : List (List Char), (∀ line ∈ pads, isPaddingLine line = true) ∧
        m = pads.flatMap ('\n' :: ·) := by
  rw [RegularExpression.matches'_star, Language.mem_kstar]
  constructor
  · rintro ⟨pieces, rfl, hpieces⟩
    induction pieces with
    | nil => exact ⟨[], by simp, rfl⟩
    | cons piece pieces ih =>
      obtain ⟨hpiece, hrest⟩ := List.forall_mem_cons.1 hpieces
      obtain ⟨line, hline, rfl⟩ := mem_lineBreak_padding_iff.1 hpiece
      obtain ⟨pads, hpads, heq⟩ := ih hrest
      exact ⟨line :: pads, List.forall_mem_cons.2 ⟨hline, hpads⟩, by simp [heq]⟩
  · rintro ⟨pads, hpads, rfl⟩
    refine ⟨pads.map ('\n' :: ·), List.flatMap_def, ?_⟩
    intro piece hpiece
    obtain ⟨line, hline, rfl⟩ := List.mem_map.1 hpiece
    exact mem_lineBreak_padding_iff.2 ⟨line, hpads line hline, rfl⟩

/-- **What matches is made of two or more blank lines** and the line breaks around them. -/
theorem mem_blankRun_iff {m : List Char} :
    m ∈ blankRun.matches' ↔
      ∃ pads, 2 ≤ pads.length ∧ (∀ line ∈ pads, isPaddingLine line = true) ∧ m = runText pads := by
  rw [blankRun, RegularExpression.matches'_mul, Language.mem_mul, RegularExpression.matches'_mul]
  constructor
  · rintro ⟨a, ha, _, rfl, rfl⟩
    obtain ⟨b, hb, c, hc, rfl⟩ := Language.mem_mul.1 ha
    rw [RegularExpression.matches'_mul] at hc
    obtain ⟨d, hd, e, he, rfl⟩ := Language.mem_mul.1 hc
    obtain ⟨first, hfirst, rfl⟩ := mem_lineBreak_padding_iff.1 hb
    obtain ⟨second, hsecond, rfl⟩ := mem_lineBreak_padding_iff.1 hd
    obtain ⟨pads, hpads, rfl⟩ := mem_star_iff.1 he
    refine ⟨first :: second :: pads, by simp, ?_, by simp [runText]⟩
    exact List.forall_mem_cons.2 ⟨hfirst, List.forall_mem_cons.2 ⟨hsecond, hpads⟩⟩
  · rintro ⟨pads, hlength, hpads, rfl⟩
    obtain _ | ⟨first, _ | ⟨second, pads⟩⟩ := pads
    · cases hlength
    · cases Nat.le_of_succ_le_succ hlength
    · obtain ⟨hfirst, hpads⟩ := List.forall_mem_cons.1 hpads
      obtain ⟨hsecond, hpads⟩ := List.forall_mem_cons.1 hpads
      have hrest := Language.append_mem_mul (mem_lineBreak_padding_iff.2 ⟨second, hsecond, rfl⟩)
        (mem_star_iff.2 ⟨pads, hpads, rfl⟩)
      rw [← RegularExpression.matches'_mul] at hrest
      have hrun := Language.append_mem_mul (mem_lineBreak_padding_iff.2 ⟨first, hfirst, rfl⟩) hrest
      exact ⟨_, hrun, ['\n'], rfl, by simp [runText]⟩

/-! ## Matches among lines -/

theorem joinLines_run (hrest : rest ≠ []) (first : List Char) (pads : List (List Char)) :
    joinLines (first :: (pads ++ rest)) = first ++ (runText pads ++ joinLines rest) := by
  induction pads generalizing first with
  | nil => exact joinLines_cons hrest first
  | cons line pads ih =>
    rw [List.cons_append, joinLines_cons (List.cons_ne_nil _ _), ih]
    simp [runText]

theorem newline_notMem_of_isPaddingLine (h : isPaddingLine line = true) : '\n' ∉ line := by
  intro hmem
  exact absurd (List.all_eq_true.1 h '\n' hmem) (by decide)

/-- A match right behind a line takes the next lines, and leaves at least one. -/
theorem eq_append_of_runText (hlines : ∀ l ∈ lines, '\n' ∉ l) (hne : lines ≠ [])
    (hpads : ∀ l ∈ pads, isPaddingLine l = true)
    (h : '\n' :: joinLines lines = runText pads ++ back) : lines = pads ++ splitLines back := by
  have hleft : splitLines ('\n' :: joinLines lines) = [] :: lines := by
    rw [splitLines, if_pos rfl, splitLines_joinLines hlines hne]
  have hright : splitLines (runText pads ++ back) = [] :: (pads ++ splitLines back) := by
    have hjoin := joinLines_run (splitLines_ne_nil back) [] pads
    rw [joinLines_splitLines, List.nil_append] at hjoin
    rw [← hjoin, splitLines_joinLines _ (List.cons_ne_nil _ _)]
    refine List.forall_mem_cons.2 ⟨List.not_mem_nil, List.forall_mem_append.2 ⟨?_, ?_⟩⟩
    · exact fun l hl => newline_notMem_of_isPaddingLine (hpads l hl)
    · exact fun l hl => newline_notMem_of_mem_splitLines hl
  rw [h, hright] at hleft
  exact (List.cons.inj hleft).2.symm

/-- A match begins behind the first line or later. -/
theorem behind_first {m : List Char} (hfirst : '\n' ∉ first) (hm : m.head? = some '\n')
    (h : first ++ '\n' :: cs = front ++ (m ++ back)) :
    front = first ∧ '\n' :: cs = m ++ back ∨
      ∃ between, front = first ++ '\n' :: between ∧ cs = between ++ (m ++ back) := by
  rcases List.append_eq_append_iff.1 h with ⟨between, rfl, hback⟩ | ⟨between, rfl, hback⟩
  · cases between with
    | nil => exact .inl ⟨List.append_nil _, hback⟩
    | cons c between =>
      obtain ⟨rfl, hcs⟩ := List.cons.inj hback
      exact .inr ⟨between, rfl, hcs⟩
  · cases between with
    | nil => exact .inl ⟨(List.append_nil _).symm, hback.symm⟩
    | cons c between =>
      -- the match would begin within the line
      have hhead := congrArg List.head? hback
      rw [List.head?_append, hm, List.cons_append, List.head?_cons, Option.some_or,
        Option.some.injEq] at hhead
      rw [← hhead] at hfirst
      exact absurd (List.mem_append_right front List.mem_cons_self) hfirst

theorem head?_of_mem_blankRun {m : List Char} (hm : m ∈ blankRun.matches') : m.head? = some '\n' := by
  obtain ⟨pads, hlength, -, rfl⟩ := mem_blankRun_iff.1 hm
  cases pads with
  | nil => cases hlength
  | cons line pads => rfl

/-- Where no match begins behind the first line, what is replaced is replaced behind that line. -/
theorem Replaces.behind {new : List Char} (hfirst : '\n' ∉ first)
    (hnone : ∀ m back, m ∈ blankRun.matches' → '\n' :: cs ≠ m ++ back)
    (h : Replaces blankRun.matches' new cs out) :
    Replaces blankRun.matches' new (first ++ '\n' :: cs) (first ++ '\n' :: out) := by
  cases h with
  | none none =>
    refine .none fun front m back hcs hm => ?_
    rcases behind_first hfirst (head?_of_mem_blankRun hm) hcs with ⟨-, hmatch⟩ | ⟨between, -, hmatch⟩
    · exact hnone m back hm hmatch
    · exact none between m back hmatch hm
  | @next front m back out mem leftmost longest rest =>
    have hleftmost : ∀ front' m' back', m' ∈ blankRun.matches' →
        (first ++ '\n' :: front) ++ (m ++ back) = front' ++ (m' ++ back') →
          (first ++ '\n' :: front).length ≤ front'.length := by
      intro front' m' back' hm' hcs
      rw [List.append_assoc, List.cons_append] at hcs
      rcases behind_first hfirst (head?_of_mem_blankRun hm') hcs with
        ⟨-, hmatch⟩ | ⟨between, rfl, hmatch⟩
      · exact absurd hmatch (hnone m' back' hm')
      · have hle := leftmost between m' back' hm' hmatch
        simp only [List.length_append, List.length_cons]
        omega
    have hnext := Replaces.next mem hleftmost longest rest
    rwa [List.append_assoc, List.cons_append, List.append_assoc, List.cons_append] at hnext

/-! ## The lines of a run -/

/-- The blank lines in front, as far as they belong to a run: up to a line with text or the last
line. -/
theorem exists_run (hne : lines ≠ []) :
    ∃ pads l more, lines = pads ++ l :: more ∧ (∀ p ∈ pads, isPaddingLine p = true) ∧
      (isPaddingLine l = true → more = []) := by
  induction lines with
  | nil => exact absurd rfl hne
  | cons line rest ih =>
    by_cases hrun : isPaddingLine line = true ∧ rest ≠ []
    · obtain ⟨pads, l, more, rfl, hpads, hend⟩ := ih hrun.2
      exact ⟨line :: pads, l, more, rfl, List.forall_mem_cons.2 ⟨hrun.1, hpads⟩, hend⟩
    · refine ⟨[], line, rest, rfl, List.forall_mem_nil _, fun hline => ?_⟩
      by_contra hrest
      exact hrun ⟨hline, hrest⟩

/-- No longer run begins there. -/
theorem length_le_of_run {pads' rest' more : List (List Char)} {l : List Char}
    (h : pads ++ l :: more = pads' ++ rest') (hend : isPaddingLine l = true → more = [])
    (hpads' : ∀ p ∈ pads', isPaddingLine p = true) (hrest' : rest' ≠ []) :
    pads'.length ≤ pads.length := by
  induction pads generalizing pads' with
  | nil =>
    cases pads' with
    | nil => exact Nat.le_refl _
    | cons p pads' =>
      obtain ⟨rfl, hmore⟩ := List.cons.inj h
      rw [hend (hpads' _ List.mem_cons_self)] at hmore
      exact absurd (List.append_eq_nil_iff.1 hmore.symm).2 hrest'
  | cons p pads ih =>
    cases pads' with
    | nil => exact Nat.zero_le _
    | cons p' pads' =>
      obtain ⟨-, hback⟩ := List.cons.inj h
      exact Nat.succ_le_succ (ih hback fun q hq => hpads' q (List.mem_cons_of_mem _ hq))

theorem collapse_run {l : List Char} {more : List (List Char)}
    (hpads : ∀ p ∈ pads, isPaddingLine p = true) (hend : isPaddingLine l = true → more = [])
    (run : BlankRun) :
    collapse run (pads ++ l :: more) =
      (pads.foldl BlankRun.add run).lines ++ l :: collapse .empty more := by
  induction pads generalizing run with
  | nil =>
    rcases eq_or_ne more [] with rfl | hmore
    · rfl
    · rw [List.nil_append, collapse_cons hmore, if_neg fun hl => hmore (hend hl)]
      rfl
  | cons p pads ih =>
    obtain ⟨hp, hpads⟩ := List.forall_mem_cons.1 hpads
    rw [List.cons_append, collapse_cons (by simp), if_pos hp, ih hpads, List.foldl_cons]

theorem lines_foldl_add (pads : List (List Char)) :
    (pads.foldl BlankRun.add .empty).lines = if pads.length < 2 then pads else [[]] := by
  have hseveral : ∀ pads : List (List Char), pads.foldl BlankRun.add .several = .several := by
    intro pads
    induction pads with
    | nil => rfl
    | cons p pads ih => exact ih
  obtain _ | ⟨first, _ | ⟨second, pads⟩⟩ := pads
  · rfl
  · rfl
  · rw [List.foldl_cons, List.foldl_cons, if_neg (by simp)]
    exact congrArg BlankRun.lines (hseveral pads)

/-! ## Collapsing -/

/-- A match right behind a line is no longer than the run there. -/
theorem length_le_of_match {l m : List Char} {more : List (List Char)}
    (hpads : ∀ p ∈ pads, isPaddingLine p = true) (hend : isPaddingLine l = true → more = [])
    (hmore : ∀ p ∈ l :: more, '\n' ∉ p) (hm : m ∈ blankRun.matches')
    (h : '\n' :: joinLines (pads ++ l :: more) = m ++ back) :
    2 ≤ pads.length ∧ m.length ≤ (runText pads).length := by
  obtain ⟨pads', htwo, hpads', rfl⟩ := mem_blankRun_iff.1 hm
  have hfree : ∀ p ∈ pads ++ l :: more, '\n' ∉ p := List.forall_mem_append.2
    ⟨fun p hp => newline_notMem_of_isPaddingLine (hpads p hp), hmore⟩
  have hsplit := eq_append_of_runText hfree (by simp) hpads' h
  have hle := length_le_of_run hsplit hend hpads' (splitLines_ne_nil back)
  have hfront : pads' <+: pads :=
    List.prefix_of_prefix_length_le ⟨_, hsplit.symm⟩ (List.prefix_append _ _) hle
  obtain ⟨others, rfl⟩ := hfront
  refine ⟨Nat.le_trans htwo hle, ?_⟩
  simp only [runText, List.flatMap_append, List.length_append]
  omega

/-- Two or more blank lines behind a line are the next match, and the search goes on with the line
behind them. -/
theorem Replaces.behind_run {new l : List Char} {more : List (List Char)} (hfirst : '\n' ∉ first)
    (hlong : 2 ≤ pads.length) (hpads : ∀ p ∈ pads, isPaddingLine p = true)
    (hend : isPaddingLine l = true → more = []) (hmore : ∀ p ∈ l :: more, '\n' ∉ p)
    (h : Replaces blankRun.matches' new (joinLines (l :: more)) out) :
    Replaces blankRun.matches' new (joinLines (first :: (pads ++ l :: more)))
      (first ++ (new ++ out)) := by
  have hjoin := joinLines_run (List.cons_ne_nil l more) [] pads
  have hrun : '\n' :: joinLines (pads ++ l :: more) = runText pads ++ joinLines (l :: more) := by
    rwa [joinLines_cons (by simp), List.nil_append, List.nil_append] at hjoin
  rw [joinLines_run (List.cons_ne_nil l more)]
  refine .next (mem_blankRun_iff.2 ⟨pads, hlong, hpads, rfl⟩) ?_ ?_ h
  · intro front m back hm h
    rw [← hrun] at h
    rcases behind_first hfirst (head?_of_mem_blankRun hm) h with ⟨rfl, -⟩ | ⟨between, rfl, -⟩
    · exact Nat.le_refl _
    · rw [List.length_append]
      exact Nat.le_add_right _ _
  · intro m back hm h
    rw [← hrun] at h
    exact (length_le_of_match hpads hend hmore hm h).2

/-- Induction on the number of lines: the line behind a run is the first line of what is left. -/
theorem replaces_joinLines (hfirst : '\n' ∉ first) (hlines : ∀ l ∈ lines, '\n' ∉ l) :
    Replaces blankRun.matches' ['\n', '\n'] (joinLines (first :: lines))
      (joinLines (first :: collapse .empty lines)) := by
  induction hn : lines.length using Nat.strongRecOn generalizing first lines with
  | _ n ih =>
    rcases eq_or_ne lines [] with rfl | hne
    · refine .none fun front m back hcs hm => hfirst ?_
      have hmem : '\n' ∈ m := List.mem_of_mem_head? (head?_of_mem_blankRun hm)
      have htext : first = front ++ (m ++ back) := hcs
      rw [htext]
      exact List.mem_append_right _ (List.mem_append_left _ hmem)
    · obtain ⟨pads, l, more, rfl, hpads, hend⟩ := exists_run hne
      obtain ⟨-, hmore⟩ := List.forall_mem_append.1 hlines
      have hbehind : Replaces blankRun.matches' ['\n', '\n'] (joinLines (l :: more))
          (joinLines (l :: collapse .empty more)) := by
        obtain ⟨hl, hrest⟩ := List.forall_mem_cons.1 hmore
        refine ih more.length ?_ hl hrest rfl
        rw [← hn, List.length_append, List.length_cons]
        omega
      rw [collapse_run hpads hend, lines_foldl_add]
      split
      · rename_i hshort
        have hnone : ∀ pads : List (List Char), pads.length < 2 →
            (∀ p ∈ pads, isPaddingLine p = true) → ∀ m back, m ∈ blankRun.matches' →
              '\n' :: joinLines (pads ++ l :: more) ≠ m ++ back := by
          intro pads hshort hpads m back hm h
          have hlong := (length_le_of_match hpads hend hmore hm h).1
          omega
        obtain _ | ⟨p, _ | ⟨q, pads⟩⟩ := pads
        · exact hbehind.behind hfirst (hnone [] (by decide) hpads)
        · have hp := newline_notMem_of_isPaddingLine (hpads p List.mem_cons_self)
          have hnext := hbehind.behind hp (hnone [] (by decide) (List.forall_mem_nil _))
          exact hnext.behind hfirst (hnone [p] (by simp) hpads)
        · simp only [List.length_cons] at hshort
          omega
      · exact hbehind.behind_run hfirst (by omega) hpads hend hmore

/-- **Collapsing the lines of a text replaces the matches in it.** -/
theorem replaces_collapseBlankLines (cs : List Char) :
    Replaces blankRun.matches' ['\n', '\n'] cs (joinLines (collapseBlankLines (splitLines cs))) := by
  obtain ⟨first, lines, hsplit⟩ := List.exists_cons_of_ne_nil (splitLines_ne_nil cs)
  have hfree : ∀ l ∈ first :: lines, '\n' ∉ l := by
    rw [← hsplit]
    exact fun l hl => newline_notMem_of_mem_splitLines hl
  obtain ⟨hfirst, hlines⟩ := List.forall_mem_cons.1 hfree
  have hreplaces := replaces_joinLines hfirst hlines
  rw [← hsplit, joinLines_splitLines] at hreplaces
  rw [hsplit]
  exact hreplaces

/-- **Normalized code is the one replacement of the runs of blank lines in the code**, trimmed, with a
newline behind it. -/
theorem exists_replaces_normalized (code : String) :
    ∃ out, (∀ cs, Replaces blankRun.matches' ['\n', '\n'] code.toList cs ↔ cs = out) ∧
      (normalized code).toList = trim out ++ ['\n'] := by
  have hreplaces := replaces_collapseBlankLines code.toList
  refine ⟨_, fun cs => ⟨fun h => h.unique hreplaces, ?_⟩, ?_⟩
  · rintro rfl
    exact hreplaces
  · rw [normalized, String.toList_ofList]

end ContractCompiler.Text
