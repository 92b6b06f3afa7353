import ContractCompiler.Compiler.Basic
import ContractCompiler.Proofs.Files.Tree

/-!
# Delivering artifacts

A delivery is a list of artifacts that are written in order, each with success, with the report of
what became of them. Both passes of the compiler deliver artifacts until something fails.

* `AccountsFor.append` — reports that account for two changes account for one after the other.
* `Delivery.accountsFor` — the report of a delivery accounts for every file that it changes.
* `Delivery.readText_of_last` — an artifact stays as it was delivered while later ones go elsewhere.
* `Delivery.current` — artifacts that are current are delivered again without a change.
* `writeAll_cases` — writing artifacts in order delivers them all, or those before the first that
  fails.
-/

namespace ContractCompiler

namespace CompileReport

variable {a b c : CompileReport} {t t' t'' : FileTree}

@[simp] theorem written_append : (a ++ b).written = a.written ++ b.written := rfl

@[simp] theorem unchanged_append : (a ++ b).unchanged = a.unchanged ++ b.unchanged := rfl

@[simp] theorem failures_append : (a ++ b).failures = a.failures ++ b.failures := rfl

theorem empty_append (a : CompileReport) : empty ++ a = a := rfl

theorem append_empty (a : CompileReport) : a ++ empty = a := by
  show append a empty = a
  simp [append, empty]

theorem append_assoc (a b c : CompileReport) : a ++ b ++ c = a ++ (b ++ c) := by
  show append (append a b) c = append a (append b c)
  simp [append]

theorem failures_single {p : Path} (o : WriteOutcome) : (single p o).failures = [] := by
  cases o <;> rfl

/-- The paths that the report names as up to date. -/
def delivered (r : CompileReport) : List Path := r.written ++ r.unchanged

/-- The report names every file that differs between the trees as written. -/
def AccountsFor (r : CompileReport) (t t' : FileTree) : Prop :=
  ∀ l, t'.fileAt l ≠ t.fileAt l → ∃ p ∈ r.written, t'.locate p = .ok l

theorem accountsFor_of_gainsDirectories (h : t.GainsDirectories t') : a.AccountsFor t t' :=
  fun l hl => absurd (h.fileAt l) hl

theorem AccountsFor.append (ha : a.AccountsFor t t') (hb : b.AccountsFor t' t'')
    (hgrows : t'.GrowsTo t'') : (a ++ b).AccountsFor t t'' := by
  intro l hl
  -- A file that the second change leaves alone was changed by the first one.
  by_cases hsecond : t''.fileAt l = t'.fileAt l
  · rw [hsecond] at hl
    obtain ⟨p, hp, hlocate⟩ := ha l hl
    exact ⟨p, List.mem_append_left _ hp, FileTree.locate_of_growsTo hgrows hlocate⟩
  · obtain ⟨p, hp, hlocate⟩ := hb l hsecond
    exact ⟨p, List.mem_append_right _ hp, hlocate⟩

end CompileReport

/-- The artifacts are written in order, each with success, and the report says what became of
them. -/
inductive Delivery : FileTree → List (Path × String) → CompileReport → FileTree → Prop where
  | nil (t : FileTree) : Delivery t [] .empty t
  | cons {t t₁ t₂ : FileTree} {p : Path} {content : String} {o : WriteOutcome}
      {rest : List (Path × String)} {r : CompileReport}
      (first : t.writeArtifact p content = (.ok o, t₁)) (others : Delivery t₁ rest r t₂) :
      Delivery t ((p, content) :: rest) (.single p o ++ r) t₂

namespace Delivery

variable {t t₁ t₂ : FileTree} {files files' : List (Path × String)} {r r' : CompileReport}

theorem append (h : Delivery t files r t₁) (h' : Delivery t₁ files' r' t₂) :
    Delivery t (files ++ files') (r ++ r') t₂ := by
  induction h with
  | nil => exact h'
  | cons first _ ih =>
    rw [CompileReport.append_assoc]
    exact .cons first (ih h')

theorem exists_of_cons {p : Path} {content : String} (h : Delivery t ((p, content) :: files) r t₂) :
    ∃ o t₁ r', r = .single p o ++ r' ∧ t.writeArtifact p content = (.ok o, t₁) ∧
      Delivery t₁ files r' t₂ := by
  cases h with
  | cons first others => exact ⟨_, _, _, rfl, first, others⟩

theorem exists_of_append (h : Delivery t (files ++ files') r t₂) :
    ∃ r₁ t₁ r₂, r = r₁ ++ r₂ ∧ Delivery t files r₁ t₁ ∧ Delivery t₁ files' r₂ t₂ := by
  induction files generalizing t r with
  | nil => exact ⟨.empty, t, r, rfl, .nil t, h⟩
  | cons d rest ih =>
    obtain ⟨o, u, r', rfl, first, others⟩ := exists_of_cons h
    obtain ⟨r₁, t₁, r₂, rfl, hrest, hback⟩ := ih others
    exact ⟨_, t₁, r₂, (CompileReport.append_assoc _ _ _).symm, .cons first hrest, hback⟩

theorem growsTo (h : Delivery t files r t₁) : t.GrowsTo t₁ := by
  induction h with
  | nil t => exact .refl t
  | cons first _ ih => exact (FileTree.wrote_of_writeArtifact first).toGrowsTo.trans ih

theorem failures_eq_nil (h : Delivery t files r t₁) : r.failures = [] := by
  induction h with
  | nil => rfl
  | cons _ _ ih => rw [CompileReport.failures_append, CompileReport.failures_single, ih]; rfl

/-- The report of a delivery names its paths. -/
theorem delivered_perm (h : Delivery t files r t₁) : r.delivered.Perm (files.map (·.1)) := by
  induction h with
  | nil => exact .nil
  | @cons _ _ _ p _ o _ r _ _ ih =>
    cases o with
    | written => exact ih.cons p
    | unchanged => exact List.perm_middle.trans (ih.cons p)

/-- What is written of one artifact is accounted for. -/
theorem accountsFor_single {p : Path} {content : String} {o : WriteOutcome}
    (h : t.writeArtifact p content = (.ok o, t₁)) :
    (CompileReport.single p o).AccountsFor t t₁ := by
  cases o with
  | unchanged =>
    rcases FileTree.writeArtifact_cases t p content with ⟨-, hw⟩ | ⟨-, _, hw, -⟩ | ⟨_, _, hw, -⟩
    all_goals rw [hw] at h; cases h
    exact CompileReport.accountsFor_of_gainsDirectories (.refl t)
  | written =>
    intro l hl
    have hlocate : t₁.locate p = .ok l := Classical.byContradiction fun hother =>
      hl ((FileTree.wrote_of_writeArtifact h).fileAt l hother)
    exact ⟨p, List.mem_singleton_self p, hlocate⟩

/-- **The report of a delivery accounts for every file that it changes.** -/
theorem accountsFor (h : Delivery t files r t₁) : r.AccountsFor t t₁ := by
  induction h with
  | nil t => exact CompileReport.accountsFor_of_gainsDirectories (.refl t)
  | cons first others ih => exact (accountsFor_single first).append ih others.growsTo

/-- A text stays where it is while nothing else is delivered to its place. -/
theorem readText_kept (h : Delivery t files r t₁) {p : Path} {content : String}
    (hplaces : ∀ e ∈ files, e.1.place t.workingDir = p.place t.workingDir → e.2 = content)
    (hread : t.readText p = .ok content) : t₁.readText p = .ok content := by
  induction h with
  | nil => exact hread
  | @cons t u _ q _ _ rest _ first _ ih =>
    have hwrote := FileTree.wrote_of_writeArtifact first
    have hrest : ∀ e ∈ rest, e.1.place u.workingDir = p.place u.workingDir → e.2 = content := by
      rw [hwrote.workingDir]
      exact fun e he => hplaces e (List.mem_cons_of_mem _ he)
    exact ih hrest (hwrote.readText_kept (hplaces _ List.mem_cons_self) hread)

/-- **An artifact stays as it was delivered while nothing else goes to its place later.** -/
theorem readText_of_last {before after : List (Path × String)} {p : Path} {content : String}
    (h : Delivery t (before ++ (p, content) :: after) r t₂)
    (hplaces : ∀ e ∈ after, e.1.place t.workingDir = p.place t.workingDir → e.2 = content) :
    t₂.readText p = .ok content := by
  obtain ⟨_, t₁, _, -, hbefore, hafter⟩ := h.exists_of_append
  obtain ⟨_, u, _, -, hwrite, hrest⟩ := hafter.exists_of_cons
  have hwrote := FileTree.wrote_of_writeArtifact hwrite
  refine hrest.readText_kept ?_ hwrote.readText
  rw [hwrote.workingDir, hbefore.growsTo.workingDir]
  exact hplaces

/-- Artifacts that go to different places are all there at the end. -/
theorem readText_of_pairwise (h : Delivery t files r t₁)
    (hplaces : files.Pairwise fun d e => d.1.place t.workingDir ≠ e.1.place t.workingDir)
    {e : Path × String} (he : e ∈ files) : t₁.readText e.1 = .ok e.2 := by
  obtain ⟨before, after, rfl⟩ := List.append_of_mem he
  have hafter := (List.pairwise_cons.1 (List.pairwise_append.1 hplaces).2.1).1
  exact h.readText_of_last fun d hd heq => absurd heq.symm (hafter d hd)

/-- **Artifacts that are current are delivered again without a change.** -/
theorem current (h : ∀ e ∈ files, t.readText e.1 = .ok e.2) :
    Delivery t files ⟨[], files.map (·.1), []⟩ t := by
  induction files with
  | nil => exact .nil t
  | cons e rest ih =>
    have hfirst := FileTree.writeArtifact_of_readText (h e List.mem_cons_self)
    exact .cons hfirst (ih fun d hd => h d (List.mem_cons_of_mem _ hd))

end Delivery

namespace Compiler

variable {t t' : FileTree} {files : List (Path × String)} {r : CompileReport}

theorem writeAll_of_delivery (h : Delivery t files r t') :
    ∀ before : CompileReport, writeAll t before files = (before ++ r, t') := by
  induction h with
  | nil t =>
    intro before
    rw [writeAll, CompileReport.append_empty]
  | cons first _ ih =>
    intro before
    simp only [writeAll, first]
    rw [ih, CompileReport.append_assoc]

/-- **Writing artifacts in order delivers them all, or those before the first that fails.** -/
theorem writeAll_cases (files : List (Path × String)) :
    ∀ (t : FileTree) (report : CompileReport),
      (∃ r t', Delivery t files r t' ∧ writeAll t report files = (report ++ r, t')) ∨
        ∃ before p content after r t₁ e t₂, files = before ++ (p, content) :: after ∧
          Delivery t before r t₁ ∧ t₁.writeArtifact p content = (.error e, t₂) ∧
          writeAll t report files = (.failed manifestName (.file e), t₂) := by
  induction files with
  | nil =>
    intro t report
    exact Or.inl ⟨_, t, .nil t, by rw [writeAll, CompileReport.append_empty]⟩
  | cons d rest ih =>
    obtain ⟨p, content⟩ := d
    intro t report
    rcases hwrite : t.writeArtifact p content with ⟨made, t₁⟩
    cases made with
    | error e =>
      refine Or.inr ⟨[], p, content, rest, .empty, t, e, t₁, rfl, .nil t, hwrite, ?_⟩
      simp only [writeAll, hwrite]
    | ok o =>
      rcases ih t₁ (report ++ .single p o) with
        ⟨r, t', hrest, hall⟩ | ⟨before, q, text, after, r, t₂, e, t₃, hsplit, hbefore, hfails, hall⟩
      · refine Or.inl ⟨.single p o ++ r, t', .cons hwrite hrest, ?_⟩
        simp only [writeAll, hwrite, hall, CompileReport.append_assoc]
      · refine Or.inr ⟨(p, content) :: before, q, text, after, .single p o ++ r, t₂, e, t₃, ?_,
          .cons hwrite hbefore, hfails, ?_⟩
        · rw [hsplit]
          rfl
        · simp only [writeAll, hwrite, hall]

end Compiler

end ContractCompiler
