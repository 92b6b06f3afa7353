import ContractCompiler.Files.Tree
import ContractCompiler.Proofs.Files.Place

/-!
# What operations leave of a file tree

A tree is seen through the directories that it has and through the files at its locations. Every
operation keeps the directories; making directories keeps the files as well, and writing a file
changes no other.

* `locate_of_growsTo` — a path that is located stays where it is while the tree grows.
* `readText_eq_ok_iff` — a text is read where the file at the location of the path holds it.
* `gainsDirectories_makeParent` — making the way to a file changes no file.
* `writeArtifact_cases` — the three ways in which writing an artifact ends.
* `wrote_of_writeArtifact` — when it succeeds, the path holds the text and no other file has changed.
* `Wrote.readText_kept` — a text at another place can still be read afterwards.
-/

namespace ContractCompiler

namespace FileTree

/-- What the file at a location holds. -/
def fileAt (t : FileTree) (l : Location) : Option FileContent :=
  match t.get? l with
  | some (.file content) => some content
  | _ => none

/-- The directories of the tree are directories of the other one, and relative paths start at the
same place in both. -/
structure GrowsTo (t t' : FileTree) : Prop where
  workingDir : t'.workingDir = t.workingDir
  directory : ∀ l, t.get? l = some .directory → t'.get? l = some .directory

/-- The other tree has the same files, and perhaps more directories. -/
structure GainsDirectories (t t' : FileTree) : Prop extends GrowsTo t t' where
  fileAt : ∀ l, t'.fileAt l = t.fileAt l

variable {t t' t'' : FileTree} {l : Location} {p : Path}

theorem GrowsTo.refl (t : FileTree) : t.GrowsTo t := ⟨rfl, fun _ h => h⟩

theorem GrowsTo.trans (h : t.GrowsTo t') (h' : t'.GrowsTo t'') : t.GrowsTo t'' where
  workingDir := h'.workingDir.trans h.workingDir
  directory l hl := h'.directory l (h.directory l hl)

theorem GainsDirectories.refl (t : FileTree) : t.GainsDirectories t := ⟨.refl t, fun _ => rfl⟩

theorem GainsDirectories.trans (h : t.GainsDirectories t') (h' : t'.GainsDirectories t'') :
    t.GainsDirectories t'' where
  toGrowsTo := h.toGrowsTo.trans h'.toGrowsTo
  fileAt l := (h'.fileAt l).trans (h.fileAt l)

/-! ## Growing trees -/

theorem walk_of_growsTo (h : t.GrowsTo t') {cs : List PathComponent} :
    ∀ {l m : Location}, t.walk l cs = .ok m → t'.walk l cs = .ok m := by
  induction cs with
  | nil => exact fun hw => hw
  | cons c rest ih =>
    intro l m hw
    unfold walk at hw ⊢
    split at hw
    · cases hw
    · cases hw
    · rename_i hl
      rw [h.directory l hl]
      split at hw
      · exact ih hw
      · exact ih hw
      · exact ih hw
      · split at hw
        · cases hw
        · rename_i hlength
          simp only [hlength, if_false]
          exact ih hw

/-- **A path that is located stays where it is while the tree grows.** -/
theorem locate_of_growsTo (h : t.GrowsTo t') (hl : t.locate p = .ok l) : t'.locate p = .ok l := by
  have hwalk := walk_of_growsTo h (walk_of_locate hl)
  rw [← h.workingDir] at hwalk
  unfold locate at hl ⊢
  split at hl
  · cases hl
  · split at hl
    · cases hl
    · split at hl
      · cases hl
      · rename_i hzero hempty hlength
        rw [if_neg hzero, if_neg hempty, if_neg hlength]
        exact hwalk

/-- **A text is read from a path exactly where the file at its location holds it**, and a path that
asks for a directory has none. -/
theorem readText_eq_ok_iff {content : String} :
    t.readText p = .ok content ↔
      asksForDirectory p = false ∧ ∃ l, t.locate p = .ok l ∧ t.fileAt l = some (.text content) := by
  unfold readText find
  cases hlocate : t.locate p with
  | error e => simp
  | ok l =>
    cases hentry : t.get? l with
    | none => simp [fileAt, hentry]
    | some entry =>
      cases entry with
      | directory => simp [fileAt, hentry]
      | file held =>
        cases hasks : asksForDirectory p <;> cases held <;> simp [fileAt, hentry]

/-! ## Making directories -/

theorem gainsDirectories_put (h : t.get? l = none) :
    t.GainsDirectories (t.put l .directory) := by
  have hroot : l ≠ [] := by
    rintro rfl
    simp [get?] at h
  refine ⟨⟨rfl, fun m hm => ?_⟩, fun m => ?_⟩
  · by_cases hlm : l = m
    · rw [← hlm, get?_put_self hroot]
    · rw [get?_put_of_ne hlm, hm]
  · by_cases hlm : l = m
    · subst hlm
      simp [fileAt, get?_put_self hroot, h]
    · simp [fileAt, get?_put_of_ne hlm]

theorem gainsDirectories_makeDirectory (t : FileTree) (p : Path) :
    t.GainsDirectories (t.makeDirectory p).2 := by
  unfold makeDirectory
  split
  · exact .refl t
  · split
    · exact .refl t
    · rename_i hentry
      split
      · exact .refl t
      · exact gainsDirectories_put hentry

theorem gainsDirectories_makeWay (cs : List PathComponent) :
    ∀ (t : FileTree) (l : Location), t.GainsDirectories (t.makeWay l cs).2 := by
  induction cs with
  | nil => exact fun t _ => .refl t
  | cons c rest ih =>
    intro t l
    cases c with
    | root => exact ih t []
    | here => exact ih t l
    | up => exact ih t l.dropLast
    | name n =>
      simp only [makeWay]
      split
      · exact .refl t
      · split
        · exact ih t (l ++ [n])
        · exact .refl t
        · rename_i hentry
          exact (gainsDirectories_put hentry).trans (ih _ (l ++ [n]))

/-- Ensuring a directory does no more to the tree than making it. -/
theorem snd_ensureDirectory (t : FileTree) (p : Path) :
    (t.ensureDirectory p).2 = (t.makeDirectory p).2 := by
  unfold ensureDirectory
  split
  · rename_i h
    rw [h]
  · rename_i h
    rw [h]
    split <;> rfl

theorem gainsDirectories_ensureDirectory (t : FileTree) (p : Path) :
    t.GainsDirectories (t.ensureDirectory p).2 := by
  rw [snd_ensureDirectory]
  exact gainsDirectories_makeDirectory t p

theorem gainsDirectories_makeDirectories (t : FileTree) (p : Path) :
    t.GainsDirectories (t.makeDirectories p).2 := by
  have hensure := gainsDirectories_ensureDirectory t p
  unfold makeDirectories
  split
  · rename_i t₁ h
    rw [h] at hensure
    split
    · exact hensure
    · rename_i parent _
      have hway := gainsDirectories_makeWay parent.components t₁ t₁.workingDir
      split
      · rename_i hw
        rw [hw] at hway
        exact hensure.trans hway
      · rename_i t₂ hw
        rw [hw] at hway
        exact (hensure.trans hway).trans (gainsDirectories_ensureDirectory t₂ p)
  · exact hensure

/-- **Making the way to a file changes no file.** -/
theorem gainsDirectories_makeParent (t : FileTree) (p : Path) :
    t.GainsDirectories (t.makeParent p).2 := by
  unfold makeParent
  split
  · exact .refl t
  · split
    · exact .refl t
    · exact gainsDirectories_makeDirectories t _

/-! ## Writing files -/

/-- The other tree came from the tree by writing a text to a path: the path holds the text, and no
other file has changed. -/
structure Wrote (t : FileTree) (p : Path) (content : String) (t' : FileTree) : Prop
    extends GrowsTo t t' where
  readText : t'.readText p = .ok content
  fileAt : ∀ l, t'.locate p ≠ .ok l → t'.fileAt l = t.fileAt l

theorem wrote_put {content : String} (hlocate : t.locate p = .ok l)
    (hentry : t.get? l ≠ some .directory) (hasks : asksForDirectory p = false) :
    t.Wrote p content (t.put l (.file (.text content))) := by
  have hroot : l ≠ [] := by
    rintro rfl
    exact hentry (by simp [get?])
  have hgrows : t.GrowsTo (t.put l (.file (.text content))) := by
    refine ⟨rfl, fun m hm => ?_⟩
    have hlm : l ≠ m := by
      rintro rfl
      exact hentry hm
    rw [get?_put_of_ne hlm, hm]
  have hlocate' := locate_of_growsTo hgrows hlocate
  refine ⟨hgrows, ?_, fun m hm => ?_⟩
  · refine readText_eq_ok_iff.2 ⟨hasks, l, hlocate', ?_⟩
    simp [fileAt, get?_put_self hroot]
  · have hlm : l ≠ m := by
      rintro rfl
      exact hm hlocate'
    simp [fileAt, get?_put_of_ne hlm]

/-- **Writing a text either fails and changes nothing, or the path holds the text.** -/
theorem writeFile_cases (t : FileTree) (p : Path) (content : String) :
    (∃ e, t.writeFile p (.text content) = (.error e, t)) ∨
      ∃ t', t.writeFile p (.text content) = (.ok (), t') ∧ t.Wrote p content t' := by
  unfold writeFile
  cases hlocate : t.locate p with
  | error e => exact Or.inl ⟨e, rfl⟩
  | ok l =>
    simp only
    split
    · exact Or.inl ⟨_, rfl⟩
    · rename_i hentry
      cases hasks : asksForDirectory p with
      | true => exact Or.inl ⟨_, rfl⟩
      | false => exact Or.inr ⟨_, rfl, wrote_put hlocate hentry hasks⟩

end FileTree

/-! ## Writing an artifact

An artifact whose file already holds its text is left as it is; otherwise its directory is made and
its file is written, or the attempt fails and no file has changed.
-/

namespace FileTree

variable {t t' t'' : FileTree} {p q : Path} {content text : String}

theorem GainsDirectories.wrote (h : t.GainsDirectories t') (hw : t'.Wrote p content t'') :
    t.Wrote p content t'' where
  toGrowsTo := h.toGrowsTo.trans hw.toGrowsTo
  readText := hw.readText
  fileAt l hl := (hw.fileAt l hl).trans (h.fileAt l)

/-- A path that holds a text may count as written. -/
theorem wrote_self (h : t.readText p = .ok content) : t.Wrote p content t where
  toGrowsTo := .refl t
  readText := h
  fileAt _ _ := rfl

theorem holds_iff : t.holds p content = true ↔ t.readText p = .ok content := by
  unfold holds
  cases h : t.readText p <;> simp

/-- An artifact whose file holds its text is left as it is. -/
theorem writeArtifact_of_readText (h : t.readText p = .ok content) :
    t.writeArtifact p content = (.ok .unchanged, t) := by
  rw [writeArtifact, if_pos (holds_iff.2 h)]

/-- **An artifact is current, or it is written, or writing it fails and no file has changed.** -/
theorem writeArtifact_cases (t : FileTree) (p : Path) (content : String) :
    (t.readText p = .ok content ∧ t.writeArtifact p content = (.ok .unchanged, t)) ∨
      (t.readText p ≠ .ok content ∧
        ∃ t', t.writeArtifact p content = (.ok .written, t') ∧ t.Wrote p content t') ∨
      ∃ e t', t.writeArtifact p content = (.error e, t') ∧ t.GainsDirectories t' := by
  by_cases hread : t.readText p = .ok content
  · exact Or.inl ⟨hread, writeArtifact_of_readText hread⟩
  · have hholds : ¬t.holds p content = true := fun h => hread (holds_iff.1 h)
    have hparent := gainsDirectories_makeParent t p
    rw [writeArtifact, if_neg hholds]
    rcases hmake : t.makeParent p with ⟨made, t₁⟩
    rw [hmake] at hparent
    cases made with
    | error e => exact Or.inr (Or.inr ⟨e, t₁, rfl, hparent⟩)
    | ok _ =>
      rcases writeFile_cases t₁ p content with ⟨e, hwrite⟩ | ⟨t₂, hwrite, hwrote⟩
      · exact Or.inr (Or.inr ⟨e, t₁, by simp only [hwrite], hparent⟩)
      · exact Or.inr (Or.inl ⟨hread, t₂, by simp only [hwrite], hparent.wrote hwrote⟩)

/-- **After an artifact is written, its path holds its text and no other file has changed.** -/
theorem wrote_of_writeArtifact {o : WriteOutcome} (h : t.writeArtifact p content = (.ok o, t')) :
    t.Wrote p content t' := by
  rcases writeArtifact_cases t p content with ⟨hread, hw⟩ | ⟨-, t₁, hw, hwrote⟩ | ⟨e, t₁, hw, -⟩
  · rw [hw] at h
    cases h
    exact wrote_self hread
  · rw [hw] at h
    cases h
    exact hwrote
  · rw [hw] at h
    cases h

/-- An artifact that cannot be written changes no file. -/
theorem gainsDirectories_of_writeArtifact {e : FileError}
    (h : t.writeArtifact p content = (.error e, t')) : t.GainsDirectories t' := by
  rcases writeArtifact_cases t p content with ⟨-, hw⟩ | ⟨-, t₁, hw, -⟩ | ⟨_, t₁, hw, hgains⟩
  · rw [hw] at h
    cases h
  · rw [hw] at h
    cases h
  · rw [hw] at h
    cases h
    exact hgains

/-- However writing an artifact ends, the directories stay. -/
theorem growsTo_writeArtifact (t : FileTree) (p : Path) (content : String) :
    t.GrowsTo (t.writeArtifact p content).2 := by
  rcases writeArtifact_cases t p content with ⟨-, hw⟩ | ⟨-, t', hw, hwrote⟩ | ⟨e, t', hw, hgains⟩
  · rw [hw]
    exact .refl t
  · rw [hw]
    exact hwrote.toGrowsTo
  · rw [hw]
    exact hgains.toGrowsTo

/-- **A text is still there after a write to another place**, or of the same text. -/
theorem Wrote.readText_kept (h : t.Wrote p content t')
    (hplace : p.place t.workingDir = q.place t.workingDir → content = text)
    (hread : t.readText q = .ok text) : t'.readText q = .ok text := by
  obtain ⟨hasks, l, hlocate, hfile⟩ := readText_eq_ok_iff.1 hread
  refine readText_eq_ok_iff.2 ⟨hasks, l, locate_of_growsTo h.toGrowsTo hlocate, ?_⟩
  -- Two paths may lead to one file; then the text that was written is the text that was there.
  by_cases hsame : t'.locate p = .ok l
  · have hp : l = p.place t.workingDir := by
      rw [← h.workingDir]
      exact place_of_locate hsame
    obtain ⟨-, m, hm, hfile'⟩ := readText_eq_ok_iff.1 h.readText
    rw [hsame] at hm
    cases hm
    rw [hfile', hplace (hp.symm.trans (place_of_locate hlocate))]
  · rw [h.fileAt l hsame, hfile]

end FileTree

end ContractCompiler
