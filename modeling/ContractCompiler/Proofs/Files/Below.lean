import ContractCompiler.Proofs.Files.Place
import ContractCompiler.Proofs.Files.WellFormed
import ContractCompiler.Proofs.Layout.Order

/-!
# Files below a directory

What the names on the way from a directory lead to is found at the path that goes on with them, as
long as the path is short enough to be opened.

* `walk_names` — names of entries are walked one by one.
* `locate_below` — the path below a directory leads where the names lead.
* `readText_below` — what is read there is what the file holds.
-/

namespace ContractCompiler

def FileContent.asText : FileContent → Except FileError String
  | text content => .ok content
  | binary _ => .error .notText

namespace FileTree

variable {t : FileTree} {dir p : Path} {l : Location} {names : List String}

/-! ## Walking -/

theorem walk_append {front back : List PathComponent} :
    ∀ {l m : Location}, t.walk l front = .ok m → t.walk l (front ++ back) = t.walk m back := by
  induction front with
  | nil =>
    intro l m h
    obtain rfl := Except.ok.inj h
    rfl
  | cons c rest ih =>
    intro l m h
    unfold walk at h
    rw [List.cons_append, walk.eq_def t l (c :: (rest ++ back))]
    split at h
    · cases h
    · cases h
    · cases c with
      | root | here | up => exact ih h
      | name n =>
        by_cases hlength : maxNameBytes < n.utf8ByteSize
        · simp only [hlength, if_true] at h
          cases h
        · simp only [hlength, if_false] at h ⊢
          exact ih h

/-- **The names on the way to an entry are walked one by one**: each but the last leads to a
directory. -/
theorem WellFormed.walk_names (ht : t.WellFormed) {e : FileEntry} :
    ∀ {l : Location}, t.get? (l ++ names) = some e →
      t.walk l (names.map .name) = .ok (l ++ names) := by
  induction names with
  | nil =>
    intro l _
    rw [List.map_nil, List.append_nil, walk]
  | cons n rest ih =>
    intro l h
    have hdirectory : t.get? l = some .directory := ht.isDirectory (List.cons_ne_nil n rest) h
    have hshort : n.utf8ByteSize ≤ maxNameBytes :=
      (ht.isFileName h n (List.mem_append_right l List.mem_cons_self)).short
    have hsplit : l ++ n :: rest = l ++ [n] ++ rest := by
      rw [List.append_assoc, List.singleton_append]
    rw [hsplit] at h ⊢
    rw [List.map_cons, walk, hdirectory]
    simp only [Nat.not_lt.2 hshort, if_false]
    exact ih h

/-! ## Paths that can be opened -/

/-- The path is written with some character, and without the null character. -/
def IsWritten (p : Path) : Prop := p.text ≠ "" ∧ ∀ c ∈ p.text.toList, c.toNat ≠ 0

theorem isWritten_of_locate (h : t.locate p = .ok l) : IsWritten p := by
  unfold locate at h
  split at h
  · cases h
  · split at h
    · cases h
    · rename_i hnull hempty
      exact ⟨by simpa using hempty, by simpa using hnull⟩

theorem locate_of_isWritten (hp : IsWritten p)
    (hwalk : t.walk t.workingDir p.components = .ok l) :
    t.locate p = if maxPathBytes < p.text.utf8ByteSize then .error .nameTooLong else .ok l := by
  have hnull : ¬(p.text.toList.any fun c => c.toNat == 0) = true := by simpa using hp.2
  have hempty : ¬p.text.isEmpty = true := by simpa using hp.1
  rw [locate, if_neg hnull, if_neg hempty, hwalk]

theorem isWritten_join {n : String} (hp : IsWritten p) (hn : IsFileName n) :
    IsWritten (p.join n) := by
  have hrelative : (Path.mk n).isAbsolute = false :=
    Path.isAbsolute_of_slash_not_mem hn.isStep.slash_not_mem
  obtain ⟨folder, -, htext, hfolder⟩ := Path.exists_folder_join hrelative p
  have hfront : ∀ c ∈ folder.toList, c.toNat ≠ 0 := by
    rcases hfolder with rfl | ⟨-, rfl⟩
    · exact hp.2
    · intro c hc
      rw [String.toList_append, List.mem_append] at hc
      rcases hc with hc | hc
      · exact hp.2 c hc
      · obtain rfl := List.mem_singleton.1 hc
        decide
  refine ⟨fun hempty => ?_, fun c hc => ?_⟩
  · rw [htext, String.append_eq_empty_iff] at hempty
    exact hn.isStep.text_ne_empty hempty.2
  · rw [htext, String.toList_append, List.mem_append] at hc
    exact hc.elim (hfront c) (hn.noNull c)

theorem isWritten_below (hp : IsWritten p) (hnames : ∀ n ∈ names, IsFileName n) :
    IsWritten (p.below names) := by
  induction names generalizing p with
  | nil => exact hp
  | cons n rest ih =>
    obtain ⟨hn, hrest⟩ := List.forall_mem_cons.1 hnames
    exact ih (isWritten_join hp hn) hrest

/-- A path that ends in a file name asks for no directory. -/
theorem asksForDirectory_of_isStep {n front : String} (h : Path.IsStep (.name n)) :
    asksForDirectory ⟨front ++ n⟩ = false := by
  have hslash : '/' ∉ n.toList.reverse := fun hmem => h.slash_not_mem (List.mem_reverse.1 hmem)
  have hhere : n.toList.reverse ≠ ['.'] := by
    intro heq
    have hn : n.toList = ['.'] := List.reverse_eq_iff.1 heq
    obtain rfl : n = "." := String.toList_inj.1 hn
    exact absurd h (by decide)
  have hne : n.toList.reverse ≠ [] := by
    rw [ne_eq, List.reverse_eq_nil_iff, String.toList_eq_nil_iff]
    exact h.text_ne_empty
  rw [asksForDirectory, String.toList_append, List.reverse_append]
  generalize n.toList.reverse = cs at *
  match cs with
  | [] => exact absurd rfl hne
  | [c] =>
    have hdot : c ≠ '.' := fun hc => hhere (by rw [hc])
    have hc : c ≠ '/' := fun hc => hslash (by rw [hc]; exact List.mem_cons_self)
    simp [hdot, hc]
  | c :: d :: rest =>
    have hc : c ≠ '/' := fun hc => hslash (by rw [hc]; exact List.mem_cons_self)
    have hd : d ≠ '/' := fun hd =>
      hslash (by rw [hd]; exact List.mem_cons_of_mem c List.mem_cons_self)
    simp [hc, hd]

/-! ## Reading -/

theorem locate_of_find {e : FileEntry} (h : t.find p = .ok (l, e)) :
    t.locate p = .ok l ∧ t.get? l = some e := by
  unfold find at h
  split at h
  · cases h
  · rename_i hlocate
    split at h
    · cases h
    · rename_i hentry
      cases h
      exact ⟨hlocate, hentry⟩
    · rename_i hentry
      split at h
      · cases h
      · cases h
        exact ⟨hlocate, hentry⟩

/-- **The path below a directory leads where the names lead.** -/
theorem WellFormed.locate_below (ht : t.WellFormed) {e : FileEntry} (hdir : t.locate dir = .ok l)
    (h : t.get? (l ++ names) = some e) :
    t.locate (dir.below names) =
      if maxPathBytes < (dir.below names).text.utf8ByteSize then .error .nameTooLong
      else .ok (l ++ names) := by
  have hnames : ∀ n ∈ names, IsFileName n := fun n hn =>
    ht.isFileName h n (List.mem_append_right l hn)
  refine locate_of_isWritten (isWritten_below (isWritten_of_locate hdir) hnames) ?_
  rw [Path.components_below (fun n hn => (hnames n hn).isStep), walk_append (walk_of_locate hdir)]
  exact ht.walk_names h

/-- **What is read below a directory is what the file holds there.** -/
theorem WellFormed.readText_below (ht : t.WellFormed) {content : FileContent}
    (hdir : t.find dir = .ok (l, .directory)) (h : t.get? (l ++ names) = some (.file content)) :
    t.readText (dir.below names) =
      if maxPathBytes < (dir.below names).text.utf8ByteSize then .error .nameTooLong
      else content.asText := by
  obtain ⟨hlocate, hl⟩ := locate_of_find hdir
  have hne : names ≠ [] := by
    rintro rfl
    rw [List.append_nil, hl] at h
    cases h
  have hasks : asksForDirectory (dir.below names) = false := by
    obtain ⟨front, n, rfl⟩ := (List.eq_nil_or_concat' names).resolve_left hne
    have hstep := (ht.isFileName h n (by simp)).isStep
    have hrelative : (Path.mk n).isAbsolute = false :=
      Path.isAbsolute_of_slash_not_mem hstep.slash_not_mem
    obtain ⟨folder, -, htext, -⟩ := Path.exists_folder_join hrelative (dir.below front)
    have hjoin : (dir.below front).join n = ⟨folder ++ n⟩ := by rw [← htext]
    rw [Path.below_concat, hjoin]
    exact asksForDirectory_of_isStep hstep
  rw [readText, find, ht.locate_below hlocate h]
  by_cases hlong : maxPathBytes < (dir.below names).text.utf8ByteSize
  · rw [if_pos hlong, if_pos hlong]
  · rw [if_neg hlong, if_neg hlong]
    cases content <;> simp [h, hasks, FileContent.asText]

end FileTree

end ContractCompiler
