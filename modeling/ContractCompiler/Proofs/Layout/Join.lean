import ContractCompiler.Proofs.Files.Place

/-!
# Joined paths

The components of a path are what it opens with, the root or a leading `.`, and its steps. Joining a
relative path keeps the opening and adds its steps to those of the first.

* `components_eq` — a path is its opening and its steps.
* `steps_folderOf` — steps that are written one behind the other are read as they were.
* `steps_join`, `isAbsolute_join` — the steps and the opening of a joined path.
* `place_join` — a joined path leads on from the place of its first part, unless its second part
  starts at the root.
-/

namespace ContractCompiler.Path

/-! ## Pieces -/

theorem pieces_append (front back : List Char) :
    ∀ piece : List Char,
      pieces piece (front ++ '/' :: back) = pieces piece front ++ pieces [] back := by
  induction front with
  | nil => exact fun piece => by simp [pieces]
  | cons c rest ih =>
    intro piece
    simp only [List.cons_append, pieces]
    split
    · rw [ih, List.cons_append]
    · exact ih (c :: piece)

/-- A text without separators is one piece. -/
theorem pieces_of_not_mem {cs : List Char} (h : '/' ∉ cs) :
    ∀ piece : List Char, pieces piece cs = [piece.reverse ++ cs] := by
  induction cs with
  | nil => exact fun piece => by simp [pieces]
  | cons c rest ih =>
    intro piece
    obtain ⟨hc, hrest⟩ := List.ne_and_not_mem_of_not_mem_cons h
    rw [pieces, if_neg hc.symm, ih hrest, List.reverse_cons, List.append_assoc]
    rfl

theorem pieces_ne_nil (cs : List Char) : ∀ piece : List Char, pieces piece cs ≠ [] := by
  induction cs with
  | nil => exact fun piece => by simp [pieces]
  | cons c rest ih =>
    intro piece
    unfold pieces
    split
    · exact List.cons_ne_nil _ _
    · exact ih (c :: piece)

/-- No piece holds a separator. -/
theorem slash_not_mem_of_mem_pieces {piece : List Char} (cs : List Char) :
    ∀ {done : List Char}, '/' ∉ done → piece ∈ pieces done cs → '/' ∉ piece := by
  induction cs with
  | nil =>
    intro done hdone h
    rw [pieces, List.mem_singleton] at h
    subst h
    exact fun hslash => hdone (List.mem_reverse.1 hslash)
  | cons c rest ih =>
    intro done hdone h
    unfold pieces at h
    split at h
    · rcases List.mem_cons.1 h with rfl | h
      · exact fun hslash => hdone (List.mem_reverse.1 hslash)
      · exact ih List.not_mem_nil h
    · rename_i hc
      refine ih (fun hslash => ?_) h
      rcases List.mem_cons.1 hslash with heq | hslash
      · exact hc heq.symm
      · exact hdone hslash

theorem componentsOf_append (ps qs : List (List Char)) :
    componentsOf (ps ++ qs) = componentsOf ps ++ componentsOf qs := by
  simp [componentsOf]

/-! ## Steps -/

/-- The components of a path but for the root or the `.` that it opens with. -/
def steps (text : String) : List PathComponent := componentsOf (pieces [] text.toList)

/-- What a path opens with. -/
def opening (p : Path) : List PathComponent :=
  if p.isAbsolute then [.root]
  else if (pieces [] p.text.toList).head? = some ['.'] then [.here] else []

/-- **A path is its opening and its steps.** -/
theorem components_eq (p : Path) : p.components = p.opening ++ steps p.text := by
  unfold components opening steps
  cases h : pieces [] p.text.toList with
  | nil => exact absurd h (pieces_ne_nil _ _)
  | cons first rest => simp only [List.head?_cons, Option.some.injEq]

theorem steps_empty : steps "" = [] := by simp [steps, pieces, componentsOf]

theorem toList_slash (a b : String) : (a ++ "/" ++ b).toList = a.toList ++ '/' :: b.toList := by
  rw [String.toList_append, String.toList_append, List.append_assoc]
  rfl

/-- The steps before a separator and those behind it. -/
theorem steps_slash (a b : String) : steps (a ++ "/" ++ b) = steps a ++ steps b := by
  rw [steps, toList_slash, pieces_append, componentsOf_append]
  rfl

/-- A separator at the end adds no step. -/
theorem steps_append_slash (a : String) : steps (a ++ "/") = steps a := by
  rw [← String.append_empty (s := a ++ "/"), steps_slash, steps_empty, List.append_nil]

/-- The text is empty or ends in a separator, so that a step can be written behind it. -/
def IsFolder (text : String) : Prop := text = "" ∨ ∃ front, text = front ++ "/"

/-- What is written behind a folder adds its steps. -/
theorem steps_append {a : String} (ha : IsFolder a) (b : String) :
    steps (a ++ b) = steps a ++ steps b := by
  rcases ha with rfl | ⟨front, rfl⟩
  · rw [steps_empty, String.empty_append, List.nil_append]
  · rw [steps_slash, steps_append_slash]

/-- A name without separators, other than `.` and `..`, is one step. -/
theorem steps_of_name {s : String} (hslash : '/' ∉ s.toList) (hblank : s ≠ "") (hhere : s ≠ ".")
    (hup : s ≠ "..") : steps s = [.name s] := by
  have hchars {t : String} (h : s ≠ t) : s.toList ≠ t.toList :=
    fun heq => h (String.toList_inj.1 heq)
  have hnil : s.toList ≠ [] := hchars hblank
  have hdot : s.toList ≠ ['.'] := hchars hhere
  have hdots : s.toList ≠ ['.', '.'] := hchars hup
  unfold steps
  rw [pieces_of_not_mem hslash]
  simp [componentsOf, componentOf, hnil, hdot, hdots]

/-- The component is a step, so that it can be written as a path of its own. -/
def IsStep (c : PathComponent) : Prop := steps c.text = [c]

instance (c : PathComponent) : Decidable (IsStep c) := inferInstanceAs (Decidable (steps c.text = [c]))

theorem IsStep.ne_here {c : PathComponent} (h : IsStep c) : c ≠ .here := by
  rintro rfl
  exact absurd h (by decide)

theorem isStep_of_mem_steps {text : String} {c : PathComponent} (h : c ∈ steps text) : IsStep c := by
  obtain ⟨piece, hpiece, rfl⟩ := List.mem_map.1 h
  obtain ⟨hmem, hproper⟩ := List.mem_filter.1 hpiece
  have hslash : '/' ∉ piece := slash_not_mem_of_mem_pieces _ List.not_mem_nil hmem
  have hchars {t : String} (hne : piece ≠ t.toList) : String.ofList piece ≠ t :=
    fun heq => hne (by rw [← heq, String.toList_ofList])
  have hblank : piece ≠ [] := fun heq => by simp [heq] at hproper
  have hhere : piece ≠ ['.'] := fun heq => by simp [heq] at hproper
  unfold componentOf
  split
  · decide
  · rename_i hup
    have hname : '/' ∉ (String.ofList piece).toList := by rwa [String.toList_ofList]
    exact steps_of_name hname (hchars hblank) (hchars hhere) (hchars hup)

theorem slash_not_mem_of_mem_steps {text : String} {c : PathComponent} (h : c ∈ steps text) :
    '/' ∉ c.text.toList := by
  obtain ⟨piece, hpiece, rfl⟩ := List.mem_map.1 h
  have hslash : '/' ∉ piece :=
    slash_not_mem_of_mem_pieces _ List.not_mem_nil (List.mem_filter.1 hpiece).1
  unfold componentOf
  split
  · decide
  · simpa [PathComponent.text] using hslash

/-- A step is `..` or a name. -/
theorem eq_of_mem_steps {text : String} {c : PathComponent} (h : c ∈ steps text) :
    c = .up ∨ ∃ n, c = .name n := by
  obtain ⟨piece, -, rfl⟩ := List.mem_map.1 h
  unfold componentOf
  split
  · exact Or.inl rfl
  · exact Or.inr ⟨_, rfl⟩

theorem IsStep.text_ne_empty {c : PathComponent} (h : IsStep c) : c.text ≠ "" := by
  intro hempty
  rw [IsStep, hempty, steps_empty] at h
  cases h

theorem IsStep.slash_not_mem {c : PathComponent} (h : IsStep c) : '/' ∉ c.text.toList := by
  have hmem : c ∈ steps c.text := by
    rw [IsStep] at h
    rw [h]
    exact List.mem_singleton_self c
  exact slash_not_mem_of_mem_steps hmem

/-! ## Steps that are written one behind the other -/

/-- Steps, each with a separator behind it. -/
def folderOf (cs : List PathComponent) : String := String.join (cs.map fun c => c.text ++ "/")

theorem folderOf_cons (c : PathComponent) (cs : List PathComponent) :
    folderOf (c :: cs) = c.text ++ "/" ++ folderOf cs := by
  rw [folderOf, List.map_cons, String.join_cons]
  rfl

/-- What is written is what is read. -/
theorem steps_folderOf {cs : List PathComponent} (h : ∀ c ∈ cs, IsStep c) (back : String) :
    steps (folderOf cs ++ back) = cs ++ steps back := by
  induction cs with
  | nil =>
    have hempty : folderOf [] = "" := rfl
    rw [hempty, String.empty_append, List.nil_append]
  | cons c rest ih =>
    obtain ⟨hc, hrest⟩ := List.forall_mem_cons.1 h
    have hstep : steps c.text = [c] := hc
    rw [folderOf_cons, String.append_assoc, steps_slash, hstep, ih hrest, List.singleton_append,
      List.cons_append]

theorem intercalate_slash {cs : List PathComponent} (hne : cs ≠ []) :
    "/".intercalate (cs.map PathComponent.text) ++ "/" = folderOf cs := by
  induction cs with
  | nil => exact absurd rfl hne
  | cons c rest ih =>
    rw [folderOf_cons]
    cases rest with
    | nil =>
      have hempty : folderOf [] = "" := rfl
      rw [List.map_cons, List.map_nil, String.intercalate_singleton, hempty, String.append_empty]
    | cons d more =>
      rw [List.map_cons, List.map_cons, String.intercalate_cons_cons, String.append_assoc]
      rw [List.map_cons] at ih
      rw [ih (List.cons_ne_nil d more)]

/-! ## Joining -/

/-- Joining an absolute path replaces the path. -/
theorem join_of_isAbsolute {q : String} (hq : (Path.mk q).isAbsolute = true) (p : Path) :
    p.join q = ⟨q⟩ := by
  rw [join, if_pos hq]

/-- Joining a relative path writes it behind the first, as behind a folder. -/
theorem exists_folder_join {q : String} (hq : (Path.mk q).isAbsolute = false) (p : Path) :
    ∃ folder, IsFolder folder ∧ (p.join q).text = folder ++ q ∧
      (folder = p.text ∨ p.text ≠ "" ∧ folder = p.text ++ "/") := by
  unfold join
  rw [if_neg (by rw [hq]; decide)]
  cases hlast : p.text.toList.getLast? with
  | none =>
    have hempty : p.text = "" := String.toList_eq_nil_iff.1 (List.getLast?_eq_none_iff.1 hlast)
    exact ⟨p.text, Or.inl hempty, rfl, Or.inl rfl⟩
  | some c =>
    have hne : p.text ≠ "" := by
      intro h
      rw [h] at hlast
      cases hlast
    by_cases hc : c = '/'
    · subst hc
      obtain ⟨front, hfront⟩ := List.getLast?_eq_some_iff.1 hlast
      refine ⟨p.text, Or.inr ⟨String.ofList front, ?_⟩, by simp, Or.inl rfl⟩
      refine String.toList_inj.1 ?_
      rw [hfront, String.toList_append, String.toList_ofList]
      rfl
    · exact ⟨p.text ++ "/", Or.inr ⟨p.text, rfl⟩, by simp [hc], Or.inr ⟨hne, rfl⟩⟩

theorem steps_folder {p : Path} {folder : String}
    (h : folder = p.text ∨ p.text ≠ "" ∧ folder = p.text ++ "/") : steps folder = steps p.text := by
  rcases h with rfl | ⟨-, rfl⟩
  · rfl
  · exact steps_append_slash p.text

/-- **A joined path has the steps of both its parts.** -/
theorem steps_join {q : String} (hq : (Path.mk q).isAbsolute = false) (p : Path) :
    steps (p.join q).text = steps p.text ++ steps q := by
  obtain ⟨folder, hfolder, htext, hfirst⟩ := exists_folder_join hq p
  rw [htext, steps_append hfolder, steps_folder hfirst]

theorem isAbsolute_iff {p : Path} : p.isAbsolute = true ↔ p.text.toList.head? = some '/' := by
  unfold isAbsolute
  split
  · rename_i h
    simp [h]
  · rename_i h
    cases hlist : p.text.toList with
    | nil => simp
    | cons c rest =>
      have hc : c ≠ '/' := fun hc => h rest (by rw [hlist, hc])
      simp [hc]

theorem isAbsolute_of_slash_not_mem {s : String} (h : '/' ∉ s.toList) :
    (Path.mk s).isAbsolute = false := by
  rw [Bool.eq_false_iff]
  intro habsolute
  exact h (List.mem_of_head? (isAbsolute_iff.1 habsolute))

theorem isAbsolute_append {a b : String} (ha : a ≠ "") :
    (Path.mk (a ++ b)).isAbsolute = (Path.mk a).isAbsolute := by
  rw [Bool.eq_iff_iff, isAbsolute_iff, isAbsolute_iff, String.toList_append]
  cases h : a.toList with
  | nil => exact absurd (String.toList_eq_nil_iff.1 h) ha
  | cons c rest => rfl

/-- **A joined path starts where its first part does**, unless its second part starts at the root. -/
theorem isAbsolute_join {q : String} (hq : (Path.mk q).isAbsolute = false) (p : Path) :
    (p.join q).isAbsolute = p.isAbsolute := by
  obtain ⟨folder, -, htext, hfirst⟩ := exists_folder_join hq p
  have hjoin : p.join q = ⟨folder ++ q⟩ := by rw [← htext]
  rw [hjoin]
  rcases hfirst with rfl | ⟨hne, rfl⟩
  · by_cases hne : p.text = ""
    · obtain ⟨text⟩ := p
      subst hne
      rw [String.empty_append, hq]
      rfl
    · exact isAbsolute_append hne
  · rw [String.append_assoc]
    exact isAbsolute_append hne

theorem isAbsolute_of_opening {p : Path} (h : p.opening = []) : p.isAbsolute = false := by
  unfold opening at h
  split at h
  · cases h
  · rename_i hrelative
    exact Bool.eq_false_iff.2 hrelative

/-- A joined path opens as its first part does, when its second part opens with nothing. -/
theorem opening_join {q : String} (hq : (Path.mk q).opening = []) (p : Path) :
    (p.join q).opening = p.opening := by
  have hrelative := isAbsolute_of_opening hq
  obtain ⟨folder, hfolder, htext, hfirst⟩ := exists_folder_join hrelative p
  rcases hfolder with rfl | ⟨front, rfl⟩
  · have hempty : p.text = "" := by
      rcases hfirst with h | ⟨-, h⟩
      · exact h.symm
      · exact absurd (congrArg String.toList h) (by simp)
    obtain ⟨text⟩ := p
    subst hempty
    rw [String.empty_append] at htext
    have hjoin : (Path.mk "").join q = ⟨q⟩ := congrArg Path.mk htext
    rw [hjoin, hq]
    rfl
  · have hhead (back : String) :
        (pieces [] (front ++ "/" ++ back).toList).head? = (pieces [] front.toList).head? := by
      rw [toList_slash, pieces_append, List.head?_append,
        Option.or_of_isSome (by simp [pieces_ne_nil])]
    have hsame : (pieces [] p.text.toList).head? = (pieces [] front.toList).head? := by
      rcases hfirst with h | ⟨-, h⟩
      · rw [← h, ← hhead "", String.append_empty]
      · rw [(String.append_left_inj _).1 h]
    unfold opening
    rw [isAbsolute_join hrelative, htext, hhead, hsame]

/-- **The components of a joined path are those of its parts**, when the second opens with nothing. -/
theorem components_join {q : String} (hq : (Path.mk q).opening = []) (p : Path) :
    (p.join q).components = p.components ++ steps q := by
  rw [components_eq, opening_join hq, steps_join (isAbsolute_of_opening hq), ← List.append_assoc,
    ← components_eq]

/-! ## Places -/

/-- A path leads from the root or from the working directory along its steps. -/
theorem place_eq (p : Path) (workingDir : Location) :
    p.place workingDir = follow (if p.isAbsolute then [] else workingDir) (steps p.text) := by
  rw [place, components_eq, follow_append]
  unfold opening
  split
  · rfl
  · split <;> rfl

/-- **A joined path leads on from the place of its first part**, unless its second part starts at the
root. -/
theorem place_join (p : Path) (q : String) (workingDir : Location) :
    (p.join q).place workingDir =
      follow (if (Path.mk q).isAbsolute then [] else p.place workingDir) (steps q) := by
  cases hq : (Path.mk q).isAbsolute with
  | true =>
    rw [join_of_isAbsolute hq, place_eq, hq]
    rfl
  | false =>
    rw [place_eq, isAbsolute_join hq, steps_join hq, follow_append, ← place_eq]
    rfl

/-- Joining the empty path leads nowhere else. -/
theorem place_join_empty (p : Path) (workingDir : Location) :
    (p.join "").place workingDir = p.place workingDir := by
  rw [place_join, steps_empty]
  rfl

/-- Joining is associative, as far as places go. -/
theorem place_join_join (root dir : Path) (q : String) (workingDir : Location) :
    (root.join (dir.join q).text).place workingDir =
      ((root.join dir.text).join q).place workingDir := by
  cases hq : (Path.mk q).isAbsolute with
  | true => rw [join_of_isAbsolute hq, join_of_isAbsolute hq, join_of_isAbsolute hq]
  | false =>
    rw [place_join, place_join _ q, place_join _ dir.text, hq, steps_join hq, follow_append,
      show Path.mk (dir.join q).text = dir.join q from rfl, isAbsolute_join hq]
    rfl

/-- A file stands directly in the folder that is written before its name. -/
theorem place_join_file {folder name : String} (hfolder : IsFolder folder)
    (hslash : '/' ∉ name.toList) (hblank : name ≠ "") (hhere : name ≠ ".") (hup : name ≠ "..")
    (p : Path) (workingDir : Location) :
    (p.join (folder ++ name)).place workingDir = (p.join folder).place workingDir ++ [name] := by
  have habsolute : (Path.mk (folder ++ name)).isAbsolute = (Path.mk folder).isAbsolute := by
    by_cases hempty : folder = ""
    · subst hempty
      rw [String.empty_append, Bool.eq_iff_iff, isAbsolute_iff, isAbsolute_iff]
      refine ⟨fun h => absurd (List.mem_of_head? h) hslash, fun h => ?_⟩
      cases h
    · exact isAbsolute_append hempty
  rw [place_join, place_join, habsolute, steps_append hfolder,
    steps_of_name hslash hblank hhere hup, follow_append]
  rfl

end ContractCompiler.Path
