import ContractCompiler.Files.Tree

/-!
# Places of paths

A path leads to the same place in every tree in which it leads anywhere: components are followed
from the working directory, whatever stands there.

* `place_of_locate` — a path that is located in a tree is located at its place.
* `exists_last_name_place` — the last name of the place ends as the path does, so paths that end
  differently have different places.
-/

namespace ContractCompiler

namespace Path

/-- Where components lead from a location. -/
def follow (l : Location) : List PathComponent → Location
  | [] => l
  | .root :: rest => follow [] rest
  | .here :: rest => follow l rest
  | .up :: rest => follow l.dropLast rest
  | .name n :: rest => follow (l ++ [n]) rest

/-- The place of a path, as seen from a working directory. -/
def place (p : Path) (workingDir : Location) : Location := follow workingDir p.components

/-- The path is written with the character at its end. -/
def EndsWith (p : Path) (c : Char) : Prop := p.text.toList.getLast? = some c

instance (p : Path) (c : Char) : Decidable (p.EndsWith c) :=
  inferInstanceAs (Decidable (p.text.toList.getLast? = some c))

theorem follow_append (front back : List PathComponent) :
    ∀ l : Location, follow l (front ++ back) = follow (follow l front) back := by
  induction front with
  | nil => exact fun _ => rfl
  | cons c rest ih =>
    intro l
    cases c with
    | root => exact ih []
    | here => exact ih l
    | up => exact ih l.dropLast
    | name n => exact ih (l ++ [n])

/-! ## The last name -/

/-- The last piece of a text ends with the last character of the text. -/
theorem exists_last_piece {c : Char} (hc : c ≠ '/') (front : List Char) :
    ∀ piece : List Char, ∃ ps w, pieces piece (front ++ [c]) = ps ++ [w ++ [c]] := by
  induction front with
  | nil => exact fun piece => ⟨[], piece.reverse, by simp [pieces, hc]⟩
  | cons d rest ih =>
    intro piece
    simp only [List.cons_append, pieces]
    split
    · obtain ⟨ps, w, h⟩ := ih []
      exact ⟨piece.reverse :: ps, w, by rw [h]; rfl⟩
    · exact ih (d :: piece)

theorem components_eq_append (p : Path) :
    ∃ front, p.components = front ++ componentsOf (pieces [] p.text.toList) := by
  unfold components
  split
  · rename_i h
    exact ⟨[], by rw [h]; rfl⟩
  · rename_i h
    exact ⟨_, by rw [h]⟩

/-- A piece that ends with a character other than `.` is a name. -/
theorem componentsOf_singleton {c : Char} (hc : c ≠ '.') (w : List Char) :
    componentsOf [w ++ [c]] = [.name (String.ofList (w ++ [c]))] := by
  have hhere : w ++ [c] ≠ ['.'] := fun h => by
    have hlast := congrArg List.getLast? h
    simp [hc] at hlast
  have hup : w ++ [c] ≠ ['.', '.'] := fun h => by
    have hlast := congrArg List.getLast? h
    simp [hc] at hlast
  simp [componentsOf, componentOf, hhere, hup]

theorem exists_last_component {p : Path} {c : Char} (h : p.EndsWith c) (hslash : c ≠ '/')
    (hdot : c ≠ '.') :
    ∃ front w, p.components = front ++ [.name (String.ofList (w ++ [c]))] := by
  obtain ⟨text, htext⟩ := List.getLast?_eq_some_iff.1 h
  obtain ⟨front, hfront⟩ := components_eq_append p
  obtain ⟨ps, w, hpieces⟩ := exists_last_piece hslash text []
  refine ⟨front ++ componentsOf ps, w, ?_⟩
  calc p.components
      = front ++ componentsOf (ps ++ [w ++ [c]]) := by rw [hfront, htext, hpieces]
    _ = front ++ (componentsOf ps ++ componentsOf [w ++ [c]]) := by simp [componentsOf]
    _ = front ++ componentsOf ps ++ [.name (String.ofList (w ++ [c]))] := by
      rw [componentsOf_singleton hdot, List.append_assoc]

/-- **The last name of a place ends as the path does.** -/
theorem exists_last_name_place {p : Path} {c : Char} (h : p.EndsWith c) (hslash : c ≠ '/')
    (hdot : c ≠ '.') (workingDir : Location) :
    ∃ n, (p.place workingDir).getLast? = some n ∧ n.toList.getLast? = some c := by
  obtain ⟨front, w, hcomponents⟩ := exists_last_component h hslash hdot
  refine ⟨String.ofList (w ++ [c]), ?_, by simp⟩
  rw [place, hcomponents, follow_append]
  simp [follow]

/-- Paths that end differently have different places. -/
theorem place_ne_of_endsWith {p q : Path} {c d : Char} (hp : p.EndsWith c) (hq : q.EndsWith d)
    (hcd : c ≠ d) (hc : c ≠ '/' ∧ c ≠ '.') (hd : d ≠ '/' ∧ d ≠ '.') (workingDir : Location) :
    p.place workingDir ≠ q.place workingDir := by
  intro hplace
  obtain ⟨n, hn, hnc⟩ := exists_last_name_place hp hc.1 hc.2 workingDir
  obtain ⟨m, hm, hmd⟩ := exists_last_name_place hq hd.1 hd.2 workingDir
  rw [hplace, hm] at hn
  cases hn
  rw [hnc] at hmd
  exact hcd (Option.some.inj hmd)

/-- A path ends as the last part of its text does. -/
theorem EndsWith.append {q : String} {c : Char} (h : (Path.mk q).EndsWith c) (front : String) :
    (Path.mk (front ++ q)).EndsWith c := by
  obtain ⟨text, htext⟩ := List.getLast?_eq_some_iff.1 h
  refine List.getLast?_eq_some_iff.2 ⟨front.toList ++ text, ?_⟩
  calc (front ++ q).toList
      = front.toList ++ q.toList := String.toList_append
    _ = front.toList ++ text ++ [c] := by rw [htext, List.append_assoc]

/-- A joined path ends as its second part does. -/
theorem EndsWith.join {q : Path} {c : Char} (h : q.EndsWith c) (p : Path) :
    (p.join q.text).EndsWith c := by
  unfold Path.join
  split
  · exact h
  · split
    · exact h.append (p.text ++ "/")
    · exact h.append p.text

end Path

/-! ## Locating a path -/

namespace FileTree

variable {t : FileTree}

theorem follow_of_walk {cs : List PathComponent} :
    ∀ {l m : Location}, t.walk l cs = .ok m → m = Path.follow l cs := by
  induction cs with
  | nil =>
    intro l m h
    exact (Except.ok.inj h).symm
  | cons c rest ih =>
    intro l m h
    unfold walk at h
    split at h
    · cases h
    · cases h
    · split at h
      · exact ih h
      · exact ih h
      · exact ih h
      · split at h
        · cases h
        · exact ih h

theorem walk_of_locate {p : Path} {l : Location} (h : t.locate p = .ok l) :
    t.walk t.workingDir p.components = .ok l := by
  unfold locate at h
  split at h
  · cases h
  · split at h
    · cases h
    · split at h
      · cases h
      · exact h

/-- **A path that is located is located at its place.** -/
theorem place_of_locate {p : Path} {l : Location} (h : t.locate p = .ok l) :
    l = p.place t.workingDir := follow_of_walk (walk_of_locate h)

end FileTree

end ContractCompiler
