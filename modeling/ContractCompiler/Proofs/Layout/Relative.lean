import ContractCompiler.Proofs.Layout.Route

/-!
# How a relative specifier starts

A module loader looks up a specifier as a path when it starts with `./` or `../`, and as a package
otherwise. A specifier without an alias writes `./` where there is no way to go, and else the way, which
starts with a name when it only goes down.

* `relativeSpecifier_of_descends` — below the directory of the importer, a specifier starts with a
  name.
* `isRelative_relativeSpecifier` — anywhere else, it starts with `./` or `../`.
* `isRelative_resolve_iff` — both, for every configuration without an alias.
* `not_isRelative_nested` — a specifier that starts with a name.
-/

namespace ContractCompiler.Layout

variable {l : Layout} {importer target : Contract}

/-- A module loader takes the specifier for a path from the importing module, and not for the name of
a package. -/
def IsRelative (specifier : String) : Prop :=
  "./".toList <+: specifier.toList ∨ "../".toList <+: specifier.toList

instance (specifier : String) : Decidable (IsRelative specifier) :=
  inferInstanceAs (Decidable ("./".toList <+: specifier.toList ∨ "../".toList <+: specifier.toList))

/-- A text starts with the same piece as another when both pieces end at a separator. -/
theorem append_slash_prefix_iff {piece text : List Char} (hpiece : '/' ∉ piece) (htext : '/' ∉ text)
    (back : List Char) : piece ++ ['/'] <+: text ++ '/' :: back ↔ piece = text := by
  constructor
  · intro h
    induction piece generalizing text with
    | nil =>
      cases text with
      | nil => rfl
      | cons c rest =>
        obtain ⟨rfl, -⟩ := List.cons_prefix_cons.1 h
        simp at htext
    | cons c rest ih =>
      cases text with
      | nil =>
        obtain ⟨rfl, -⟩ := List.cons_prefix_cons.1 h
        simp at hpiece
      | cons d more =>
        obtain ⟨rfl, hrest⟩ := List.cons_prefix_cons.1 h
        simp only [List.mem_cons, not_or] at hpiece htext
        rw [ih hpiece.2 htext.2 hrest]
  · rintro rfl
    exact ⟨back, by simp⟩

/-- **A specifier is relative when its first segment is `.` or `..`.** -/
theorem isRelative_segment_iff {segment : String} (hsegment : '/' ∉ segment.toList) (back : String) :
    IsRelative (segment ++ "/" ++ back) ↔ segment = "." ∨ segment = ".." := by
  have hlist : (segment ++ "/" ++ back).toList = segment.toList ++ '/' :: back.toList :=
    Path.toList_slash segment back
  have hstart (piece : String) (hpiece : '/' ∉ piece.toList) :
      piece.toList ++ ['/'] <+: segment.toList ++ '/' :: back.toList ↔ segment = piece := by
    rw [append_slash_prefix_iff hpiece hsegment, String.toList_inj, eq_comm]
  unfold IsRelative
  rw [hlist]
  exact or_congr (hstart "." (by decide)) (hstart ".." (by decide))

/-! ## The start of the way -/

/-- Below a directory, the way goes down only. -/
theorem route_append (from' back : List PathComponent) : route from' (from' ++ back) = back := by
  induction from' with
  | nil => simp [route, commonLength]
  | cons c rest ih =>
    rw [List.cons_append, route_cons, ih]

/-- To any other directory, it goes up first. -/
theorem exists_route_up {from' : List PathComponent} :
    ∀ {to' : List PathComponent}, ¬from' <+: to' → ∃ rest, route from' to' = .up :: rest := by
  induction from' with
  | nil =>
    intro to' h
    exact absurd List.nil_prefix h
  | cons c rest ih =>
    intro to' h
    cases to' with
    | nil =>
      refine ⟨List.replicate rest.length .up, ?_⟩
      simp [route, commonLength, List.replicate_succ]
    | cons d more =>
      by_cases hcd : c = d
      · subst hcd
        rw [route_cons]
        apply ih
        intro hrest
        exact h (List.cons_prefix_cons.2 ⟨rfl, hrest⟩)
      · rw [route_cons_of_ne hcd, List.replicate_succ]
        exact ⟨_, rfl⟩

/-- The root stands only at the front of a path. -/
theorem eq_nil_of_root {p : Path} {front rest : List PathComponent}
    (h : namedComponents p.components = front ++ .root :: rest) : front = [] := by
  rw [namedComponents_components] at h
  cases front with
  | nil => rfl
  | cons c more =>
    have hmem : PathComponent.root ∈ Path.steps p.text := by
      split at h
      · rw [List.singleton_append, List.cons_append, List.cons.injEq] at h
        simp [h.2]
      · rw [List.nil_append] at h
        simp [h]
    exact absurd hmem (root_not_mem_steps _)

theorem ne_here_of_mem_namedComponents {cs : List PathComponent} {c : PathComponent}
    (h : c ∈ namedComponents cs) : c ≠ .here := by
  have hc := (List.mem_filter.1 h).2
  simpa using hc

/-- The first name on the way down from the directory of the importer's model to that of the target's,
which lies below it. -/
def Descends (l : Layout) (importer target : Contract) (n : String) : Prop :=
  namedComponents (l.modelDir importer).components ++ [.name n] <+:
    namedComponents (l.modelDir target).components

instance (n : String) : Decidable (l.Descends importer target n) :=
  inferInstanceAs (Decidable (_ <+: _))

theorem namedComponents_modelDir_ne_nil (l : Layout) (c : Contract) :
    namedComponents (l.modelDir c).components ≠ [] := by
  rw [modelDir, components_join_models, namedComponents_append]
  apply List.append_ne_nil_of_right_ne_nil
  decide

/-! ## The start of a specifier -/

theorem relativeSpecifier_of_cons {c : PathComponent} {rest : List PathComponent}
    (h : l.wayBetween importer target = c :: rest) :
    l.relativeSpecifier importer target =
      c.text ++ "/" ++ (Path.folderOf rest ++ target.fileStem) := by
  rw [relativeSpecifier_eq, h, if_neg (List.cons_ne_nil c rest), Path.folderOf_cons,
    String.append_assoc]

/-- **To a directory below that of the importer, a specifier starts with a name.** -/
theorem relativeSpecifier_of_descends {n : String} (h : l.Descends importer target n) :
    (∃ back, l.relativeSpecifier importer target = n ++ "/" ++ back) ∧
      ¬IsRelative (l.relativeSpecifier importer target) := by
  obtain ⟨rest, hrest⟩ := h
  have hway : l.wayBetween importer target = .name n :: rest := by
    rw [wayBetween, ← hrest, List.append_assoc, route_append]
    rfl
  have hstep : Path.IsStep (.name n) := by
    have hmem : .name n ∈ namedComponents (l.modelDir target).components := by simp [← hrest]
    exact isStep_of_mem_namedComponents hmem (by simp)
  have hslash : '/' ∉ n.toList := hstep.slash_not_mem
  have htext := relativeSpecifier_of_cons hway
  refine ⟨⟨_, htext⟩, ?_⟩
  intro hrelative
  rw [htext] at hrelative
  rcases (isRelative_segment_iff hslash _).1 hrelative with hn | hn
  · subst hn
    exact absurd hstep (by decide)
  · subst hn
    exact absurd hstep (by decide)

/-- **To any other directory, it starts with `./` or `../`.** -/
theorem isRelative_relativeSpecifier (h : ∀ n, ¬l.Descends importer target n) :
    IsRelative (l.relativeSpecifier importer target) := by
  have hup {rest : List PathComponent} (hway : l.wayBetween importer target = .up :: rest) :
      IsRelative (l.relativeSpecifier importer target) := by
    rw [relativeSpecifier_of_cons hway]
    exact (isRelative_segment_iff (by decide) _).2 (Or.inr rfl)
  by_cases hbelow : namedComponents (l.modelDir importer).components <+:
      namedComponents (l.modelDir target).components
  · obtain ⟨way, hback⟩ := hbelow
    have hway : l.wayBetween importer target = way := by rw [wayBetween, ← hback, route_append]
    cases way with
    | nil =>
      have hdot : IsRelative ("." ++ "/" ++ target.fileStem) :=
        (isRelative_segment_iff (by decide) _).2 (Or.inl rfl)
      rw [relativeSpecifier_eq, hway, if_pos rfl]
      exact hdot
    | cons c rest =>
      cases c with
      | root =>
        exact absurd (eq_nil_of_root hback.symm) (namedComponents_modelDir_ne_nil l importer)
      | here =>
        have hmem : .here ∈ namedComponents (l.modelDir target).components := by simp [← hback]
        exact absurd rfl (ne_here_of_mem_namedComponents hmem)
      | up => exact hup hway
      | name n =>
        refine absurd ?_ (h n)
        rw [Descends, ← hback, List.prefix_append_right_inj]
        simp
  · obtain ⟨rest, hway⟩ := exists_route_up hbelow
    exact hup hway

/-- **Without an alias a specifier starts with `./` or `../` unless the directory of the target lies
below that of the importer**, and then it starts with the name of the folder in between. Models of
one kind share a directory, so their specifiers are always relative. -/
theorem isRelative_resolve_iff {config : Config} (halias : config.app.importAlias = none)
    (importer target : Contract) (useAlias : Bool) :
    (IsRelative ((ofConfig config).resolve importer target useAlias) ↔
        ¬∃ n, (ofConfig config).Descends importer target n) ∧
      (∀ n, (ofConfig config).Descends importer target n →
        ∃ back, (ofConfig config).resolve importer target useAlias = n ++ "/" ++ back) ∧
      (importer.isModuleContract = target.isModuleContract →
        IsRelative ((ofConfig config).resolve importer target useAlias)) := by
  have hlayout : (ofConfig config).alias? = none := halias
  rw [resolve_of_no_alias hlayout]
  refine ⟨⟨?_, ?_⟩, ?_, ?_⟩
  · rintro hrelative ⟨n, hn⟩
    exact (relativeSpecifier_of_descends hn).2 hrelative
  · intro hnone
    exact isRelative_relativeSpecifier fun n hn => hnone ⟨n, hn⟩
  · intro n hn
    exact (relativeSpecifier_of_descends hn).1
  · intro hsame
    apply isRelative_relativeSpecifier
    intro n hn
    have hlength := hn.length_le
    rw [modelDir, modelDir, hsame, List.length_append, List.length_singleton] at hlength
    omega

theorem isRelative_resolve_nested :
    nestedConfig.app.importAlias = none ∧
      (ofConfig nestedConfig).Descends member account "generated" ∧
      (IsRelative ((ofConfig nestedConfig).resolve member account true) ↔
        ¬∃ n, (ofConfig nestedConfig).Descends member account n) ∧
      (∀ n, (ofConfig nestedConfig).Descends member account n →
        ∃ back, (ofConfig nestedConfig).resolve member account true = n ++ "/" ++ back) ∧
      (member.isModuleContract = account.isModuleContract →
        IsRelative ((ofConfig nestedConfig).resolve member account true)) :=
  ⟨rfl, by decide +kernel, isRelative_resolve_iff rfl member account true⟩

/-- The model of a member imports that of an account, which lies in a folder beside it, like a file
of the package `generated`. -/
theorem not_isRelative_nested :
    nestedConfig.app.importAlias = none ∧ (Path.mk nestedConfig.app.generatedDir).IsInner ∧
      (Path.mk nestedConfig.app.sourceDir).IsInner ∧
      (ofConfig nestedConfig).resolve member account true = "generated/models/user.model" ∧
      ¬IsRelative ((ofConfig nestedConfig).resolve member account true) := by
  refine ⟨rfl, by decide, by decide, ?_, ?_⟩
  · decide +kernel
  · decide +kernel

end ContractCompiler.Layout
