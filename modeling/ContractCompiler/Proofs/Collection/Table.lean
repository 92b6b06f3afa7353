import ContractCompiler.Collection.Keyed

/-!
# Laws of tables

* `get?_put_self`, `get?_put_of_ne` — what a look-up sees after `put`.
* `keys_ofEntries_nodup` — the keys of `ofEntries` are distinct, whatever the entries are.
* `get?_ofEntries_of_last` — the last value of a key is the one that stays.
* `ofEntries_of_nodup` — entries with distinct keys are their own table.
-/

namespace ContractCompiler.Table

variable {α : Type} {t : Table α} {key : String} {value : α}

theorem get?_put_self : (t.put key value).get? key = some value := by
  induction t with
  | nil => simp [put, get?]
  | cons e rest ih =>
    obtain ⟨k, v⟩ := e
    unfold put
    split
    · rename_i h
      simp [get?, h]
    · rename_i h
      simp [get?, h, ih]

theorem get?_put_of_ne {other : String} (h : other ≠ key) :
    (t.put key value).get? other = t.get? other := by
  induction t with
  | nil => simp [put, get?, Ne.symm h]
  | cons e rest ih =>
    obtain ⟨k, v⟩ := e
    unfold put
    split
    · rename_i hk
      subst hk
      simp [get?, Ne.symm h]
    · simp only [get?, ih]

theorem mem_keys_put {x : String} : x ∈ (t.put key value).keys ↔ x ∈ t.keys ∨ x = key := by
  induction t with
  | nil => simp [put, keys]
  | cons e rest ih =>
    obtain ⟨k, v⟩ := e
    unfold put
    split
    · rename_i hk
      subst hk
      simp only [keys, List.map_cons, List.mem_cons]
      constructor
      · rintro (h | h)
        · exact Or.inr h
        · exact Or.inl (Or.inr h)
      · rintro ((h | h) | h)
        · exact Or.inl h
        · exact Or.inr h
        · exact Or.inl h
    · simp only [keys, List.map_cons, List.mem_cons] at ih ⊢
      rw [ih, or_assoc]

theorem keys_put_nodup (h : t.keys.Nodup) : (t.put key value).keys.Nodup := by
  induction t with
  | nil => simp [put, keys]
  | cons e rest ih =>
    obtain ⟨k, v⟩ := e
    obtain ⟨hk, hr⟩ := List.nodup_cons.1 h
    unfold put
    split
    · exact List.nodup_cons.2 ⟨hk, hr⟩
    · rename_i hne
      refine List.nodup_cons.2 ⟨?_, ih hr⟩
      intro hm
      rcases mem_keys_put.1 hm with hm | hm
      · exact hk hm
      · exact hne hm

/-- A new key comes last. -/
theorem put_of_not_mem (h : key ∉ t.keys) : t.put key value = t ++ [(key, value)] := by
  induction t with
  | nil => rfl
  | cons e rest ih =>
    obtain ⟨k, v⟩ := e
    simp only [keys, List.map_cons, List.mem_cons, not_or] at h
    rw [put, if_neg (Ne.symm h.1), ih h.2]
    rfl

theorem mem_put {e : String × α} (h : e ∈ t.put key value) : e ∈ t ∨ e = (key, value) := by
  induction t with
  | nil => exact Or.inr (List.mem_singleton.1 h)
  | cons d rest ih =>
    obtain ⟨k, v⟩ := d
    unfold put at h
    split at h
    · rename_i hk
      subst hk
      rcases List.mem_cons.1 h with h | h
      · exact Or.inr h
      · exact Or.inl (List.mem_cons_of_mem _ h)
    · rcases List.mem_cons.1 h with h | h
      · exact Or.inl (by rw [h]; exact List.mem_cons_self)
      · rcases ih h with h | h
        · exact Or.inl (List.mem_cons_of_mem _ h)
        · exact Or.inr h

/-! ## Tables of entries -/

theorem keys_foldl_put_nodup (entries : List (String × α)) :
    ∀ {t : Table α}, t.keys.Nodup → (entries.foldl (fun t e => t.put e.1 e.2) t).keys.Nodup := by
  induction entries with
  | nil => exact fun h => h
  | cons e rest ih => exact fun h => ih (keys_put_nodup h)

/-- **The keys of a table of entries are distinct.** -/
theorem keys_ofEntries_nodup (entries : List (String × α)) : (ofEntries entries).keys.Nodup :=
  keys_foldl_put_nodup entries List.nodup_nil

theorem mem_foldl_put {e : String × α} (entries : List (String × α)) :
    ∀ {t : Table α}, e ∈ entries.foldl (fun t e => t.put e.1 e.2) t → e ∈ t ∨ e ∈ entries := by
  induction entries with
  | nil => exact fun h => Or.inl h
  | cons d rest ih =>
    intro t h
    rcases ih h with h | h
    · rcases mem_put h with h | h
      · exact Or.inl h
      · exact Or.inr (by rw [h]; exact List.mem_cons_self)
    · exact Or.inr (List.mem_cons_of_mem _ h)

/-- A table of entries holds nothing but entries. -/
theorem mem_of_mem_ofEntries {e : String × α} {entries : List (String × α)}
    (h : e ∈ ofEntries entries) : e ∈ entries := by
  rcases mem_foldl_put entries h with h | h
  · cases h
  · exact h

theorem foldl_put_of_nodup (entries : List (String × α)) :
    ∀ {t : Table α}, (t ++ entries).keys.Nodup →
      entries.foldl (fun t e => t.put e.1 e.2) t = t ++ entries := by
  induction entries with
  | nil => exact fun _ => (List.append_nil _).symm
  | cons e rest ih =>
    intro t h
    have hnew : e.1 ∉ t.keys := by
      simp only [keys, List.map_append, List.map_cons, List.nodup_append] at h
      exact fun hm => h.2.2 _ hm _ List.mem_cons_self rfl
    have happ : t ++ [(e.1, e.2)] ++ rest = t ++ e :: rest := by simp
    rw [List.foldl_cons, put_of_not_mem hnew, ih (by rw [happ]; exact h), happ]

theorem get?_foldl_put {key : String} {value : α} (entries : List (String × α))
    (h : ∀ e ∈ entries, e.1 = key → e.2 = value) :
    ∀ {t : Table α}, t.get? key = some value →
      (entries.foldl (fun t e => t.put e.1 e.2) t).get? key = some value := by
  induction entries with
  | nil => exact fun ht => ht
  | cons e rest ih =>
    intro t ht
    refine ih (fun d hd => h d (List.mem_cons_of_mem _ hd)) ?_
    by_cases hkey : e.1 = key
    · rw [← h e List.mem_cons_self hkey, ← hkey, get?_put_self]
    · rw [get?_put_of_ne (Ne.symm hkey), ht]

/-- **A table of entries holds the last value of a key.** -/
theorem get?_ofEntries_of_last {key : String} {value : α} {before after : List (String × α)}
    (h : ∀ e ∈ after, e.1 = key → e.2 = value) :
    (ofEntries (before ++ (key, value) :: after)).get? key = some value := by
  rw [ofEntries, List.foldl_append, List.foldl_cons]
  exact get?_foldl_put after h get?_put_self

/-- **Entries with distinct keys are their own table.** -/
theorem ofEntries_of_nodup {entries : List (String × α)} (h : (entries.map (·.1)).Nodup) :
    ofEntries entries = entries :=
  foldl_put_of_nodup entries (t := []) h

/-! ## Tables of other values -/

section

variable {β : Type}

/-- The table with other values under its keys. -/
def mapValues (f : α → β) (t : Table α) : Table β := t.map fun e => (e.1, f e.2)

theorem mapValues_put (f : α → β) (t : Table α) (key : String) (value : α) :
    (t.put key value).mapValues f = (t.mapValues f).put key (f value) := by
  induction t with
  | nil => rfl
  | cons e rest ih =>
    unfold mapValues at ih ⊢
    rw [put, List.map_cons, put]
    split
    · rfl
    · rw [List.map_cons, ih]

/-- Changing the values of a table of entries is changing those of the entries. -/
theorem mapValues_ofEntries (f : α → β) (entries : List (String × α)) :
    (ofEntries entries).mapValues f = ofEntries (entries.map fun e => (e.1, f e.2)) := by
  have hfold : ∀ t : Table α,
      (entries.foldl (fun t e => t.put e.1 e.2) t).mapValues f =
        (entries.map fun e => (e.1, f e.2)).foldl (fun (t : Table β) e => t.put e.1 e.2)
          (t.mapValues f) := by
    induction entries with
    | nil => exact fun t => rfl
    | cons e rest ih =>
      intro t
      rw [List.foldl_cons, ih, mapValues_put, List.map_cons, List.foldl_cons]
  exact hfold []

end

end ContractCompiler.Table
