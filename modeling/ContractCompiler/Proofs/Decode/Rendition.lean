import Mathlib.Data.List.Forall2
import ContractCompiler.Contract.Encoding
import ContractCompiler.Decode.Json
import ContractCompiler.Decode.Record
import ContractCompiler.Proofs.Collection.Table

/-!
# Reading what stands for a value

A `Rendition` of a format says when a node stands for a JSON value, and that such a node is read as
that value. Whatever is proved about reading from a rendition holds for every format that has one.

* `reads_listOf`, `reads_tableOf` — containers are read as what their parts are read as.
* `jsonRendition` — JSON values stand for themselves.
-/

namespace ContractCompiler.Decode

section

variable (ν : Type) (m : Type → Type) [Monad m] [MonadExceptOf Fault m] [Source ν m]

/-- When the nodes of a format stand for JSON values, and how they are read then. -/
structure Rendition where
  Stands : ν → Json → Prop
  /-- The values that are read as they are where any JSON value is asked for. -/
  Exact : Json → Prop
  within_pure : ∀ {α : Type} (n : ν) (a : α), within n (pure a : m α) = pure a
  text : ∀ {n s}, Stands n (.string s) → ∀ expected, Source.text n expected = (pure s : m String)
  flag : ∀ {n b}, Stands n (.bool b) → Source.flag n = (pure b : m Bool)
  word : ∀ {n w}, Stands n (Json.ofWord w) → Source.word n = (pure w : m UInt64)
  absent : ∀ {n}, Stands n .null → Source.present? n = (pure none : m (Option ν))
  present : ∀ {n v}, Stands n v → v ≠ .null → Source.present? n = (pure (some n) : m (Option ν))
  items : ∀ {n values}, Stands n (.array values) →
    ∃ nodes, Source.items n = (pure ⟨nodes, none⟩ : m (Run ν)) ∧ List.Forall₂ Stands nodes values
  entries : ∀ {n members}, Stands n (.object members) → ∀ expected,
    ∃ nodes, Source.entries n expected = (pure ⟨nodes, none⟩ : m (Run (ν × ν))) ∧
      List.Forall₂ (fun e v => Stands e.1 (.string v.1) ∧ Stands e.2 v.2) nodes members
  record : ∀ {n members}, Stands n (.object members) → ∀ expected,
    ∃ nodes, Source.record n expected = (pure (.entries ⟨nodes, none⟩) : m (RecordShape ν)) ∧
      List.Forall₂ (fun e v => Stands e.1 (.string v.1) ∧ Stands e.2 v.2) nodes members
  choice : ∀ {n s} {names : List String}, Stands n (.string s) → s ∈ names →
    Source.choice n names = (pure s : m String)
  json : ∀ {n v}, Stands n v → Exact v → Source.json n = (pure v : m Json)
  content : ∀ {n v}, Stands n v → Source.content n = (pure (.ofJson v) : m Content)

end

/-! ## Reading from a rendition -/

namespace Rendition

variable {ν : Type} {m : Type → Type} [Monad m] [MonadExceptOf Fault m] [Source ν m] {α β : Type}

/-- Every node that stands for the value is read as `a`. -/
def Reads (R : Rendition ν m) (read : ν → m α) (v : Json) (a : α) : Prop :=
  ∀ n, R.Stands n v → read n = pure a

/-- The nodes of an entry stand for the key and the value of a member. -/
def StandsEntry (R : Rendition ν m) (e : ν × ν) (v : String × Json) : Prop :=
  R.Stands e.1 (.string v.1) ∧ R.Stands e.2 v.2

variable {R : Rendition ν m}

theorem reads_text (s : String) : R.Reads Decode.text (.string s) s := fun _ h => R.text h _

theorem reads_flag (b : Bool) : R.Reads Source.flag (.bool b) b := fun _ h => R.flag h

theorem reads_word (w : UInt64) : R.Reads Source.word (Json.ofWord w) w := fun _ h => R.word h

theorem reads_json {v : Json} (hv : R.Exact v) : R.Reads Source.json v v := fun _ h => R.json h hv

/-- Nodes are read one by one when what they stand for is. -/
theorem forall₂_read {read : ν → m α} {nodes : List ν} {values : List Json} {as : List α}
    (hn : List.Forall₂ R.Stands nodes values) (hv : List.Forall₂ (R.Reads read) values as) :
    List.Forall₂ (fun n a => read n = pure a) nodes as := by
  induction hv generalizing nodes with
  | nil =>
    cases hn
    exact .nil
  | cons h _ ih =>
    obtain _ | ⟨hn, hrest⟩ := hn
    exact .cons (h _ hn) (ih hrest)

variable [LawfulMonad m]

theorem reads_optional_null (read : ν → m α) : R.Reads (optional read) .null none := by
  intro n h
  rw [optional, R.absent h, pure_bind]

theorem reads_optional {read : ν → m α} {v : Json} {a : α} (hv : v ≠ .null) (h : R.Reads read v a) :
    R.Reads (optional read) v (some a) := by
  intro n hn
  rw [optional, R.present hn hv, pure_bind]
  dsimp only
  rw [h n hn, pure_bind]

theorem readItems_eq {read : β → m α} {nodes : List β} {as : List α}
    (h : List.Forall₂ (fun n a => read n = pure a) nodes as) :
    readItems read nodes none = pure as := by
  induction h with
  | nil => rfl
  | cons hn _ ih => rw [readItems, hn, pure_bind, ih, pure_bind]

/-- **A list is read as what its items are read as.** -/
theorem reads_listOf {read : ν → m α} {values : List Json} {as : List α}
    (h : List.Forall₂ (R.Reads read) values as) : R.Reads (listOf read) (.array values) as := by
  intro n hn
  obtain ⟨nodes, hitems, hstands⟩ := R.items hn
  rw [listOf, hitems, pure_bind]
  dsimp only
  rw [readItems_eq (forall₂_read hstands h), R.within_pure]

/-- Reading an entry of a table. -/
theorem readEntry_eq {read : ν → m α} {e : ν × ν} {v : String × Json} {a : α}
    (he : R.StandsEntry e v) (h : R.Reads read v.2 a) : readEntry read e = pure (v.1, a) := by
  rw [readEntry, R.text he.1, pure_bind, h e.2 he.2, pure_bind]

theorem forall₂_readEntry {read : ν → m α} {nodes : List (ν × ν)} {members : List (String × Json)}
    {t : List (String × α)} (hn : List.Forall₂ R.StandsEntry nodes members)
    (hv : List.Forall₂ (fun v e => v.1 = e.1 ∧ R.Reads read v.2 e.2) members t) :
    List.Forall₂ (fun n e => readEntry read n = pure e) nodes t := by
  induction hv generalizing nodes with
  | nil =>
    cases hn
    exact .nil
  | cons h _ ih =>
    obtain _ | ⟨hn, hrest⟩ := hn
    refine .cons ?_ (ih hrest)
    rw [readEntry_eq hn h.2, h.1]

/-- **A table is read as what its values are read as**, with each key once. -/
theorem reads_tableOf {read : ν → m α} {write : β → Json} {t : Table β} {t' : List (String × α)}
    (h : List.Forall₂ (fun d e => d.1 = e.1 ∧ R.Reads read (write d.2) e.2) t t') :
    R.Reads (tableOf read) (Json.ofTable write t) (Table.ofEntries t') := by
  intro n hn
  obtain ⟨nodes, hentries, hstands⟩ := R.entries hn "a map"
  have hread : readItems (readEntry read) nodes none = pure t' :=
    readItems_eq (forall₂_readEntry hstands (List.forall₂_map_left_iff.2 h))
  rw [tableOf, hentries, pure_bind]
  dsimp only
  rw [hread, R.within_pure, pure_bind]

end Rendition

/-! ## JSON values -/

/-- A word is read from the number it is written as. -/
theorem wordOfNumber_toNat (w : UInt64) (fits : -0x8000000000000000 ≤ (w.toNat : Int) ∧
    (w.toNat : Int) < 0x10000000000000000) : wordOfNumber (.integer w.toNat fits) = .ok w := by
  rw [wordOfNumber, if_pos (Int.natCast_nonneg _), Int.toNat_natCast, UInt64.ofNat_toNat]

/-- Values stand for themselves. -/
def jsonRendition : Rendition Json (Except Fault) where
  Stands n v := n = v
  Exact _ := True
  within_pure _ _ := rfl
  text h _ := by
    subst h
    rfl
  flag h := by
    subst h
    rfl
  word {n w} h := by
    subst h
    exact wordOfNumber_toNat w _
  absent h := by
    subst h
    rfl
  present {n v} h hv := by
    subst h
    cases n with
    | null => exact absurd rfl hv
    | bool | number | string | array | object => rfl
  items h := by
    subst h
    exact ⟨_, rfl, List.forall₂_same.2 fun _ _ => rfl⟩
  entries h _ := by
    subst h
    exact ⟨_, rfl, List.forall₂_map_left_iff.2 (List.forall₂_same.2 fun _ _ => ⟨rfl, rfl⟩)⟩
  record h _ := by
    subst h
    exact ⟨_, rfl, List.forall₂_map_left_iff.2 (List.forall₂_same.2 fun _ _ => ⟨rfl, rfl⟩)⟩
  choice h hs := by
    subst h
    exact if_pos (by simpa using hs)
  json h _ := by
    subst h
    rfl
  content h := by
    subst h
    rfl

end ContractCompiler.Decode
