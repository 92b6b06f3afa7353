import ContractCompiler.Manifest.Basic
import ContractCompiler.Proofs.Contract.Document
import ContractCompiler.Proofs.Contract.Load
import ContractCompiler.Proofs.Decode.JsonText

/-!
# Manifests are read back from their text

A manifest of loaded contracts is read from the JSON text it is written as: the same contracts under
the same names in the same order, and the same flags.

* `Manifest.reads` — a written manifest of settled contracts is read as it is, from every format
  that renders it.
* `ofJsonText_jsonText` — a manifest of settled contracts is read from its JSON text.
* `ofJsonText_jsonText_build`, `ofJsonText_jsonText_of_documents` — so is the manifest of contracts
  that were loaded from values, or from documents.
-/

namespace ContractCompiler

open Decode Rendition

/-! ## Reading what stands for a manifest -/

section

variable {ν : Type} {m : Type → Type} [Monad m] [LawfulMonad m] [MonadExceptOf Fault m] [Source ν m]
  {R : Rendition ν m}

theorem ManifestModules.reads (s : ManifestModules) :
    R.Reads ManifestModules.reader.read s.toJson s := by
  refine reads_record (by simp [RecordReader.NamesDiffer, reader]) ?_
  refine .cons (part_must (reads_flag _)) ?_
  refine .cons (part_must (reads_flag _)) ?_
  refine .cons (part_must (reads_flag _)) ?_
  refine .cons (part_must (reads_flag _)) ?_
  refine .cons (part_must (reads_flag _)) ?_
  refine .cons (part_must (reads_flag _)) ?_
  exact .last (part_must (reads_flag _)) rfl

/-- **A written manifest of settled contracts is read as it is.** -/
theorem Manifest.reads {s : Manifest} (h : Table.Settled (Contract.Settled R.Exact) s.contracts) :
    R.Reads Manifest.read s.toJson s := by
  have hcontracts : R.Reads (tableOf Contract.read) (Json.ofTable Contract.toJson s.contracts)
      s.contracts := by
    have hentries : R.Reads (tableOf Contract.read) (Json.ofTable Contract.toJson s.contracts)
        (Table.ofEntries s.contracts) := by
      refine reads_tableOf (List.forall₂_same.2 fun e he => ⟨rfl, ?_⟩)
      have hread := Contract.reads (R := R) (h.2 e he).readable
      rwa [Contract.settled_eq_self (h.2 e he)] at hread
    rwa [Table.ofEntries_of_nodup h.1] at hentries
  refine reads_record (by simp [RecordReader.NamesDiffer, reader]) ?_
  refine .cons (part_must hcontracts) ?_
  exact .last (part_must (ManifestModules.reads s.modules)) rfl

end

namespace Manifest

open Json.Raw

/-! ## JSON text -/

theorem isDoubleFree_toJson {s : Manifest}
    (h : ∀ e ∈ s.contracts, e.2.toJson.isDoubleFree = true) : s.toJson.isDoubleFree = true := by
  refine Json.isDoubleFree_object.2 (List.forall_mem_cons.2 ⟨?_, ?_⟩)
  · refine Json.isDoubleFree_object.2 fun d hd => ?_
    obtain ⟨e, he, rfl⟩ := List.mem_map.1 hd
    exact h e he
  · exact List.forall_mem_singleton.2 rfl

/-- Two containers stand around each contract of a manifest. -/
theorem fits_toJson {s : Manifest} (h : ∀ e ∈ s.contracts, Fits 2 e.2.toJson) :
    Fits 0 s.toJson := by
  refine fits_object.2 ⟨by decide, List.forall_mem_cons.2 ⟨?_, ?_⟩⟩
  · refine fits_object.2 ⟨by decide, fun d hd => ?_⟩
    obtain ⟨e, he, rfl⟩ := List.mem_map.1 hd
    exact h e he
  · have hflags : s.modules.toJson.depth = 1 := rfl
    refine List.forall_mem_singleton.2 ?_
    rw [Fits, hflags]
    decide

/-- **A manifest of settled contracts is read from its JSON text**, when the contracts hold no
doubles and nest below the limit. -/
theorem ofJsonText_jsonText {s : Manifest}
    (hsettled : Table.Settled (Contract.Settled Json.HasDistinctKeys) s.contracts)
    (hfree : ∀ e ∈ s.contracts, e.2.toJson.isDoubleFree = true)
    (hfits : ∀ e ∈ s.contracts, Fits 2 e.2.toJson) : ofJsonText s.jsonText = .ok s :=
  decode_pretty (isDoubleFree_toJson hfree) (fits_toJson hfits) (Manifest.reads hsettled)

theorem inherited_hasDistinctKeys : Inherited Json.HasDistinctKeys where
  items := Json.hasDistinctKeys_array.1
  members h := (Json.hasDistinctKeys_object.1 h).2

/-- Each contract of a manifest is one of those that it was built from. -/
theorem mem_contracts_build {contracts : List Contract} {capabilities : CapabilitySet}
    {e : String × Contract} (h : e ∈ (build contracts capabilities).contracts) :
    e.2 ∈ contracts := by
  obtain ⟨c, hc, rfl⟩ := List.mem_map.1 (Table.mem_of_mem_ofEntries h)
  exact hc

/-- The manifest of settled contracts is read from its JSON text. -/
theorem ofJsonText_jsonText_of_settled {contracts : List Contract} (capabilities : CapabilitySet)
    (hsettled : ∀ c ∈ contracts, c.Settled Json.HasDistinctKeys)
    (hfree : ∀ c ∈ contracts, c.toJson.isDoubleFree = true)
    (hdepth : ∀ c ∈ contracts, c.toJson.depth ≤ 100) :
    ofJsonText (build contracts capabilities).jsonText = .ok (build contracts capabilities) := by
  refine ofJsonText_jsonText ⟨Table.keys_ofEntries_nodup _, fun e he => ?_⟩ (fun e he => ?_)
    fun e he => ?_
  · exact hsettled e.2 (mem_contracts_build he)
  · exact hfree e.2 (mem_contracts_build he)
  · have hlevels := hdepth e.2 (mem_contracts_build he)
    unfold Fits maxLevel
    omega

/-- **The manifest of the contracts of documents is read from its JSON text.** -/
theorem ofJsonText_jsonText_of_documents {contracts : List Contract} (capabilities : CapabilitySet)
    (hdocuments : ∀ c ∈ contracts, ∃ text verdicts,
      Contract.ofDocument text = .ok verdicts ∧ .ok c ∈ verdicts)
    (hfree : ∀ c ∈ contracts, c.toJson.isDoubleFree = true)
    (hdepth : ∀ c ∈ contracts, c.toJson.depth ≤ 100) :
    ofJsonText (build contracts capabilities).jsonText = .ok (build contracts capabilities) := by
  refine ofJsonText_jsonText_of_settled capabilities (fun c hc => ?_) hfree hdepth
  obtain ⟨text, verdicts, hread, hmem⟩ := hdocuments c hc
  obtain ⟨v, hv, hload⟩ := Contract.exists_value_of_document hread hmem
  exact Contract.settled_of_load inherited_hasDistinctKeys hv hload

/-- **The manifest of loaded contracts is read from its JSON text**: the same contracts under the
same names in the same order, and the same flags. The values that were loaded hold each key of an
object once, as those of documents do. -/
theorem ofJsonText_jsonText_build {contracts : List Contract} (capabilities : CapabilitySet)
    (hloaded : ∀ c ∈ contracts, ∃ v : Json, v.HasDistinctKeys ∧ Contract.load v = .ok c)
    (hfree : ∀ c ∈ contracts, c.toJson.isDoubleFree = true)
    (hdepth : ∀ c ∈ contracts, c.toJson.depth ≤ 100) :
    ofJsonText (build contracts capabilities).jsonText = .ok (build contracts capabilities) := by
  refine ofJsonText_jsonText_of_settled capabilities (fun c hc => ?_) hfree hdepth
  obtain ⟨v, hv, hload⟩ := hloaded c hc
  exact Contract.settled_of_load inherited_hasDistinctKeys hv hload

/-- A contract with characters that a string literal escapes, and the least integer. -/
def escaped : Json :=
  .object
    [("contractName", .string "Say \"hi\""), ("controllerName", .string "Say"),
     ("fields", .array
       [.object
         [("propertyKey", .string "text"), ("protoType", .string "string"),
          ("defaultValue", .object
            [("a\\b", .string "\t\u0001\u2028"),
             ("least", .number (.integer (-0x8000000000000000) (by decide)))])]])]

def ofEscaped : Contract :=
  { Contract.named "Say \"hi\"" "Say" with
    fields := [{ Field.plain "text" (.known .string) with
      defaultValue := some (.object
        [("a\\b", .string "\t\u0001\u2028"),
         ("least", .number (.integer (-0x8000000000000000) (by decide)))]) }] }

theorem load_escaped : Contract.load escaped = .ok ofEscaped := by decide +kernel

def sample : List Contract := [.ofUnusual, ofEscaped, .ofUnusual]

theorem ofJsonText_jsonText_sample :
    (∀ c ∈ sample, ∃ v : Json, v.HasDistinctKeys ∧ Contract.load v = .ok c) ∧
      (∀ c ∈ sample, c.toJson.isDoubleFree = true) ∧ (∀ c ∈ sample, c.toJson.depth ≤ 100) ∧
      ofJsonText (build sample .empty).jsonText = .ok (build sample .empty) := by
  have hunusual : ∃ v : Json, v.HasDistinctKeys ∧ Contract.load v = .ok .ofUnusual :=
    ⟨Contract.unusual, by decide, Contract.load_unusual⟩
  have hescaped : ∃ v : Json, v.HasDistinctKeys ∧ Contract.load v = .ok ofEscaped :=
    ⟨escaped, by decide, load_escaped⟩
  have hloaded : ∀ c ∈ sample, ∃ v : Json, v.HasDistinctKeys ∧ Contract.load v = .ok c := by
    simp only [sample, List.forall_mem_cons]
    exact ⟨hunusual, hescaped, hunusual, fun _ h => by cases h⟩
  have hfree : ∀ c ∈ sample, c.toJson.isDoubleFree = true := by decide
  have hdepth : ∀ c ∈ sample, c.toJson.depth ≤ 100 := by decide
  exact ⟨hloaded, hfree, hdepth, ofJsonText_jsonText_build .empty hloaded hfree hdepth⟩

end Manifest

end ContractCompiler
