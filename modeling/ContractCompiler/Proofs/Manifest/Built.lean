import ContractCompiler.Proofs.Contract.Builder
import ContractCompiler.Proofs.Manifest.RoundTrip
import ContractCompiler.Proofs.Module.Closure
import ContractCompiler.Proofs.Text.BlankLines

/-!
# Built contracts in a manifest

A manifest of built contracts is read back with the same contracts, but for the values that a builder
was asked to set to `null`: such a value is written as `null` and read as absent, while the generated
module tells one from the other.

* `Contract.readBack_of_built` — what becomes of a built contract that is written and read.
* `Contract.emitModel_category_ne` — an explicit null is lost, and with it a part of the module.
* `Manifest.ofJsonText_jsonText_of_built` — the manifest that is read from the text of a manifest of
  built contracts.
-/

namespace ContractCompiler

open Decode Rendition

namespace Contract

/-- What becomes of a contract that is written, as a manifest writes it, and read. -/
structure ReadBack (c : Contract) : Prop where
  /-- It loses its explicit nulls, and nothing else, if its extra options keep clear of the names of
  known ones. -/
  value : c.KeepsClear → (Contract.read c.toJson : Except Fault Contract) = .ok c.withoutNulls
  /-- So it does on its way through JSON text, unless it holds doubles or nests too deeply. -/
  text : c.KeepsClear → c.toJson.isDoubleFree = true → Json.Raw.Fits 0 c.toJson →
    Json.Raw.decode Contract.read c.toJson.pretty = .ok c.withoutNulls
  /-- It is the same contract exactly when it has nothing to lose. -/
  same : (Contract.read c.toJson : Except Fault Contract) = .ok c ↔ c.HasNoNull ∧ c.KeepsClear
  /-- And then it stands for the same module, in every set of contracts and every context. -/
  module : c.HasNoNull → c.KeepsClear → ∀ contracts ctx resolver, ∃ d,
    (Contract.read c.toJson : Except Fault Contract) = .ok d ∧
      d.emitModel contracts ctx resolver = c.emitModel contracts ctx resolver

/-- **What becomes of a built contract that is written and read.** -/
theorem readBack_of_built {c : Contract} (hbuilt : c.Built) : c.ReadBack where
  value hclear :=
    reads_of_built (R := jsonRendition) (fun _ _ => trivial) hbuilt hclear c.toJson rfl
  text hclear hfree hfits :=
    Json.Raw.decode_pretty hfree hfits
      (reads_of_built (R := Json.Raw.rendition) (fun _ hv => hv) hbuilt hclear)
  same := read_toJson_eq_self_iff hbuilt
  module hnull hclear _ _ _ := ⟨c, (read_toJson_eq_self_iff hbuilt).2 ⟨hnull, hclear⟩, rfl⟩

/-- A contract in the making: tags in unusual spellings, values, a message and an option of its
own. -/
def surveySteps : List ContractStep :=
  [.field (.build "answers" " string [] "
     [.nullable false, .defaultValue (.array []), .validation (.ofKind (.name "IsArray")),
      .decorator "Track" ⟨"./track", some (.object [("level", .bool true)])⟩]),
   .field (.build "scores" "simpleArray" [.arrayType (.ofString "int32"), .repeated]),
   .message (.build "Answer" [("text", .build "string" [.optional]), ("at", .build "Date" [])]),
   .index "byAnswers" ["answers"],
   .options { ContractOptions.empty with extra := [("tier", .string "gold")] },
   .moduleContract]

def survey : Contract := (surveySteps.foldl ContractBuilder.apply (.new "Survey" "Survey")).draft

theorem built_survey : survey.Built := by
  have hanswers : ∀ s ∈ [FieldStep.nullable false, .defaultValue (.array []),
      .validation (.ofKind (.name "IsArray")),
      .decorator "Track" ⟨"./track", some (.object [("level", .bool true)])⟩], s.Proper := by
    have hvalidation : (Validation.ofKind (.name "IsArray")).HasDistinctKeys := by
      refine ⟨?_, ?_, ?_⟩ <;> intro _ h <;> cases h
    have hoptions : (Json.object [("level", .bool true)]).HasDistinctKeys := by decide
    simp only [List.forall_mem_cons]
    exact ⟨trivial, (by decide : (Json.array []).HasDistinctKeys), hvalidation,
      fun v hv => Option.mem_some_iff.1 hv ▸ hoptions, List.forall_mem_nil _⟩
  have hscores : ∀ s ∈ [FieldStep.arrayType (.ofString "int32"), .repeated], s.Proper := by
    simp only [List.forall_mem_cons]
    exact ⟨⟨"int32", rfl⟩, trivial, List.forall_mem_nil _⟩
  have hanswer : ∀ e ∈ [("text", Property.build "string" [.optional]), ("at", .build "Date" [])],
      Property.Built e.2 := by
    simp only [List.forall_mem_cons]
    exact ⟨⟨"string", [.optional], List.forall_mem_singleton.2 trivial, rfl⟩,
      ⟨"Date", [], List.forall_mem_nil _, rfl⟩, List.forall_mem_nil _⟩
  have hoptions : ContractOptions.Proper
      { ContractOptions.empty with extra := [("tier", .string "gold")] } :=
    ⟨by decide, List.forall_mem_singleton.2 trivial⟩
  refine ⟨"Survey", "Survey", surveySteps, ?_, by decide +kernel⟩
  simp only [surveySteps, List.forall_mem_cons]
  exact ⟨⟨_, _, _, hanswers, rfl⟩, ⟨_, _, _, hscores, rfl⟩, ⟨_, _, hanswer, rfl⟩, trivial, hoptions,
    trivial, List.forall_mem_nil _⟩

theorem readBack_survey : survey.Built ∧ survey.ReadBack :=
  ⟨built_survey, readBack_of_built built_survey⟩

/-- Modules that differ in one character of the fields of their classes, white space apart, differ as
texts. -/
theorem render_ne_of_count_fields (m : ModelModule) (fields others : List (Placed MemberCode))
    {c : Char} (hc : Text.isBlank c = false)
    (h : (String.join (fields.map (Placed.render MemberCode.render))).toList.count c ≠
      (String.join (others.map (Placed.render MemberCode.render))).toList.count c) :
    { m with classCode := { m.classCode with fields := fields } }.render ≠
      { m with classCode := { m.classCode with fields := others } }.render := by
  intro heq
  have hcount := congrArg (fun text => text.toList.count c) heq
  simp only [ModelModule.render, ClassCode.render, ClassCode.hookMethod, Text.count_normalized hc,
    String.toList_append, List.count_append] at hcount
  omega

/-- The steps of a tree of categories: the parent of a category is `null` unless it is given. -/
def categorySteps : List ContractStep :=
  [.field (.build "parent" "string" [.link (.to "Category"), .defaultValue .null])]

/-- Categories with or without a default for their parents. -/
def categoryWith (default : Option Json) : Contract :=
  { named "Category" "Category" with
    fields := [{ Field.plain "parent" (.known .string) with
      link := [.to "Category"], defaultValue := default }] }

/-- The module of categories in a project with nothing configured. -/
def categoryModule (default : Option Json) : ModelModule :=
  (categoryWith default).moduleAround [categoryWith (some .null)] (.ofConfig .default .empty)
    nameResolver [("parent", ⟨"Category", false⟩)]
    [.emitted
      { decorations := [.expose]
        declaration :=
          ⟨"parent", default.isSome, "Category | string | null", default.map Json.compact⟩
        needs := [] }]
    []

theorem emitModel_categoryWith {default : Option Json} (h : default = none ∨ default = some .null) :
    (categoryWith default).emitModel [categoryWith (some .null)] (.ofConfig .default .empty)
      nameResolver = .ok (categoryModule default).render := by
  refine emitModel_eq_ok_iff.2 ⟨_, modelModule_eq_ok_iff.2 ⟨_, _, _, ?_, ?_, ?_, ?_, rfl⟩, rfl⟩
  · rcases h with rfl | rfl <;> rfl
  · rcases h with rfl | rfl <;> rfl
  · rcases h with rfl | rfl <;> rfl
  · rfl

theorem render_categoryModule_ne :
    (categoryModule (some .null)).render ≠ (categoryModule none).render :=
  render_ne_of_count_fields (categoryModule none) (categoryModule (some .null)).classCode.fields
    (categoryModule none).classCode.fields (c := '?') (by decide) (by decide +kernel)

/-- **An explicit null is lost, and with it a part of the module**: the builder accepts the contract,
it is written and read, and what is read stands for another module. -/
theorem emitModel_category_ne :
    (categorySteps.foldl ContractBuilder.apply (.new "Category" "Category")).build =
        .ok (categoryWith (some .null)) ∧
      (Contract.read (categoryWith (some .null)).toJson : Except Fault Contract) =
        .ok (categoryWith none) ∧
      ∃ s t, (categoryWith (some .null)).emitModel [categoryWith (some .null)]
          (.ofConfig .default .empty) nameResolver = .ok s ∧
        (categoryWith none).emitModel [categoryWith (some .null)] (.ofConfig .default .empty)
          nameResolver = .ok t ∧ s ≠ t :=
  ⟨by decide +kernel, by decide +kernel, _, _, emitModel_categoryWith (Or.inr rfl),
    emitModel_categoryWith (Or.inl rfl), render_categoryModule_ne⟩

end Contract

/-! ## Manifests of built contracts -/

namespace Manifest

variable {contracts : List Contract}

/-- The contracts of the manifest of built ones are read without their explicit nulls. -/
theorem reads_of_built {ν : Type} {m : Type → Type} [Monad m] [LawfulMonad m]
    [MonadExceptOf Fault m] [Source ν m] {R : Rendition ν m}
    (hR : ∀ v : Json, v.HasDistinctKeys → R.Exact v) (capabilities : CapabilitySet)
    (hbuilt : ∀ c ∈ contracts, c.Built) (hclear : ∀ c ∈ contracts, c.KeepsClear) :
    R.Reads Manifest.read (build contracts capabilities).toJson
      (build (contracts.map Contract.withoutNulls) capabilities) := by
  have hcontracts : R.Reads (tableOf Contract.read)
      (Json.ofTable Contract.toJson (build contracts capabilities).contracts)
      (build (contracts.map Contract.withoutNulls) capabilities).contracts := by
    have hread : R.Reads (tableOf Contract.read)
        (Json.ofTable Contract.toJson (build contracts capabilities).contracts)
        (Table.settled Contract.withoutNulls (build contracts capabilities).contracts) :=
      reads_settledTable fun e he => Contract.reads_of_built hR (hbuilt e.2 (mem_contracts_build he))
        (hclear e.2 (mem_contracts_build he))
    have hkeys : (build contracts capabilities).contracts.keys.Nodup := Table.keys_ofEntries_nodup _
    have hmap : Table.mapValues Contract.withoutNulls (build contracts capabilities).contracts =
        (build (contracts.map Contract.withoutNulls) capabilities).contracts := by
      rw [build, Table.mapValues_ofEntries, List.map_map, build, List.map_map]
      rfl
    rwa [Table.settled_eq_mapValues hkeys, hmap] at hread
  refine reads_record (by simp [RecordReader.NamesDiffer, reader]) ?_
  refine .cons (part_must hcontracts) ?_
  exact .last (part_must (ManifestModules.reads _)) rfl

/-- **The manifest of built contracts is read from its JSON text as that of the contracts without
their explicit nulls**, when they hold no doubles and nest below the limit. -/
theorem ofJsonText_jsonText_of_built (capabilities : CapabilitySet)
    (hbuilt : ∀ c ∈ contracts, c.Built) (hclear : ∀ c ∈ contracts, c.KeepsClear)
    (hfree : ∀ c ∈ contracts, c.toJson.isDoubleFree = true)
    (hdepth : ∀ c ∈ contracts, c.toJson.depth ≤ 100) :
    ofJsonText (build contracts capabilities).jsonText =
      .ok (build (contracts.map Contract.withoutNulls) capabilities) := by
  refine Json.Raw.decode_pretty (isDoubleFree_toJson fun e he => ?_) (fits_toJson fun e he => ?_)
    (reads_of_built (R := Json.Raw.rendition) (fun _ hv => hv) capabilities hbuilt hclear)
  · exact hfree e.2 (mem_contracts_build he)
  · have hlevels := hdepth e.2 (mem_contracts_build he)
    unfold Json.Raw.Fits Json.Raw.maxLevel
    omega

end Manifest

end ContractCompiler
