import Mathlib.Data.List.TakeWhile
import ContractCompiler.Compiler.Basic
import ContractCompiler.Proofs.Layout.Join
import ContractCompiler.Proofs.Text.Case

/-!
# Where the file of a model stands

The file of a model is named after its controller, and a controller may be called anything that is
not blank. What its name writes before the last separator is followed as a path from the directory of
models: `.` and `..` lead where they always do, and a separator at the front leads to the root.

* `place_modelPath` — the file stands directly in the folder that the name of the controller spells.
* `stays_iff` — it stands directly in the directory of models exactly when that folder leads back to
  it, as it does when the name has no separators.
* `not_stays_escaped` — a well-formed contract whose file stands elsewhere.
-/

namespace ContractCompiler

namespace Contract

variable {c : Contract}

/-- The folders that the name of the controller spells, up to its last separator. -/
def modelFolder (c : Contract) : String :=
  String.ofList ((Text.lowercase c.controllerName).toList.reverse.dropWhile (· != '/')).reverse

/-- The name of the model's file in these folders. -/
def modelFileName (c : Contract) : String :=
  String.ofList (lastSegment (Text.lowercase c.controllerName).toList) ++ ".model.ts"

theorem modelFolder_append_modelFileName (c : Contract) :
    c.modelFolder ++ c.modelFileName = c.fileStem ++ ".ts" := by
  have hname :
      c.modelFolder ++ String.ofList (lastSegment (Text.lowercase c.controllerName).toList) =
        Text.lowercase c.controllerName := by
    refine String.toList_inj.1 ?_
    rw [modelFolder, String.toList_append, String.toList_ofList, String.toList_ofList, lastSegment,
      ← List.reverse_append, List.takeWhile_append_dropWhile, List.reverse_reverse]
  rw [modelFileName, fileStem, ← String.append_assoc, hname, String.append_assoc]
  rfl

theorem isFolder_modelFolder (c : Contract) : Path.IsFolder c.modelFolder := by
  unfold modelFolder
  cases h : (Text.lowercase c.controllerName).toList.reverse.dropWhile (· != '/') with
  | nil => exact Or.inl rfl
  | cons d rest =>
    have hd : d = '/' := by
      have hhead := List.head?_dropWhile_not (· != '/')
        (Text.lowercase c.controllerName).toList.reverse
      rw [h] at hhead
      simpa using hhead
    refine Or.inr ⟨String.ofList rest.reverse, String.toList_inj.1 ?_⟩
    rw [hd, String.toList_ofList, String.toList_append, String.toList_ofList, List.reverse_cons]
    rfl

theorem slash_not_mem_modelFileName (c : Contract) : '/' ∉ c.modelFileName.toList := by
  rw [modelFileName, String.toList_append, String.toList_ofList, List.mem_append, not_or]
  refine ⟨fun h => ?_, by decide⟩
  have hstop := List.mem_takeWhile_imp (List.mem_reverse.1 h)
  exact absurd hstop (by decide)

/-- A file name is neither empty nor `.` or `..`: it has an ending. -/
theorem modelFileName_ne (c : Contract) {s : String}
    (hs : s.toList.length < ".model.ts".toList.length) : c.modelFileName ≠ s := by
  rintro rfl
  rw [modelFileName, String.toList_append, List.length_append] at hs
  omega

/-- A name without separators spells no folders. -/
theorem modelFolder_eq_empty (h : '/' ∉ c.controllerName.toList) : c.modelFolder = "" := by
  have hlower : '/' ∉ (Text.lowercase c.controllerName).toList :=
    fun hmem => h (Text.mem_of_mem_lowercase (by decide) hmem)
  have hdrop : (Text.lowercase c.controllerName).toList.reverse.dropWhile (· != '/') = [] := by
    refine List.dropWhile_eq_nil_iff.2 fun d hd => ?_
    have hne : d ≠ '/' := fun heq => hlower (heq ▸ List.mem_reverse.1 hd)
    simpa using hne
  rw [modelFolder, hdrop]
  rfl

end Contract

namespace Compiler

def modelDir (c : Compiler) (root : Path) (contract : Contract) : Path :=
  root.join ((Layout.ofConfig c.config).modelDir contract).text

/-- The file of a contract's model stands directly in the directory of models. -/
def Stays (c : Compiler) (root : Path) (contract : Contract) (workingDir : Location) : Prop :=
  ∃ n, (c.modelPath root contract).place workingDir =
    (c.modelDir root contract).place workingDir ++ [n]

/-- **The file of a model stands directly in the folder that the name of its controller spells**, seen
from the directory of models. -/
theorem place_modelPath (c : Compiler) (root : Path) (contract : Contract) (workingDir : Location) :
    (c.modelPath root contract).place workingDir =
      ((c.modelDir root contract).join contract.modelFolder).place workingDir ++
        [contract.modelFileName] := by
  have hblank : contract.modelFileName ≠ "" := contract.modelFileName_ne (by decide)
  have hhere : contract.modelFileName ≠ "." := contract.modelFileName_ne (by decide)
  have hup : contract.modelFileName ≠ ".." := contract.modelFileName_ne (by decide)
  have hfile := Path.place_join_file contract.isFolder_modelFolder
    contract.slash_not_mem_modelFileName hblank hhere hup (c.modelDir root contract) workingDir
  rw [contract.modelFolder_append_modelFileName] at hfile
  exact (Path.place_join_join root ((Layout.ofConfig c.config).modelDir contract)
    (contract.fileStem ++ ".ts") workingDir).trans hfile

/-- **The file of a model stands in the directory of models exactly when the folders in the name of
its controller lead back to it**; a name without separators has none. -/
theorem stays_iff (c : Compiler) (root : Path) (contract : Contract) (workingDir : Location) :
    (c.modelPath root contract).place workingDir =
          ((c.modelDir root contract).join contract.modelFolder).place workingDir ++
            [contract.modelFileName] ∧
      (c.Stays root contract workingDir ↔
        ((c.modelDir root contract).join contract.modelFolder).place workingDir =
          (c.modelDir root contract).place workingDir) ∧
      ('/' ∉ contract.controllerName.toList → c.Stays root contract workingDir) := by
  have hplace := place_modelPath c root contract workingDir
  have hiff : c.Stays root contract workingDir ↔
      ((c.modelDir root contract).join contract.modelFolder).place workingDir =
        (c.modelDir root contract).place workingDir := by
    unfold Stays
    rw [hplace]
    constructor
    · rintro ⟨n, hn⟩
      exact List.append_inj_left' hn (by rw [List.length_singleton, List.length_singleton])
    · intro h
      exact ⟨contract.modelFileName, by rw [h]⟩
  refine ⟨hplace, hiff, fun hslash => hiff.2 ?_⟩
  rw [Contract.modelFolder_eq_empty hslash, Path.place_join_empty]

def unconfigured : Compiler := .ofConfig .default .empty

/-- A contract that names its controller by a way out of the directory of models. -/
def escaped : Contract := .named "Escaped" "../escaped"

/-- The contract is well formed and emitted, and its file stands beside the directory of models. -/
theorem not_stays_escaped :
    escaped.check = .ok () ∧
      (unconfigured.modelPath ⟨"."⟩ escaped).place [] = [".generated", "escaped.model.ts"] ∧
      ¬unconfigured.Stays ⟨"."⟩ escaped [] := by
  have hplace : (unconfigured.modelPath ⟨"."⟩ escaped).place [] =
      [".generated", "escaped.model.ts"] := by
    decide +kernel
  have hdir : (unconfigured.modelDir ⟨"."⟩ escaped).place [] = [".generated", "models"] := by
    decide +kernel
  refine ⟨rfl, hplace, ?_⟩
  rintro ⟨n, hn⟩
  rw [hplace, hdir] at hn
  cases congrArg List.length hn

end Compiler

end ContractCompiler
