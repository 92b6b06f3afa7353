import ContractCompiler.Proofs.Contract.Check
import ContractCompiler.Proofs.Contract.Settled

/-!
# Loading is settled after one round

A contract that was loaded, written as a value and loaded again is the same contract, however the
first value was spelled.

* `load_eq_ok_iff` — a value loads when its outline, its reading and the contract pass.
* `load_toJson_of_load` — what loading gives is a fixed point of writing and loading.
-/

namespace ContractCompiler

open Decode

namespace Contract

/-- **A value loads when its outline passes, it is read as a contract, and the contract passes.** -/
theorem load_eq_ok_iff {v : Json} {c : Contract} :
    load v = .ok c ↔ v.checkContract = .ok () ∧ Contract.read v = .ok c ∧ c.check = .ok () := by
  unfold load
  constructor
  · intro h
    split at h
    · cases h
    rename_i houtline
    split at h
    · cases h
    rename_i d hread
    split at h
    · cases h
    rename_i hcheck
    cases h
    exact ⟨houtline, hread, hcheck⟩
  · rintro ⟨houtline, hread, hcheck⟩
    simp only [houtline, hread, hcheck]

/-- What a contract is written as has the outline of a contract when its names are not blank. -/
theorem checkContract_toJson {c : Contract} (hname : Text.isBlankText c.contractName = false)
    (hcontroller : Text.isBlankText c.controllerName = false) :
    c.toJson.checkContract = .ok () := by
  have hcontractName : c.toJson.hasName "contractName" = true := by
    show (!Text.isBlankText c.contractName) = true
    rw [hname]
    rfl
  have hcontrollerName : c.toJson.hasName "controllerName" = true := by
    show (!Text.isBlankText c.controllerName) = true
    rw [hcontroller]
    rfl
  have hfields : c.toJson.member? "fields" = some (.array (c.fields.map Field.toJson)) := rfl
  unfold Json.checkContract
  rw [hcontractName, hcontrollerName, hfields]
  rfl

/-- Every contract that is loaded is settled. -/
theorem settled_of_load {Q : Json → Prop} (hQ : Inherited Q) {v : Json} (hv : Q v) {c : Contract}
    (h : load v = .ok c) : c.Settled Q :=
  gives_settled hQ v hv c (load_eq_ok_iff.1 h).2.1

/-- **What loading gives is a fixed point of writing and loading.** -/
theorem load_toJson_of_load {v : Json} {c : Contract} (h : load v = .ok c) :
    load c.toJson = .ok c := by
  obtain ⟨-, -, hcheck⟩ := load_eq_ok_iff.1 h
  obtain ⟨hname, hcontroller, -, -⟩ := check_eq_ok_iff.1 hcheck
  have hsettled : c.Settled fun _ => True :=
    settled_of_load ⟨fun _ _ _ => trivial, fun _ _ _ => trivial⟩ (v := v) trivial h
  have hagain := Contract.reads (R := jsonRendition) hsettled.readable c.toJson rfl
  rw [settled_eq_self hsettled] at hagain
  exact load_eq_ok_iff.2 ⟨checkContract_toJson hname hcontroller, hagain, hcheck⟩

/-- A contract in unusual spellings: members out of order, records and tags as lists, white space
inside a tag, every shape of a validation, `null` for what is absent, and options of its own. -/
def unusual : Json :=
  .object
    [("controllerName", .string "Account"), ("contractName", .string "Account"),
     ("fields", .array
       [.object
         [("protoType", .string " string [] []\n"), ("propertyKey", .string "aliases"),
          ("nullable", .null),
          ("validations", .array
            [.string "IsOptional",
             .array [.string "MinLength", .object [("min", .number (.integer 2 (by decide)))]],
             .object
               [("message", .null), ("name", .string "IsEmail"), ("context", .array [.null])]]),
          ("link", .array [.array [.string "User", .null]]),
          ("customDecorator", .object
            [("Track", .object [("import", .string "./track")]),
             ("Audit", .array [.string "./audit", .bool true])])]]),
     ("indexes", .array [.array [.string "byAlias", .array [.string "aliases"], .null]]),
     ("options", .object
       [("tier", .object [("level", .null)]), ("tags", .array [.string "public"]),
        ("beta", .bool false)])]

def ofUnusual : Contract :=
  { named "Account" "Account" with
    fields := [{ Field.plain "aliases" (.list (.list (.known .string))) with
      validations :=
        [.ofKind (.name "IsOptional"),
         .ofKind (.tuple
           [.string "MinLength", .object [("min", .number (.integer 2 (by decide)))]]),
         ⟨.name "IsEmail", none, none, some (.array [.null])⟩]
      link := [.to "User"]
      decorators := [("Track", ⟨"./track", none⟩), ("Audit", ⟨"./audit", some (.bool true)⟩)] }]
    indexes := [⟨"byAlias", ["aliases"], none⟩]
    options := some { ContractOptions.empty with
      tags := ["public"]
      extra := [("tier", .object [("level", .null)]), ("beta", .bool false)] } }

theorem load_unusual : load unusual = .ok ofUnusual := by decide +kernel

/-- The contract is not spelled as it was, and yet loads as the same contract. -/
theorem load_toJson_ofUnusual :
    load unusual = .ok ofUnusual ∧ ofUnusual.toJson ≠ unusual ∧
      load ofUnusual.toJson = .ok ofUnusual :=
  ⟨load_unusual, by decide, load_toJson_of_load load_unusual⟩

end Contract

end ContractCompiler
