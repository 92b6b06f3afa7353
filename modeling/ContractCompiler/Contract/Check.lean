import ContractCompiler.Contract.Basic
import ContractCompiler.Failure
import ContractCompiler.Text.Basic

/-!
# Well-formed contracts

A contract needs a name, a controller name, and fields whose keys are not blank and differ from each
other; its links have to lead to contracts of the same set.

Principal definitions: `Json.checkContract` (`validate_raw_contract`), `Contract.check`
(`validate_contract`), `Contract.resolveLinks` (`resolve_links`).
-/

namespace ContractCompiler

/-! ## Outlines and keys

`Json.checkContract` asks the same of a value that is not a contract yet, as far as its shape can be
seen; `Contract.check` asks it of a contract and reports the first offence.
-/

namespace Json

/-- The member is a text that is not blank (`is_non_empty_str`). -/
def hasName (v : Json) (member : String) : Bool :=
  match v.member? member with
  | some (.string s) => !Text.isBlankText s
  | _ => false

/-- The text of a member, empty when it is none. -/
def nameOf (v : Json) (member : String) : String :=
  match v.member? member with
  | some (.string s) => s
  | _ => ""

/-- The value has the outline of a contract (`validate_raw_contract`). -/
def checkContract (v : Json) : Except SchemaError Unit :=
  match v with
  | .object _ =>
    if !v.hasName "contractName" then .error .contractNameRequired
    else if !v.hasName "controllerName" then
      .error (.controllerNameRequired (v.nameOf "contractName"))
    else
      match v.member? "fields" with
      | some (.array _) => .ok ()
      | some _ => .error (.fieldsNotAnArray (v.nameOf "contractName"))
      | none => .error (.fieldsRequired (v.nameOf "contractName"))
  | _ => .error .notAnObject

end Json

namespace Contract

/-- Checks the keys of fields in order; `seen` holds the keys passed. -/
def checkKeys (contract : String) (seen : List String) : List Field → Except SchemaError Unit
  | [] => .ok ()
  | f :: rest =>
    if Text.isBlankText f.propertyKey then .error (.propertyKeyRequired contract)
    else if seen.contains f.propertyKey then .error (.duplicatePropertyKey f.propertyKey contract)
    else checkKeys contract (f.propertyKey :: seen) rest

/-- Reports the first offence of a contract (`validate_contract`). -/
def check (c : Contract) : Except SchemaError Unit :=
  if Text.isBlankText c.contractName then .error .contractNameRequired
  else if Text.isBlankText c.controllerName then .error (.controllerNameRequired c.contractName)
  else checkKeys c.contractName [] c.fields

end Contract

/-! ## Links between contracts

A linked field refers to a contract of the same set by its name or its generated name.
-/

/-- The model that a linked field refers to. -/
structure LinkTarget where
  model : String
  /-- The relation holds many entities. -/
  many : Bool
deriving DecidableEq, Repr

namespace Contract

/-- The contract goes by the name, as written or with its ending. -/
def answersTo (c : Contract) (name : String) : Bool :=
  c.contractName == name || c.generatedName == name

/-- The first contract of a set that goes by the name (`find_contract`). -/
def find? (contracts : List Contract) (name : String) : Option Contract :=
  contracts.find? fun c => c.answersTo name

/-- A declared entity type has to be one of the target's names. -/
def isEntityName (target : Contract) (entity : String) : Bool :=
  [target.modelName, target.contractName, target.generatedName].contains entity

/-- The model behind a linked field, which is given with its first link. -/
def resolveLink (c : Contract) (contracts : List Contract) (f : Field) (link : Link) :
    Except SchemaError LinkTarget :=
  match find? contracts link.contract with
  | none => .error (.unknownLink f.propertyKey link.contract c.contractName)
  | some target =>
    let resolved : LinkTarget := ⟨target.modelName, link.array || f.isRepeated⟩
    match f.entityType with
    | none => .ok resolved
    | some entity =>
      if target.isEntityName entity then .ok resolved
      else .error (.entityMismatch f.propertyKey entity target.modelName c.contractName)

/-- Resolves the linked fields of a list in order, after those in `links`. -/
def resolveFields (c : Contract) (contracts : List Contract) (links : Table LinkTarget) :
    List Field → Except SchemaError (Table LinkTarget)
  | [] => .ok links
  | f :: rest =>
    match f.link with
    | [] => c.resolveFields contracts links rest
    | link :: _ =>
      match c.resolveLink contracts f link with
      | .error e => .error e
      | .ok target => c.resolveFields contracts (links.put f.propertyKey target) rest

/-- The models behind the linked fields of a contract, by property key (`resolve_links`). -/
def resolveLinks (c : Contract) (contracts : List Contract) : Except SchemaError (Table LinkTarget) :=
  c.resolveFields contracts [] c.fields

end Contract

end ContractCompiler
