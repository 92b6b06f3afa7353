import ContractCompiler.Module.Field

/-!
# Messages in a generated module

A message becomes an interface of its shape and a class that converts to and from plain data.

The model of `emit_message`.
-/

namespace ContractCompiler

/-- The declared type of a property (`property_type`). -/
def Property.declaredType (p : Property) : String :=
  let base := p.type.baseTarget p.arrayType
  if p.isList then listType base else base

def Property.docType (p : Property) : String := p.type.docType p.arrayType p.isList

/-- The property in the interface of its message. -/
def Property.interfaceMember (key : String) (p : Property) : MemberDeclaration :=
  ⟨key, p.isOptional, p.declaredType, none⟩

/-- The property in the class of its message. -/
def Property.code (capabilities : CapabilitySet) (key : String) (p : Property) : MemberCode where
  decorations :=
    (if capabilities.openapi then
      [.apiProperty
        ["type: " ++ p.docType, "required: " ++ Field.booleanLiteral (!p.isOptional)]]
      else []) ++ [.expose]
  declaration := ⟨key, p.isOptional, p.declaredType, p.default.map fun v => defaultLiteral v false⟩
  needs := []

/-- The generated code of a message. -/
structure MessageCode where
  interfaceName : String
  className : String
  interfaceMembers : List MemberDeclaration
  classMembers : List MemberCode
deriving DecidableEq, Repr

namespace MessageCode

/-- Everything that has to be imported for the message. -/
def requests (m : MessageCode) : List ImportRequest :=
  [.transformer "Expose", .transformer "instanceToPlain", .transformer "plainToInstance"] ++
    m.classMembers.flatMap MemberCode.requests

/-- The text of the interface and the class. -/
def render (m : MessageCode) : String :=
  "export interface " ++ m.interfaceName ++ " \x7b\n" ++
    String.join (m.interfaceMembers.map MemberDeclaration.line) ++ "\x7d\n\n" ++
    "export class " ++ m.className ++ " implements " ++ m.interfaceName ++ " \x7b\n" ++
    String.join (m.classMembers.map fun c => c.render ++ "\n") ++
    methodCode ("constructor(partial: Partial<" ++ m.className ++ ">)")
      ["Object.assign(this, partial);"] ++
    "\n" ++ methodCode "serialize()" ["return instanceToPlain(this);"] ++ "\n" ++
    factories "" m.className ++ "\x7d\n"

end MessageCode

namespace Message

/-- `dto_class_name`. -/
def className (m : Message) : String := m.name ++ "DTO"

/-- The code of a message. Its name and the names of its properties have to be identifiers
(`emit_message`). -/
def code (m : Message) (capabilities : CapabilitySet) : Except EmissionError MessageCode :=
  if !Text.isIdentifier m.name then .error ⟨m.name, .invalidMessageName⟩
  else
    match m.properties.find? fun p => !Text.isIdentifier p.1 with
    | some p => .error ⟨p.1, .invalidMessageProperty m.name⟩
    | none =>
      .ok
        { interfaceName := m.name
          className := m.className
          interfaceMembers := m.properties.map fun p => p.2.interfaceMember p.1
          classMembers := m.properties.map fun p => p.2.code capabilities p.1 }

end Message

end ContractCompiler
