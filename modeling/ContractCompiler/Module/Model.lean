import ContractCompiler.Contract.Check
import ContractCompiler.Failure
import ContractCompiler.Layout.Basic
import ContractCompiler.Module.Code
import ContractCompiler.Module.FastSchema
import ContractCompiler.Module.Message
import ContractCompiler.Text.Basic
import ContractCompiler.Text.Case

/-!
# The module of a model

`Contract.modelModule` assembles everything that one contract becomes: imports, interface, class,
schema structure and messages. `ModelModule.render` is its text, and `Contract.emitModel` both.

The model of `ModelEmitter`, and of `emit_model`.
-/

namespace ContractCompiler

structure InterfaceCode where
  name : String
  members : List MemberDeclaration

def InterfaceCode.render (i : InterfaceCode) : String :=
  "export interface " ++ i.name ++ " \x7b\n" ++
    String.join (i.members.map MemberDeclaration.line) ++ "\x7d\n"

/-- A call of a callback once validation has succeeded. -/
structure ValidationHook where
  key : String
  callback : String

/-- The statement of a hook. -/
def ValidationHook.text (h : ValidationHook) : String :=
  "item." ++ h.key ++ " = Callbacks.resolve(" ++ Json.quote h.callback ++ ")(item." ++ h.key ++ ");"

/-- The class of a model. -/
structure ClassCode where
  model : String
  interfaceName : String
  /-- The decorations of the class itself. -/
  decorations : List Decoration
  identity : Option MemberCode
  fields : List (Placed MemberCode)
  hooks : List ValidationHook

namespace ClassCode

/-- Everything that has to be imported for the class. -/
def requests (c : ClassCode) : List ImportRequest :=
  c.decorations.map Decoration.request ++ c.identity.toList.flatMap MemberCode.requests ++
    (c.fields.filterMap Placed.code?).flatMap MemberCode.requests ++
    (if c.hooks.isEmpty then [] else [.core "Callbacks"])

/-- The method that runs the hooks, if there are any. -/
def hookMethod (c : ClassCode) : String :=
  if c.hooks.isEmpty then ""
  else
    methodCode "public override afterValidation(item: this)"
      (c.hooks.map ValidationHook.text ++ ["return item;"]) ++ "\n"

def render (c : ClassCode) : String :=
  String.join (c.decorations.map fun a => a.text ++ "\n") ++
    "export class " ++ c.model ++ " extends AbstractModel implements " ++ c.interfaceName ++
    " \x7b\n" ++
    String.join (c.identity.toList.map fun m => m.render ++ "\n") ++
    String.join (c.fields.map (Placed.render MemberCode.render)) ++
    methodCode ("constructor(partial: Partial<" ++ c.model ++ ">)")
      ["super();", "Object.assign(this, partial);"] ++
    "\n" ++ factories "public " c.model ++ "\n" ++ c.hookMethod ++
    methodCode "public override toString()" ["return " ++ serializerName c.model ++ "(this);"] ++
    "\x7d\n"

end ClassCode

/-- Everything that a contract becomes. -/
structure ModelModule where
  generatedName : String
  model : String
  imports : ImportSet
  interfaceCode : InterfaceCode
  classCode : ClassCode
  schema : SchemaNode
  messages : List (Placed MessageCode)

def ModelModule.render (m : ModelModule) : String :=
  Text.normalized
    ("// Generated from " ++ m.generatedName ++ ". Do not edit.\n\n" ++ m.imports.render ++ "\n" ++
      m.interfaceCode.render ++ "\n" ++ m.classCode.render ++ "\n" ++
      schemaBlock m.model m.schema ++ "\n" ++
      String.join (m.messages.map (Placed.render MessageCode.render)))

/-- The last segment of an import source. -/
def lastSegment (source : List Char) : List Char := (source.reverse.takeWhile (· != '/')).reverse

/-- The binding of a whole-module import: the last segment of its source without leading `@`, in
lower camel case. -/
def moduleBinding (source : String) : String :=
  String.ofList (Text.lowerCamel ((lastSegment source.toList).dropWhile (· == '@')))

/-- The import that a contract asks for, when its source gives a usable binding
(`namespace_import`). -/
def moduleRequest (source : String) : List ImportRequest :=
  if Text.isIdentifier (moduleBinding source) then [.wholeModule (moduleBinding source) source]
  else []

namespace Contract

/-- The identity in the interface of a model. -/
def identityMember (c : Contract) (ctx : EmissionContext) : List MemberDeclaration :=
  (ctx.identityKey c.modelName).toList.map fun id =>
    ⟨id, true, if ctx.usesDocumentIdentity c.modelName then "ObjectId" else "any", none⟩

/-- A field in the interface of its model. A linked field has a companion for its key, unless a
field of that name is declared. -/
def interfaceMembers (c : Contract) (ctx : EmissionContext) (links : Table LinkTarget) (f : Field) :
    List MemberDeclaration :=
  if !Text.isIdentifier f.propertyKey then []
  else
    match links.get? f.propertyKey with
    | none => [⟨f.propertyKey, f.isOptional, f.declaredType, none⟩]
    | some _ =>
      let types := ["object", "string", "string[]"] ++
        (if ctx.usesDocumentIdentity c.modelName then ["ObjectId"] else [])
      let companion := f.propertyKey ++ "Id"
      ⟨f.propertyKey, true, " | ".intercalate types, none⟩ ::
        (if (c.fields.map Field.propertyKey).contains companion then []
          else [⟨companion, true, "string", none⟩])

/-- The interface of a model (`ModelEmitter.interface`). -/
def interfaceCode (c : Contract) (ctx : EmissionContext) (links : Table LinkTarget) : InterfaceCode :=
  ⟨c.interfaceName, c.identityMember ctx ++ c.fields.flatMap (c.interfaceMembers ctx links)⟩

/-- The identity in the class of a model. -/
def identityCode (c : Contract) (ctx : EmissionContext) : Option MemberCode :=
  (ctx.identityKey c.modelName).map fun id =>
    { decorations :=
        [.expose, ⟨.validator, "IsOptional", ""⟩] ++
          (if ctx.capabilities.openapi then
            [.apiProperty ["type: String", "required: false", "readOnly: true"]] else []) ++
          (if ctx.capabilities.graphql then [.graphField "ID" true] else [])
      declaration :=
        ⟨id, true, if ctx.usesDocumentIdentity c.modelName then "ObjectId" else "any", none⟩
      needs := if ctx.capabilities.graphql then [.graphql "ID"] else [] }

/-- The field's callback once validation has succeeded, when the field was emitted. -/
def hookOf (f : Field) : Placed MemberCode → List ValidationHook
  | .emitted _ =>
    match f.afterValidation with
    | some callback => [⟨f.propertyKey, callback⟩]
    | none => []
  | .omitted _ _ => []

/-- The class of a model (`ModelEmitter.class`). -/
def classCode (c : Contract) (ctx : EmissionContext) (links : Table LinkTarget) :
    Except EmissionError ClassCode :=
  match Placed.all ctx.policy Field.propertyKey
      (fun f => f.code ctx (links.get? f.propertyKey)) c.fields with
  | .error e => .error e
  | .ok fields =>
    .ok
      { model := c.modelName
        interfaceName := c.interfaceName
        decorations := if ctx.capabilities.graphql then [⟨.graphql, "ObjectType", ""⟩] else []
        identity := c.identityCode ctx
        fields := fields
        hooks := (List.zipWith hookOf c.fields fields).flatten }

/-- The imports of linked models: one for each model other than the contract's own, in the order of
the fields (`linked_imports`). `seen` holds the models passed. -/
def linkedRequests (c : Contract) (contracts : List Contract) (resolver : Resolver)
    (seen : List String) : List Field → List ImportRequest
  | [] => []
  | f :: rest =>
    match f.link with
    | [] => c.linkedRequests contracts resolver seen rest
    | link :: _ =>
      match find? contracts link.contract with
      | none => c.linkedRequests contracts resolver seen rest
      | some target =>
        if target.modelName = c.modelName || seen.contains target.modelName then
          c.linkedRequests contracts resolver seen rest
        else
          .linked (resolver c target (c.isModuleContract != target.isModuleContract))
              [target.modelName, structureName target.modelName] ::
            c.linkedRequests contracts resolver (target.modelName :: seen) rest

/-- The imports of a model's module. -/
def moduleImports (c : Contract) (contracts : List Contract) (ctx : EmissionContext)
    (resolver : Resolver) (classCode : ClassCode) (messages : List (Placed MessageCode)) : ImportSet :=
  (ImportSet.base ctx.coreImport).addAll
    ((if ctx.usesDocumentIdentity c.modelName then [.storage] else []) ++
      c.linkedRequests contracts resolver [] c.fields ++ c.imports.flatMap moduleRequest ++
      classCode.requests ++ (messages.filterMap Placed.code?).flatMap MessageCode.requests)

/-- The module of a contract in a set of contracts (`ModelEmitter.emit`). -/
def modelModule (c : Contract) (contracts : List Contract) (ctx : EmissionContext)
    (resolver : Resolver) : Except Failure ModelModule :=
  match c.check with
  | .error e => .error (.schema e)
  | .ok () =>
    match c.resolveLinks contracts with
    | .error e => .error (.schema e)
    | .ok links =>
      match c.classCode ctx links with
      | .error e => .error (.emission e)
      | .ok classCode =>
        match Placed.all ctx.policy Message.name (fun m => m.code ctx.capabilities) c.messages with
        | .error e => .error (.emission e)
        | .ok messages =>
          .ok
            { generatedName := c.generatedName
              model := c.modelName
              imports := c.moduleImports contracts ctx resolver classCode messages
              interfaceCode := c.interfaceCode ctx links
              classCode := classCode
              schema := c.schemaStructure links ctx
              messages := messages }

/-- The text of a contract's module (`emit_model`). -/
def emitModel (c : Contract) (contracts : List Contract) (ctx : EmissionContext)
    (resolver : Resolver) : Except Failure String :=
  match c.modelModule contracts ctx resolver with
  | .error e => .error e
  | .ok m => .ok m.render

end Contract

end ContractCompiler
