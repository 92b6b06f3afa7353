import ContractCompiler.Config.Basic
import ContractCompiler.Failure
import ContractCompiler.Json.Printer
import ContractCompiler.Module.Import

/-!
# Pieces of generated code

Decorations and members of generated interfaces and classes, as data. A `Decoration` knows where
its name comes from, so what a piece of code needs to import can be read off it.
-/

namespace ContractCompiler

/-- The indentation unit of generated code. -/
def indent : String := "    "

def indentBy (depth : Nat) : String := String.join (List.replicate depth indent)

/-- An object literal on one line. -/
def inlineObject (members : List String) : String := "\x7b " ++ ", ".intercalate members ++ " \x7d"

/-- A default as an expression: text is quoted unless it is code already. -/
def defaultLiteral (value : Json) (raw : Bool) : String :=
  match value, raw with
  | .string s, true => s
  | v, _ => v.compact

/-- Where a decoration's name comes from. -/
inductive DecorationSource where
  | core
  | transformer
  | validator
  | openapi
  | graphql
  | custom (source : String)
deriving DecidableEq, Repr

/-- A decoration, `@name(arguments)`. -/
structure Decoration where
  source : DecorationSource
  /-- The name under which its source exports it. -/
  name : String
  arguments : String
deriving DecidableEq, Repr

namespace Decoration

/-- What has to be imported for the decoration. -/
def request (a : Decoration) : ImportRequest :=
  match a.source with
  | .core => .core a.name
  | .transformer => .transformer a.name
  | .validator => .validator a.name
  | .openapi => .openapi a.name
  | .graphql => .graphql a.name
  | .custom source => .custom source a.name

/-- The name that the decoration is written with. -/
def writtenName (a : Decoration) : String :=
  match a.source with
  | .graphql => graphqlBinding a.name
  | _ => a.name

def text (a : Decoration) : String := "@" ++ a.writtenName ++ "(" ++ a.arguments ++ ")"

/-- The decoration of API documentation that describes a property. -/
def apiProperty (options : List String) : Decoration := ⟨.openapi, "ApiProperty", inlineObject options⟩

/-- The decoration of a graph query that gives a property's type. -/
def graphField (type : String) (nullable : Bool) : Decoration :=
  ⟨.graphql, "Field",
    "() => " ++ type ++ ", \x7b nullable: " ++ (if nullable then "true" else "false") ++ " \x7d"⟩

/-- The decoration that exposes a property. -/
def expose : Decoration := ⟨.transformer, "Expose", ""⟩

end Decoration

/-- A member of an interface or class, `key?: type = initial;`. -/
structure MemberDeclaration where
  key : String
  optional : Bool
  type : String
  initial : Option String
deriving DecidableEq, Repr

namespace MemberDeclaration

def text (d : MemberDeclaration) : String :=
  d.key ++ (if d.optional then "?" else "") ++ ": " ++ d.type ++
    (match d.initial with
      | some v => " = " ++ v
      | none => "") ++ ";"

/-- The declaration on an indented line of its own. -/
def line (d : MemberDeclaration) : String := indent ++ d.text ++ "\n"

end MemberDeclaration

/-- A class member with its decorations. -/
structure MemberCode where
  decorations : List Decoration
  declaration : MemberDeclaration
  /-- What the decorations' arguments and the declared type need besides the decorations. -/
  needs : List ImportRequest
deriving DecidableEq, Repr

namespace MemberCode

/-- Everything that has to be imported for the member. -/
def requests (m : MemberCode) : List ImportRequest := m.decorations.map Decoration.request ++ m.needs

/-- The lines of the member without indentation. -/
def lines (m : MemberCode) : List String := m.decorations.map Decoration.text ++ [m.declaration.text]

/-- The member on indented lines. -/
def render (m : MemberCode) : String := String.join (m.lines.map fun l => indent ++ l ++ "\n")

end MemberCode

/-- The options of every projection onto a class (`PROJECTION_OPTIONS`). -/
def projectionOptions : String :=
  inlineObject
    ["exposeUnsetFields: false", "enableImplicitConversion: true", "excludeExtraneousValues: true"]

/-- A method of a generated class: its head without the brace, and the lines of its body. -/
def methodCode (head : String) (body : List String) : String :=
  indent ++ head ++ " \x7b\n" ++ String.join (body.map fun l => indent ++ indent ++ l ++ "\n") ++
    indent ++ "\x7d\n"

/-- The methods that make an instance of a class from part of one and from a stored entity. -/
def factories (modifier className : String) : String :=
  methodCode
      (modifier ++ "static fromPartial(partial: Partial<" ++ className ++ ">): " ++ className)
      ["return plainToInstance(" ++ className ++ ", partial, " ++ projectionOptions ++ ");"] ++
    "\n" ++
    methodCode (modifier ++ "static fromEntity(entity: any): " ++ className)
      ["return plainToInstance(" ++ className ++ ", entity, " ++ projectionOptions ++ ");"]

/-! ## Parts that may be left out

Under the placeholder policy a comment takes the place of a part that cannot be emitted.
-/

/-- A part of a module, or the comment in its place. -/
inductive Placed (α : Type) where
  | emitted (code : α)
  | omitted (name : String) (error : EmissionError)
deriving DecidableEq, Repr

namespace Placed

variable {α β : Type}

/-- The part, when it was emitted. -/
def code? : Placed α → Option α
  | emitted a => some a
  | omitted _ _ => none

/-- The text of the part, followed by an empty line. -/
def render (write : α → String) : Placed α → String
  | emitted a => write a ++ "\n"
  | omitted name e => indent ++ "// '" ++ name ++ "' omitted: " ++ e.text ++ "\n\n"

/-- What becomes of one part under a policy (`ModelEmitter.on_failure`). -/
def ofResult (policy : EmissionPolicy) (name : String) : Except EmissionError α →
    Except EmissionError (Placed α)
  | .ok a => .ok (emitted a)
  | .error e =>
    match policy with
    | .strict => .error e
    | .placeholder => .ok (omitted name e)

/-- Emits parts in order; under the strict policy the first failure ends the module. -/
def all (policy : EmissionPolicy) (name : β → String) (emit : β → Except EmissionError α) :
    List β → Except EmissionError (List (Placed α))
  | [] => .ok []
  | b :: rest =>
    match ofResult policy (name b) (emit b) with
    | .error e => .error e
    | .ok p =>
      match all policy name emit rest with
      | .error e => .error e
      | .ok ps => .ok (p :: ps)

end Placed

end ContractCompiler
