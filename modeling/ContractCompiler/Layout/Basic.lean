import ContractCompiler.Config.Basic
import ContractCompiler.Contract.Basic
import ContractCompiler.Layout.Path

/-!
# Where models go, and how modules find each other

Models of module contracts live below the source directory, all others below the generated
directory. An import specifier is a relative path between two model files, or an alias followed by
the place of the target in its output directory.

The model of `OutputLayout` and of `LayoutResolver`.
-/

namespace ContractCompiler

/-- The output directories of a project, relative to its root (`OutputLayout`). -/
structure Layout where
  generatedDir : Path
  sourceDir : Path
  /-- What stands for both directories in aliased specifiers. -/
  alias? : Option String
deriving DecidableEq, Repr

/-- Chooses the specifier by which the first contract's module imports the second one's; the flag
asks for an alias (`ImportResolver`). -/
abbrev Resolver := Contract → Contract → Bool → String

namespace Layout

def ofConfig (config : Config) : Layout :=
  ⟨⟨config.app.generatedDir⟩, ⟨config.app.sourceDir⟩, config.app.importAlias⟩

/-- The directory of a contract's model. -/
def modelDir (l : Layout) (c : Contract) : Path :=
  (if c.isModuleContract then l.sourceDir else l.generatedDir).join "models"

/-- The file of a contract's model. -/
def modelPath (l : Layout) (c : Contract) : Path := (l.modelDir c).join (c.fileStem ++ ".ts")

/-- The components other than `.`. -/
def namedComponents (cs : List PathComponent) : List PathComponent := cs.filter (· != .here)

/-- The length of the longest common front. -/
def commonLength : List PathComponent → List PathComponent → Nat
  | a :: as, b :: bs => if a = b then commonLength as bs + 1 else 0
  | _, _ => 0

/-- The steps from one directory to another (`relative_dir`). -/
def stepsBetween (from' to' : List PathComponent) : List String :=
  let common := commonLength from' to'
  List.replicate (from'.length - common) ".." ++ (to'.drop common).map PathComponent.text

/-- The specifier relative to the importing module's directory. -/
def relativeSpecifier (l : Layout) (importer target : Contract) : String :=
  let steps :=
    stepsBetween (namedComponents (l.modelDir importer).components)
      (namedComponents (l.modelDir target).components)
  let way := "/".intercalate steps
  if way.isEmpty then "./" ++ target.fileStem else way ++ "/" ++ target.fileStem

/-- The text without trailing separators. -/
def withoutTrailingSlashes (s : String) : String :=
  String.ofList (s.toList.reverse.dropWhile (· == '/')).reverse

/-- The place of a contract's model in its output directory. -/
def placeInOutput (l : Layout) (c : Contract) : List PathComponent :=
  let dir := l.modelDir c
  match dir.componentsBelow? l.generatedDir with
  | some place => place
  | none =>
    match dir.componentsBelow? l.sourceDir with
    | some place => place
    | none => dir.components

/-- The specifier below an alias (`join_specifier`). -/
def aliasedSpecifier (l : Layout) (stem : String) (target : Contract) : String :=
  withoutTrailingSlashes stem ++
    String.join ((namedComponents (l.placeInOutput target)).map fun c => "/" ++ c.text) ++
    "/" ++ target.fileStem

/-- The specifier by which the importer's module imports the target's (`LayoutResolver.resolve`). -/
def resolve (l : Layout) : Resolver := fun importer target useAlias =>
  match useAlias, l.alias? with
  | true, some stem => l.aliasedSpecifier stem target
  | _, _ => l.relativeSpecifier importer target

end Layout

end ContractCompiler
