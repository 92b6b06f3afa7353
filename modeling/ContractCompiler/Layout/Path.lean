/-!
# Paths

A `Path` keeps its text as written. Its components ignore repeated separators and every `.` but a
leading one; joining an absolute path replaces the path.
-/

namespace ContractCompiler

/-- A path as written. -/
structure Path where
  text : String
deriving DecidableEq, Repr

inductive PathComponent where
  /-- The root of an absolute path. -/
  | root
  /-- A leading `.`. -/
  | here
  /-- `..`. -/
  | up
  | name (s : String)
deriving DecidableEq, Repr

def PathComponent.text : PathComponent → String
  | root => "/"
  | here => "."
  | up => ".."
  | name s => s

namespace Path

/-- The pieces between separators. -/
def pieces (piece : List Char) : List Char → List (List Char)
  | [] => [piece.reverse]
  | c :: rest => if c = '/' then piece.reverse :: pieces [] rest else pieces (c :: piece) rest

/-- The path starts at the root. -/
def isAbsolute (p : Path) : Bool :=
  match p.text.toList with
  | '/' :: _ => true
  | _ => false

/-- The component of a piece that is neither empty nor `.`. -/
def componentOf (piece : List Char) : PathComponent :=
  if piece = ['.', '.'] then .up else .name (String.ofList piece)

/-- The components of pieces that are neither empty nor `.`. -/
def componentsOf (ps : List (List Char)) : List PathComponent :=
  (ps.filter fun p => !p.isEmpty && p != ['.']).map componentOf

def components (p : Path) : List PathComponent :=
  match pieces [] p.text.toList with
  | [] => []
  | first :: rest =>
    let lead : List PathComponent :=
      if p.isAbsolute then [.root] else if first = ['.'] then [.here] else []
    lead ++ componentsOf (first :: rest)

/-- The path `q` as seen from `p`: an absolute `q` stands for itself. -/
def join (p : Path) (q : String) : Path :=
  if (Path.mk q).isAbsolute then ⟨q⟩
  else if p.text.toList.getLast?.any (· != '/') then ⟨p.text ++ "/" ++ q⟩
  else ⟨p.text ++ q⟩

/-- What stands before the names of a path: the root, or a leading `.`. -/
def lead : List Char → List Char
  | '/' :: _ => ['/']
  | ['.'] => ['.']
  | '.' :: '/' :: _ => ['.']
  | _ => []

/-- The end of a path, last character first, without separators and `.` that say nothing. -/
def trimEnd : List Char → List Char
  | '/' :: rest => trimEnd rest
  | '.' :: '/' :: rest => trimEnd rest
  | ['.'] => []
  | cs => cs

/-- The end of a path, last character first, without its last name. -/
def dropName (cs : List Char) : List Char := trimEnd (cs.dropWhile (· != '/'))

/-- The path of the directory that holds a path, as far as it is written; none for the root and the
empty path. -/
def parent? (p : Path) : Option Path :=
  let front := lead p.text.toList
  match trimEnd (p.text.toList.drop front.length).reverse with
  | [] => if front = ['.'] then some ⟨""⟩ else none
  | c :: cs => some ⟨String.ofList (front ++ (dropName (c :: cs)).reverse)⟩

/-- The components after those of `base`, when the path begins with them. -/
def componentsBelow? (p : Path) (base : Path) : Option (List PathComponent) :=
  if base.components.isPrefixOf p.components then some (p.components.drop base.components.length)
  else none

def fileName? (p : Path) : Option String :=
  match p.components.getLast? with
  | some (.name s) => some s
  | _ => none

/-- The text after the last point of a file name that does not merely begin with it. -/
def fileExtension? (name : String) : Option String :=
  let after := name.toList.reverse.takeWhile (· != '.')
  match name.toList.reverse.dropWhile (· != '.') with
  | [] => none
  | [_] => none
  | _ :: _ :: _ => some (String.ofList after.reverse)

end Path

end ContractCompiler
