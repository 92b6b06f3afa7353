import ContractCompiler.Decode.Fault
import ContractCompiler.Yaml.Node
import ContractCompiler.Yaml.Token.Stream

/-!
# Values of YAML documents

A `Value` is a node of a document at the place where it is read. Aliases are followed when they are
read and not before, so what is passed over costs nothing and may even contain itself. A document
allows a hundred aliases to be followed for each unit of its size, and containers to be entered 128
deep.
-/

namespace ContractCompiler.Yaml

/-- The anchored nodes of a document by their numbers, the last one first, and how often aliases may
be followed. -/
structure Anchored where
  nodes : List (Nat × Node Nat)
  limit : Nat

/-- A node of a document, where it is read. -/
structure Value where
  anchored : Anchored
  path : Decode.Path
  /-- How many containers may still be entered. -/
  depth : Nat
  /-- No node stands for a text without a document. -/
  node? : Option (Node Nat)

/-- Readings that follow aliases and count how often they do. -/
abbrev Following : Type → Type := StateT Nat (Except Decode.Fault)

namespace Value

/-- How deep containers may nest. -/
def maxDepth : Nat := 128

/-- How often aliases may be followed for each unit of the document's size. -/
def aliasesPerSize : Nat := 100

/-- The root of a document. -/
def ofNumbered (n : Numbered (Node Nat)) : Value :=
  ⟨⟨n.anchored.reverse, aliasesPerSize * n.node.size⟩, [], maxDepth, some n.node⟩

/-- The value of a text without a document. -/
def void : Value := ⟨⟨[], 0⟩, [], maxDepth, none⟩

/-- The value of a text. -/
def ofText (text : String) : Except Decode.Fault Value :=
  match (Token.stream text.toList).bind Node.document? with
  | none => .error .unreadable
  | some none => .ok void
  | some (some root) =>
    match root.number [] with
    | none => .error .unreadable
    | some n => .ok (ofNumbered n)

/-- A node in the container that the value is. -/
def inner (v : Value) (path : Decode.Path) (n : Node Nat) : Value :=
  { v with path := path, depth := v.depth - 1, node? := some n }

/-- The step to the value of a key. -/
def stepOfKey : Node Nat → Decode.Step
  | .scalar _ _ text => .key text
  | _ => .unknown

/-- The items of the container that the value is, the first one at `index`. -/
def itemsFrom (v : Value) (index : Nat) : List (Node Nat) → List Value
  | [] => []
  | n :: rest => v.inner (.index index :: v.path) n :: v.itemsFrom (index + 1) rest

/-- The entries of the container that the value is. A key stands where its map stands. -/
def entriesOf (v : Value) (entries : List (Node Nat × Node Nat)) : List (Value × Value) :=
  entries.map fun e => (v.inner v.path e.1, v.inner (stepOfKey e.1 :: v.path) e.2)

/-- What a value is, on its surface. -/
inductive Form where
  /-- A text without a document. -/
  | void
  | scalar (tag? : Option Tag) (style : ScalarStyle) (text : String)
  | sequence (tag? : Option Tag) (items : List Value)
  | mapping (tag? : Option Tag) (entries : List (Value × Value))

/-- The form of a value; an alias has none of its own. -/
def form (v : Value) : Form :=
  match v.node? with
  | some (.scalar p style text) => .scalar p.tag? style text
  | some (.sequence p items) => .sequence p.tag? (v.itemsFrom 0 items)
  | some (.mapping p entries) => .mapping p.tag? (v.entriesOf entries)
  | some (.reference _) | none => .void

/-- The value itself, or what its alias stands for at the same place. -/
def follow (v : Value) : Following Value :=
  match v.node? with
  | some (.reference i) => do
    let followed ← get
    if v.anchored.limit < followed + 1 then throw .aliasLimit
    else
      set (followed + 1)
      pure { v with node? := (v.anchored.nodes.find? fun n => n.1 == i).map (·.2) }
  | _ => pure v

end Value

end ContractCompiler.Yaml
