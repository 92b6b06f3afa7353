import ContractCompiler.Collection.Keyed
import ContractCompiler.Yaml.Token

/-!
# Nodes of YAML

The tree that tokens write. A node may carry an anchor and a tag; an alias stands for an anchored
node. `Node.document` reads the tokens of a text, which must hold no more than one document.
-/

namespace ContractCompiler.Yaml

/-- What may stand before a node. -/
structure Properties where
  anchor? : Option String
  tag? : Option Tag
deriving DecidableEq, Repr

/-- No properties. -/
def Properties.absent : Properties := ⟨none, none⟩

def Properties.isEmpty (p : Properties) : Bool := p.anchor?.isNone && p.tag?.isNone

/-- A node whose aliases refer to their nodes by `α`. -/
inductive Node (α : Type) where
  | reference (target : α)
  | scalar (properties : Properties) (style : ScalarStyle) (text : String)
  | sequence (properties : Properties) (items : List (Node α))
  | mapping (properties : Properties) (entries : List (Node α × Node α))
deriving Repr

namespace Node

/-- A node that is not written. -/
def blank (properties : Properties) : Node String := .scalar properties .plain ""

/-- What is left of the tokens after something was read. -/
abbrev Reading (α : Type) := Option (α × List Token)

/-- The tag that a mark stands for, by the meanings of handles. -/
def tagOf? (handles : Table Tag) (mark : TagMark) : Option Tag :=
  if mark.handle.isEmpty then some mark.suffix
  else (handles.get? mark.handle).map fun meaning => meaning.append mark.suffix

/-- The properties of a node: an anchor and a tag, in either order. -/
def readProperties (handles : Table Tag) : List Token → Reading Properties
  | .anchor a :: .tag t :: rest => (tagOf? handles t).map fun t => (⟨some a, some t⟩, rest)
  | .tag t :: .anchor a :: rest => (tagOf? handles t).map fun t => (⟨some a, some t⟩, rest)
  | .anchor a :: rest => some (⟨some a, none⟩, rest)
  | .tag t :: rest => (tagOf? handles t).map fun t => (⟨none, some t⟩, rest)
  | rest => some (.absent, rest)

/-- The next token is one of a kind. -/
def startsWith (kind : Token → Bool) : List Token → Bool
  | [] => false
  | t :: _ => kind t

/-- Ends an entry of a block map. -/
def endsEntry (t : Token) : Bool := t == .key || t == .value || t == .blockEnd

def endsItem (t : Token) : Bool := t == .item || t == .blockEnd

/-- Ends an item of a list that is not indented further than its key. -/
def endsLooseItem (t : Token) : Bool := t == .item || endsEntry t

/-- Ends an item in square brackets. -/
def endsBracketItem (t : Token) : Bool := t == .comma || t == .closeBracket

/-- Ends an entry in braces. -/
def endsBraceEntry (t : Token) : Bool := t == .comma || t == .closeBrace

/-- The tokens after the comma that parts an element from the one before it. -/
def afterComma (first : Bool) : List Token → Option (List Token)
  | .comma :: rest => if first then some (.comma :: rest) else some rest
  | rest => if first then some rest else none

mutual

/-- Reads a node. `inBlock` allows block collections, and `loose` a list that is not indented further
than its key. -/
def read (handles : Table Tag) (inBlock loose : Bool) : Nat → List Token → Reading (Node String)
  | 0, _ => none
  | fuel + 1, tokens =>
    match tokens with
    | .reference name :: rest => some (.reference name, rest)
    | tokens =>
      match readProperties handles tokens with
      | none => none
      | some (p, rest) =>
        match rest, inBlock, loose with
        | .item :: _, _, true =>
          (readLooseItems handles fuel rest).map fun r => (.sequence p r.1, r.2)
        | .scalar style text :: rest, _, _ => some (.scalar p style text, rest)
        | .openBracket :: rest, _, _ =>
          (readBracketItems handles true fuel rest).map fun r => (.sequence p r.1, r.2)
        | .openBrace :: rest, _, _ =>
          (readBraceEntries handles true fuel rest).map fun r => (.mapping p r.1, r.2)
        | .sequenceStart :: rest, true, _ =>
          (readItems handles fuel rest).map fun r => (.sequence p r.1, r.2)
        | .mappingStart :: rest, true, _ =>
          (readEntries handles fuel rest).map fun r => (.mapping p r.1, r.2)
        | rest, _, _ => if p.isEmpty then none else some (blank p, rest)

/-- Reads a node, or none where its end follows at once. -/
def readUnless (ends : Token → Bool) (handles : Table Tag) (inBlock loose : Bool) :
    Nat → List Token → Reading (Node String)
  | 0, _ => none
  | fuel + 1, tokens =>
    if startsWith ends tokens then some (blank .absent, tokens)
    else read handles inBlock loose fuel tokens

/-- Reads the value of an entry, or none where no colon follows the key. -/
def readAfterColon (ends : Token → Bool) (handles : Table Tag) (inBlock loose : Bool) :
    Nat → List Token → Reading (Node String)
  | 0, _ => none
  | fuel + 1, .value :: rest => readUnless ends handles inBlock loose fuel rest
  | _ + 1, tokens => some (blank .absent, tokens)

/-- Reads the items of a block list. -/
def readItems (handles : Table Tag) : Nat → List Token → Reading (List (Node String))
  | 0, _ => none
  | fuel + 1, .item :: rest =>
    match readUnless endsItem handles true false fuel rest with
    | none => none
    | some (x, rest) => (readItems handles fuel rest).map fun r => (x :: r.1, r.2)
  | _ + 1, .blockEnd :: rest => some ([], rest)
  | _ + 1, _ => none

/-- Reads the items of a list that is not indented further than its key. -/
def readLooseItems (handles : Table Tag) : Nat → List Token → Reading (List (Node String))
  | 0, _ => none
  | fuel + 1, .item :: rest =>
    match readUnless endsLooseItem handles true false fuel rest with
    | none => none
    | some (x, rest) => (readLooseItems handles fuel rest).map fun r => (x :: r.1, r.2)
  | _ + 1, tokens => some ([], tokens)

/-- Reads the entries of a block map. -/
def readEntries (handles : Table Tag) :
    Nat → List Token → Reading (List (Node String × Node String))
  | 0, _ => none
  | fuel + 1, .key :: rest =>
    match readUnless endsEntry handles true true fuel rest with
    | none => none
    | some (k, rest) =>
      match readAfterColon endsEntry handles true true fuel rest with
      | none => none
      | some (v, rest) => (readEntries handles fuel rest).map fun r => ((k, v) :: r.1, r.2)
  | _ + 1, .blockEnd :: rest => some ([], rest)
  | _ + 1, _ => none

/-- Reads the items in square brackets. An item that begins with a key is a map of one entry; where
the key itself is missing, the token after its mark is passed over. -/
def readBracketItems (handles : Table Tag) (first : Bool) :
    Nat → List Token → Reading (List (Node String))
  | 0, _ => none
  | _ + 1, .closeBracket :: rest => some ([], rest)
  | fuel + 1, tokens =>
    match afterComma first tokens with
    | none => none
    | some (.closeBracket :: rest) => some ([], rest)
    | some (.key :: rest) =>
      let key : Reading (Node String) :=
        if startsWith (fun t => t == .value || endsBracketItem t) rest then
          some (blank .absent, rest.drop 1)
        else read handles false false fuel rest
      match key with
      | none => none
      | some (k, rest) =>
        match readAfterColon endsBracketItem handles false false fuel rest with
        | none => none
        | some (v, rest) =>
          (readBracketItems handles false fuel rest).map fun r =>
            (.mapping .absent [(k, v)] :: r.1, r.2)
    | some tokens =>
      match read handles false false fuel tokens with
      | none => none
      | some (x, rest) => (readBracketItems handles false fuel rest).map fun r => (x :: r.1, r.2)

/-- Reads the entries in braces; a node without a mark is a key without a value. -/
def readBraceEntries (handles : Table Tag) (first : Bool) :
    Nat → List Token → Reading (List (Node String × Node String))
  | 0, _ => none
  | _ + 1, .closeBrace :: rest => some ([], rest)
  | fuel + 1, tokens =>
    match afterComma first tokens with
    | none => none
    | some (.closeBrace :: rest) => some ([], rest)
    | some (.key :: rest) =>
      match readUnless (fun t => t == .value || endsBraceEntry t) handles false false fuel rest with
      | none => none
      | some (k, rest) =>
        match readAfterColon endsBraceEntry handles false false fuel rest with
        | none => none
        | some (v, rest) =>
          (readBraceEntries handles false fuel rest).map fun r => ((k, v) :: r.1, r.2)
    | some tokens =>
      match read handles false false fuel tokens with
      | none => none
      | some (k, rest) =>
        (readBraceEntries handles false fuel rest).map fun r => ((k, blank .absent) :: r.1, r.2)

end

/-! ## Documents -/

/-- The meanings of handles that no directive gives. -/
def defaultHandles : Table Tag := [("!", .lone), ("!!", .core "")]

/-- The directives before a document: the meanings of handles. Versions 1.1 and 1.2 are known; no
directive is repeated. -/
def readDirectives (versioned : Bool) (handles : Table Tag) : List Token → Reading (Table Tag)
  | .version major minor :: rest =>
    if versioned || major ≠ 1 || (minor ≠ 1 && minor ≠ 2) then none
    else readDirectives true handles rest
  | .handle name meaning :: rest =>
    if (handles.get? name).isSome then none
    else readDirectives versioned (handles.put name meaning) rest
  | rest => some (handles, rest)

/-- Handles with the default meanings of those that are not given. -/
def withDefaults (handles : Table Tag) : Table Tag :=
  defaultHandles.foldl (fun t d => if (t.get? d.1).isSome then t else t.put d.1 d.2) handles

/-- A document ends here. -/
def endsDocument : Token → Bool
  | .version .. | .handle .. | .documentStart | .documentEnd => true
  | _ => false

/-- Nothing but ends of documents is left. -/
def isOver (tokens : List Token) : Bool := tokens.all (· == .documentEnd)

/-- The root node and the tokens after it; directives need a mark before the document. -/
def readRoot (fuel : Nat) (tokens : List Token) : Reading (Node String) :=
  match tokens with
  | .version .. :: _ | .handle .. :: _ | .documentStart :: _ =>
    match readDirectives false [] tokens with
    | some (handles, .documentStart :: rest) =>
      if rest.isEmpty || startsWith endsDocument rest then some (blank .absent, rest)
      else read (withDefaults handles) true false fuel rest
    | _ => none
  | tokens => read defaultHandles true false fuel tokens

/-- The document that tokens write: no node for no document. -/
def document? (tokens : List Token) : Option (Option (Node String)) :=
  if tokens.isEmpty then some none
  else
    match readRoot (4 * tokens.length + 4) tokens with
    | some (root, rest) => if isOver rest then some (some root) else none
    | none => none

end Node

/-! ## Anchors

An anchored node gets a number: how many different anchors stand before it in the text. An alias
refers to the number that its anchor last got, and stands for the last node with that number.
-/

/-- A node with numbered aliases, the anchored nodes in it by their numbers in the order of the
text, and the numbers of the anchors so far. -/
structure Numbered (β : Type) where
  node : β
  anchored : List (Nat × Node Nat)
  known : Table Nat

/-- The number of an anchor, and the numbers known from here on. -/
def Properties.number (p : Properties) (known : Table Nat) : Option Nat × Table Nat :=
  match p.anchor? with
  | some name => (some known.length, known.put name known.length)
  | none => (none, known)

/-- The node under its number, if it has one. -/
def anchoredAs (number? : Option Nat) (n : Node Nat) : List (Nat × Node Nat) :=
  number?.toList.map fun i => (i, n)

mutual

/-- Numbers the anchors of a node and its aliases; none when an alias has no anchor before it. -/
def Node.number (known : Table Nat) : Node String → Option (Numbered (Node Nat))
  | .reference name => (known.get? name).map fun i => ⟨.reference i, [], known⟩
  | .scalar p style text =>
    let r := p.number known
    let n : Node Nat := .scalar p style text
    some ⟨n, anchoredAs r.1 n, r.2⟩
  | .sequence p items =>
    let r := p.number known
    match numberItems r.2 items with
    | none => none
    | some inner =>
      let n : Node Nat := .sequence p inner.node
      some ⟨n, anchoredAs r.1 n ++ inner.anchored, inner.known⟩
  | .mapping p entries =>
    let r := p.number known
    match numberEntries r.2 entries with
    | none => none
    | some inner =>
      let n : Node Nat := .mapping p inner.node
      some ⟨n, anchoredAs r.1 n ++ inner.anchored, inner.known⟩

/-- Numbers items in order. -/
def numberItems (known : Table Nat) : List (Node String) → Option (Numbered (List (Node Nat)))
  | [] => some ⟨[], [], known⟩
  | x :: rest =>
    match x.number known with
    | none => none
    | some a =>
      match numberItems a.known rest with
      | none => none
      | some b => some ⟨a.node :: b.node, a.anchored ++ b.anchored, b.known⟩

/-- Numbers entries in order. -/
def numberEntries (known : Table Nat) :
    List (Node String × Node String) → Option (Numbered (List (Node Nat × Node Nat)))
  | [] => some ⟨[], [], known⟩
  | (k, v) :: rest =>
    match k.number known with
    | none => none
    | some a =>
      match v.number a.known with
      | none => none
      | some b =>
        match numberEntries b.known rest with
        | none => none
        | some c =>
          some ⟨(a.node, b.node) :: c.node, a.anchored ++ (b.anchored ++ c.anchored), c.known⟩

end

mutual

/-- The size of a node: one for a scalar and an alias, two for the ends of a container. -/
def Node.size : Node Nat → Nat
  | .reference _ => 1
  | .scalar .. => 1
  | .sequence _ items => 2 + sizeOfItems items
  | .mapping _ entries => 2 + sizeOfEntries entries

/-- The size of items. -/
def sizeOfItems : List (Node Nat) → Nat
  | [] => 0
  | x :: rest => x.size + sizeOfItems rest

/-- The size of entries. -/
def sizeOfEntries : List (Node Nat × Node Nat) → Nat
  | [] => 0
  | (k, v) :: rest => k.size + v.size + sizeOfEntries rest

end

end ContractCompiler.Yaml
