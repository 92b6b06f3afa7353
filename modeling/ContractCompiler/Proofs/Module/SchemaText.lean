import ContractCompiler.Proofs.Literal.Written
import ContractCompiler.Proofs.Module.References

/-!
# Schema structures are read back from their text

The text of a schema structure is an object literal over the names of other structures. Every node of
it can be read back: its members and items in their order, with their keys, values and references.

* `written_render` — the text of a node writes what the node means, at every depth.
* `ofText_render` — reading that text gives the meaning back, so nodes of different meaning have
  different texts.
-/

namespace ContractCompiler

open Literal

namespace SchemaNode

/-- Induction over the items and the members of a node. -/
@[elab_as_elim, induction_eliminator]
theorem inductionOn {P : SchemaNode → Prop}
    (object : ∀ members, (∀ m ∈ members, P m.2) → P (object members))
    (array : ∀ items, (∀ x ∈ items, P x) → P (array items)) (value : ∀ v, P (value v))
    (ref : ∀ name, P (ref name)) (node : SchemaNode) : P node :=
  @SchemaNode.rec P (fun members => ∀ m ∈ members, P m.2) (fun items => ∀ x ∈ items, P x)
    (fun m => P m.2) object array value ref (fun _ h => by cases h)
    (fun _ _ hm hrest => List.forall_mem_cons.2 ⟨hm, hrest⟩) (fun _ h => by cases h)
    (fun _ _ hx hrest => List.forall_mem_cons.2 ⟨hx, hrest⟩) (fun _ _ h => h) node

mutual

/-- The JSON values in a node. -/
def values : SchemaNode → List Json
  | object members => memberValues members
  | array items => itemValues items
  | value v => [v]
  | ref _ => []

def itemValues : List SchemaNode → List Json
  | [] => []
  | x :: rest => values x ++ itemValues rest

def memberValues : List (String × SchemaNode) → List Json
  | [] => []
  | (_, x) :: rest => values x ++ memberValues rest

end

@[simp] theorem values_array (items : List SchemaNode) :
    (array items).values = items.flatMap values := by
  rw [values]
  induction items with
  | nil => rfl
  | cons x rest ih => rw [itemValues, ih, List.flatMap_cons]

@[simp] theorem values_object (members : List (String × SchemaNode)) :
    (object members).values = members.flatMap fun m => m.2.values := by
  rw [values]
  induction members with
  | nil => rfl
  | cons m rest ih => rw [memberValues, ih, List.flatMap_cons]

mutual

/-- What a node means: the value that it stands for once the names in it have values. -/
def meaning : SchemaNode → Literal
  | object members => .object (memberMeanings members)
  | array items => .array (itemMeanings items)
  | value v => ofJson v
  | ref name => .ref name

def itemMeanings : List SchemaNode → List Literal
  | [] => []
  | x :: rest => meaning x :: itemMeanings rest

def memberMeanings : List (String × SchemaNode) → List (String × Literal)
  | [] => []
  | (key, x) :: rest => (key, meaning x) :: memberMeanings rest

end

/-- The node holds no doubles, and its references are identifiers that name structures. -/
structure IsReadable (node : SchemaNode) : Prop where
  values : ∀ v ∈ node.values, v.isDoubleFree = true
  references : ∀ name ∈ node.references,
    Text.isIdentifier name = true ∧ ∃ model, structureName model = name

namespace IsReadable

/-- What holds no more than a node that can be read back can be read back. -/
theorem part {node x : SchemaNode} (h : node.IsReadable) (hvalues : x.values ⊆ node.values)
    (hreferences : x.references ⊆ node.references) : x.IsReadable :=
  ⟨fun v hv => h.values v (hvalues hv), fun name hname => h.references name (hreferences hname)⟩

theorem item {items : List SchemaNode} (h : (array items).IsReadable) :
    ∀ x ∈ items, x.IsReadable := by
  intro x hx
  refine h.part ?_ ?_
  · rw [values_array]
    exact fun _ hpart => List.mem_flatMap.2 ⟨x, hx, hpart⟩
  · rw [references_array]
    exact fun _ hpart => List.mem_flatMap.2 ⟨x, hx, hpart⟩

theorem member {members : List (String × SchemaNode)} (h : (object members).IsReadable) :
    ∀ m ∈ members, m.2.IsReadable := by
  intro m hm
  refine h.part ?_ ?_
  · rw [values_object]
    exact fun _ hpart => List.mem_flatMap.2 ⟨m, hm, hpart⟩
  · rw [references_object]
    exact fun _ hpart => List.mem_flatMap.2 ⟨m, hm, hpart⟩

end IsReadable

/-! ## Texts of nodes -/

theorem writesKey_keyText (key : String) : WritesKey (keyText key).toList key := by
  unfold keyText
  split
  · exact writesKey_word ‹_›
  · exact writesKey_quote key

theorem isBlank_indentBy (depth : Nat) : ∀ c ∈ (indentBy depth).toList, Text.isBlank c = true := by
  have hindent : indent.toList = List.replicate 4 ' ' := rfl
  intro c hc
  rw [indentBy, String.toList_join] at hc
  obtain ⟨unit, hunit, hc⟩ := List.mem_flatMap.1 hc
  rw [List.eq_of_mem_replicate hunit, hindent] at hc
  rw [List.eq_of_mem_replicate hc]
  exact Text.isBlank_space

/-- The name of a structure is no keyword, for these are shorter. -/
theorem ofWord_structureName (model : String) :
    ofWord (structureName model) = .ref (structureName model) := by
  have hne : ∀ word : String, word.length < 19 → structureName model ≠ word := by
    rintro word hword rfl
    rw [structureName, String.length_append] at hword
    have hsuffix : "FastSchemaStructure".length = 19 := rfl
    omega
  rw [ofWord, if_neg (hne _ (by decide)), if_neg (hne _ (by decide)), if_neg (hne _ (by decide))]

/-- The text of the node writes what the node means, at every depth. -/
def NodeWritten (node : SchemaNode) : Prop :=
  ∀ depth, Written (node.render depth).toList (.value node.meaning)

theorem written_renderInline {items : List SchemaNode} (h : ∀ x ∈ items, NodeWritten x) (depth : Nat) :
    Written ((renderInline depth items).toList ++ [']']) (.items (itemMeanings items)) := by
  induction items with
  | nil => exact .noItems
  | cons x rest ih =>
    obtain ⟨hx, hrest⟩ := List.forall_mem_cons.1 h
    cases rest with
    | nil => exact .lastItem (hx depth)
    | cons y rest =>
      have hcomma : ", ".toList = [',', ' '] := rfl
      simp only [renderInline, String.toList_append, hcomma, List.append_assoc, List.cons_append,
        List.nil_append]
      exact .item (hx depth) ((ih hrest).blank (by decide))

theorem written_renderItems {items : List SchemaNode} (h : ∀ x ∈ items, NodeWritten x)
    (depth outer : Nat) :
    Written ((renderItems depth items).toList ++ ((indentBy outer).toList ++ [']']))
      (.items (itemMeanings items)) := by
  induction items with
  | nil => exact Written.noItems.blanks (isBlank_indentBy outer)
  | cons x rest ih =>
    obtain ⟨hx, hrest⟩ := List.forall_mem_cons.1 h
    have hcomma : ",\n".toList = [',', '\n'] := rfl
    simp only [renderItems, String.toList_append, hcomma, List.append_assoc, List.cons_append,
      List.nil_append]
    refine Written.blanks ?_ (isBlank_indentBy depth)
    exact .item (hx depth) ((ih hrest).blank (by decide))

theorem written_renderMembers {members : List (String × SchemaNode)}
    (h : ∀ m ∈ members, NodeWritten m.2) (depth outer : Nat) :
    Written ((renderMembers depth members).toList ++ ((indentBy outer).toList ++ ['\x7d']))
      (.members (memberMeanings members)) := by
  induction members with
  | nil => exact Written.noMembers.blanks (isBlank_indentBy outer)
  | cons m rest ih =>
    obtain ⟨key, x⟩ := m
    obtain ⟨hx, hrest⟩ : NodeWritten x ∧ ∀ m ∈ rest, NodeWritten m.2 := List.forall_mem_cons.1 h
    have hcolon : ": ".toList = [':', ' '] := rfl
    have hcomma : ",\n".toList = [',', '\n'] := rfl
    simp only [renderMembers, String.toList_append, hcolon, hcomma, List.append_assoc,
      List.cons_append, List.nil_append]
    have hvalue : Written (' ' :: (render depth x).toList) (.value x.meaning) :=
      (hx depth).blank (by decide)
    refine Written.blanks ?_ (isBlank_indentBy depth)
    exact .member (writesKey_keyText key) hvalue ((ih hrest).blank (by decide))

/-- **The text of a node writes what the node means**, at every depth. -/
theorem written_render {node : SchemaNode} (h : node.IsReadable) : NodeWritten node := by
  induction node with
  | value v => exact fun depth => written_compact (h.values v (by simp [values]))
  | ref name =>
    obtain ⟨hname, model, rfl⟩ := h.references name (by simp)
    intro depth
    rw [meaning, ← ofWord_structureName, render]
    exact written_word hname
  | array items ih =>
    have hitems : ∀ x ∈ items, NodeWritten x := fun x hx => ih x hx (h.item x hx)
    intro depth
    rw [render, meaning]
    split
    · have hbracket : "[".toList = ['['] := rfl
      simp only [String.toList_append, hbracket, List.cons_append, List.nil_append]
      exact .array (written_renderInline hitems depth)
    · have hbracket : "[\n".toList = ['[', '\n'] := rfl
      simp only [String.toList_append, hbracket, List.append_assoc, List.cons_append, List.nil_append]
      exact .array ((written_renderItems hitems (depth + 1) depth).blank (by decide))
  | object members ih =>
    have hmembers : ∀ m ∈ members, NodeWritten m.2 := fun m hm => ih m hm (h.member m hm)
    intro depth
    cases members with
    | nil =>
      have hempty : (render depth (object [])).toList = ['\x7b', '\x7d'] := by
        rw [render]
        rfl
      rw [hempty, meaning]
      exact .object .noMembers
    | cons m rest =>
      have hbrace : "\x7b\n".toList = ['\x7b', '\n'] := rfl
      rw [render, meaning]
      simp only [String.toList_append, hbrace, List.append_assoc, List.cons_append, List.nil_append]
      exact .object ((written_renderMembers hmembers (depth + 1) depth).blank (by decide))

/-- Reading the text of a node gives back what the node means, and nothing of the text is left. -/
theorem ofText_render {node : SchemaNode} (h : node.IsReadable) (depth : Nat) :
    Literal.ofText (node.render depth) = some node.meaning :=
  ofText_of_written (written_render h depth)

/-- **The text of a node is read back as what the node means**, at every depth, so nodes of different
meaning have different texts. -/
theorem readBack_render {node : SchemaNode} (h : node.IsReadable) :
    (∀ depth, Literal.ofText (node.render depth) = some node.meaning) ∧
      ∀ other : SchemaNode, other.IsReadable → node.meaning ≠ other.meaning →
        ∀ depth depth', node.render depth ≠ other.render depth' := by
  refine ⟨ofText_render h, fun other hother hne depth depth' htext => hne ?_⟩
  have hread := ofText_render h depth
  rw [htext, ofText_render hother depth'] at hread
  exact (Option.some.inj hread).symm

/-- A structure with every kind of node, every layout and both kinds of keys. -/
def shelf : SchemaNode :=
  .object
    [("title", .text "A \"shelf\""), ("first-row", .array [.ref "BookFastSchemaStructure", .object []]),
     ("required", .array [.text "id", .value (.bool false), .value .null]),
     ("default", .value (.object [("tags", .array [.string "\n", .ofWord 2])]))]

theorem readBack_render_shelf :
    shelf.IsReadable ∧ (object []).IsReadable ∧ shelf.meaning ≠ (object []).meaning ∧
      (∀ depth, Literal.ofText (shelf.render depth) = some shelf.meaning) ∧
        ∀ depth depth', shelf.render depth ≠ (object []).render depth' := by
  have hshelf : shelf.IsReadable := by
    constructor
    case values => decide
    case references =>
      intro name hname
      obtain rfl : name = "BookFastSchemaStructure" := by simpa [shelf, text] using hname
      exact ⟨by decide, "Book", rfl⟩
  have hempty : (object []).IsReadable := ⟨by decide, fun _ h => by cases h⟩
  have hne : shelf.meaning ≠ (object []).meaning := by
    intro h
    cases h
  obtain ⟨hread, hdiffer⟩ := readBack_render hshelf
  exact ⟨hshelf, hempty, hne, hread, hdiffer _ hempty hne⟩

end SchemaNode

end ContractCompiler
