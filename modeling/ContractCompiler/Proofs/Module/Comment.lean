import ContractCompiler.Proofs.Module.Model
import ContractCompiler.Proofs.Module.Views
import ContractCompiler.Proofs.Text.Comment

/-!
# Comments in a module

The first line of a module and the placeholders of what is left out of it are comments, and they quote
names as the contract has them. Names may hold line ends, so a quoted name can leave its comment.

* `onlyComments_headline_iff`, `onlyComments_render_omitted_iff` — a comment is nothing but a comment
  exactly if the names in it stay in it.
* `statements_render` — the statements of a module, part by part.
* `commentsHold_iff_of_emitModel` — the statements of a module are those of its code exactly if every
  quoted name stays in its comment.
-/

namespace ContractCompiler

open Text

/-! ## Names in comments -/

/-- Names in a comment, each with the text behind it. -/
def quotation (qs : List (String × String)) : List Char :=
  qs.flatMap fun q => q.1.toList ++ q.2.toList

/-- **A comment goes on behind the names that it quotes exactly if all of them stay in it.** -/
theorem scan_quotation {qs : List (String × String)}
    (h : ∀ q ∈ qs, continuesComment q.2.toList = true) :
    Reading.comment.scan (quotation qs) =
      if ∀ q ∈ qs, StaysComment q.1 then .comment else .statement := by
  induction qs with
  | nil => rfl
  | cons q rest ih =>
    obtain ⟨hq, hrest⟩ := List.forall_mem_cons.1 h
    have hcons : quotation (q :: rest) = q.1.toList ++ q.2.toList ++ quotation rest := rfl
    rw [hcons, Reading.scan_append, scan_comment_append hq]
    by_cases hname : StaysComment q.1
    · simp only [hname, if_true, ih hrest, List.forall_mem_cons, true_and]
    · simp only [hname, if_false, Reading.scan_statement, List.forall_mem_cons, false_and]

theorem quotation_append (qs qs' : List (String × String)) :
    quotation (qs ++ qs') = quotation qs ++ quotation qs' :=
  List.flatMap_append

theorem toList_quoting (front name back : String) :
    (front ++ name ++ back).toList = front.toList ++ quotation [(name, back)] := by
  simp only [quotation, List.flatMap_cons, List.flatMap_nil, List.append_nil, String.toList_append,
    List.append_assoc]

namespace EmissionCause

/-- The names that the text of a cause quotes. -/
def quoted : EmissionCause → List String
  | badDecoration name => [name]
  | invalidValidation name => [name]
  | invalidMessageProperty message => [message]
  | invalidPropertyKey | unresolvedLink | namelessValidation | invalidMessageName => []

/-- The text of a cause up to the first name in it. -/
def front : EmissionCause → String
  | badDecoration _ => "custom annotation '"
  | invalidValidation _ => "validation '"
  | invalidMessageProperty _ => "property of message '"
  | cause => cause.text

theorem toList_text (cause : EmissionCause) :
    cause.text.toList =
      cause.front.toList ++ quotation (cause.quoted.map fun n => (n, "' is not a valid identifier")) := by
  cases cause with
  | badDecoration n => exact toList_quoting _ n _
  | invalidValidation n => exact toList_quoting _ n _
  | invalidMessageProperty n => exact toList_quoting _ n _
  | invalidPropertyKey | unresolvedLink | namelessValidation | invalidMessageName =>
    exact (List.append_nil _).symm

end EmissionCause

/-- The names that the placeholder of a part quotes, by the name of the part. -/
def EmissionError.quotedFor (name : String) (e : EmissionError) : List String :=
  name :: e.field :: e.cause.quoted

/-- The placeholder of a part behind its opening quote, by the name of the part. -/
def EmissionError.quotationFor (name : String) (e : EmissionError) : List (String × String) :=
  [(name, "' omitted: " ++ "Emission Error on field '"), (e.field, "': " ++ e.cause.front)] ++
    e.cause.quoted.map fun n => (n, "' is not a valid identifier")

theorem EmissionError.map_fst_quotationFor (name : String) (e : EmissionError) :
    (e.quotationFor name).map Prod.fst = e.quotedFor name := by
  simp [quotationFor, quotedFor, Function.comp_def]

theorem EmissionError.continuesComment_of_mem_quotationFor {name : String} {e : EmissionError} :
    ∀ q ∈ e.quotationFor name, continuesComment q.2.toList = true := by
  have hfront : ∀ cause : EmissionCause, continuesComment ("': " ++ cause.front).toList = true := by
    have hannotation : continuesComment ("': " ++ "custom annotation '").toList = true := by decide
    have hvalidation : continuesComment ("': " ++ "validation '").toList = true := by decide
    have hproperty : continuesComment ("': " ++ "property of message '").toList = true := by decide
    intro cause
    cases cause with
    | badDecoration => exact hannotation
    | invalidValidation => exact hvalidation
    | invalidMessageProperty => exact hproperty
    | invalidPropertyKey | unresolvedLink | namelessValidation | invalidMessageName =>
      decide +kernel
  have hback : continuesComment "' is not a valid identifier".toList = true := by decide
  have homitted : continuesComment ("' omitted: " ++ "Emission Error on field '").toList = true := by
    decide
  simp only [quotationFor, List.forall_mem_append, List.forall_mem_cons, List.forall_mem_map]
  exact ⟨⟨homitted, hfront e.cause, fun _ h => absurd h List.not_mem_nil⟩, fun _ _ => hback⟩

namespace Placed

variable {α : Type} {write : α → String} {name : String} {e : EmissionError}

theorem toList_render_omitted :
    (render write (omitted name e)).toList =
      (indent ++ "// '").toList ++ quotation (e.quotationFor name) ++ "\n\n".toList := by
  have hsplit (front name omitted on field colon cause ending : String) :
      (front ++ name ++ omitted ++ (on ++ field ++ colon ++ cause) ++ ending).toList =
        front.toList ++ (name.toList ++ (omitted ++ on).toList ++
          (field.toList ++ (colon.toList ++ cause.toList))) ++ ending.toList := by
    simp only [String.toList_append, List.append_assoc]
  have hpair (n n' b b' b'' : String) :
      quotation [(n, b), (n', b' ++ b'')] =
        n.toList ++ b.toList ++ (n'.toList ++ (b'.toList ++ b''.toList)) := by
    simp only [quotation, List.flatMap_cons, List.flatMap_nil, List.append_nil, String.toList_append]
  refine (hsplit ..).trans ?_
  rw [EmissionError.quotationFor, quotation_append, hpair, e.cause.toList_text]
  simp only [List.append_assoc]

/-- **A placeholder is nothing but a comment exactly if the names in it stay in it.** -/
theorem onlyComments_render_omitted_iff :
    OnlyComments (render write (omitted name e)) ↔ ∀ s ∈ e.quotedFor name, StaysComment s := by
  have hfront : Reading.margin.scan (indent ++ "// '").toList = .comment := by decide
  have hquoted : Reading.comment.scan (quotation (e.quotationFor name)) =
      if ∀ q ∈ e.quotationFor name, StaysComment q.1 then .comment else .statement :=
    scan_quotation e.continuesComment_of_mem_quotationFor
  rw [onlyComments_iff, ← isQuiet_scan_iff, toList_render_omitted, Reading.scan_append,
    Reading.scan_append, hfront, hquoted, ← EmissionError.map_fst_quotationFor, List.forall_mem_map]
  split
  · rename_i h
    exact iff_of_true (by decide) h
  · rename_i h
    exact iff_of_false (by decide) h

end Placed

/-- **The first line is nothing but a comment exactly if the name in it stays in it.** -/
theorem ModelModule.onlyComments_headline_iff (m : ModelModule) :
    OnlyComments m.headline ↔ StaysComment m.generatedName := by
  have hfront : Reading.margin.scan "// Generated from ".toList = .comment := by decide
  rw [onlyComments_iff, ← isQuiet_scan_iff, toList_headline, List.append_assoc,
    Reading.scan_append, hfront, scan_comment_append (by decide)]
  split
  · rename_i h
    exact iff_of_true (by decide) h
  · rename_i h
    exact iff_of_false (by decide) h

/-! ## The statements of a module -/

section

variable {α β : Type} {p : α → Bool} {g : α → List β} {l : List α}

theorem length_flatMap_eq (p : α → Bool) (g : α → List β) (l : List α) :
    (l.flatMap g).length =
      ((l.filter p).flatMap g).length + ((l.filter fun a => !p a).flatMap g).length := by
  induction l with
  | nil => rfl
  | cons a rest ih => cases ha : p a <;> simp [ha, ih] <;> omega

/-- Members that contribute nothing can be left out. -/
theorem flatMap_filter_eq (h : ∀ a ∈ l, p a = false → g a = []) :
    (l.filter p).flatMap g = l.flatMap g := by
  induction l with
  | nil => rfl
  | cons a rest ih =>
    obtain ⟨ha, hrest⟩ := List.forall_mem_cons.1 h
    cases hp : p a with
    | true => simp [hp, ih hrest]
    | false => simp [hp, ih hrest, ha hp]

/-- Members that do contribute cannot be left out without a loss. -/
theorem eq_nil_of_length_flatMap_filter
    (h : (l.flatMap g).length = ((l.filter p).flatMap g).length) :
    ∀ a ∈ l, p a = false → g a = [] := by
  rw [length_flatMap_eq p g l] at h
  have hnone : (l.filter fun a => !p a).flatMap g = [] := List.length_eq_zero_iff.1 (by omega)
  exact fun a ha hp => List.flatMap_eq_nil_iff.1 hnone a (List.mem_filter.2 ⟨ha, by rw [hp]; rfl⟩)

end

namespace Placed

variable {α : Type} {write : α → String}

/-- The statements of a part, or of its placeholder. -/
def statementsOf (write : α → String) (p : Placed α) : List (List Char) :=
  statements (p.render write).toList

/-- The names that the placeholder of a part quotes. -/
def quoted : Placed α → List String
  | emitted _ => []
  | omitted name e => e.quotedFor name

/-- The part was emitted. -/
def isEmitted : Placed α → Bool
  | emitted _ => true
  | omitted _ _ => false

theorem endsLines_render (p : Placed α) : EndsLines (p.render write).toList := by
  cases p with
  | emitted a => exact endsLines_append_newline _
  | omitted name e =>
    rw [toList_render_omitted]
    exact .inr ⟨_, (List.append_assoc _ ['\n'] ['\n']).symm⟩

/-- The statements of parts, one behind the other. -/
theorem statements_join_render (ps : List (Placed α)) :
    statements (String.join (ps.map (render write))).toList = ps.flatMap (statementsOf write) := by
  rw [statements_join, List.flatMap_map]
  · rfl
  intro s hs
  obtain ⟨p, -, rfl⟩ := List.mem_map.1 hs
  exact endsLines_render p

theorem statementsOf_eq_nil_iff {p : Placed α} (h : p.isEmitted = false) :
    statementsOf write p = [] ↔ ∀ s ∈ p.quoted, StaysComment s := by
  cases p with
  | emitted a => cases h
  | omitted name e => rw [statementsOf, ← onlyComments_iff, onlyComments_render_omitted_iff, quoted]

theorem forall_statementsOf_eq_nil_iff {ps : List (Placed α)} :
    (∀ p ∈ ps, p.isEmitted = false → statementsOf write p = []) ↔
      ∀ s, (∃ p ∈ ps, s ∈ p.quoted) → StaysComment s := by
  constructor
  · rintro h s ⟨p, hp, hs⟩
    cases hemitted : p.isEmitted with
    | true =>
      cases p with
      | emitted a => cases hs
      | omitted name e => cases hemitted
    | false => exact (statementsOf_eq_nil_iff hemitted).1 (h p hp hemitted) s hs
  · exact fun h p hp hemitted => (statementsOf_eq_nil_iff hemitted).2 fun s hs => h s ⟨p, hp, hs⟩

/-- A placeholder stands in a module under the placeholder policy, for a part that fails. -/
theorem omitted_mem_all_iff {β : Type} {policy : EmissionPolicy} {label : β → String}
    {emit : β → Except EmissionError α} {parts : List β} {placed : List (Placed α)}
    (h : all policy label emit parts = .ok placed) {name : String} {e : EmissionError} :
    omitted name e ∈ placed ↔
      policy = .placeholder ∧ ∃ b ∈ parts, emit b = .error e ∧ label b = name := by
  constructor
  · intro hmem
    obtain ⟨b, hb, hresult⟩ := exists_of_mem_all h hmem
    obtain ⟨herror, hname⟩ := ofResult_eq_omitted hresult
    cases policy with
    | strict =>
      rw [herror] at hresult
      cases hresult
    | placeholder => exact ⟨rfl, b, hb, herror, hname.symm⟩
  · rintro ⟨rfl, b, hb, herror, rfl⟩
    obtain ⟨p, hp, hresult⟩ := exists_of_forall₂ (all_eq_ok_iff.1 h) b hb
    rw [herror] at hresult
    obtain rfl := Except.ok.inj hresult
    exact hp

theorem mem_quoted_iff {ps : List (Placed α)} {s : String} :
    (∃ p ∈ ps, s ∈ p.quoted) ↔ ∃ name e, omitted name e ∈ ps ∧ s ∈ e.quotedFor name := by
  constructor
  · rintro ⟨p, hp, hs⟩
    cases p with
    | emitted a => cases hs
    | omitted name e => exact ⟨name, e, hp, hs⟩
  · rintro ⟨name, e, hp, hs⟩
    exact ⟨_, hp, hs⟩

end Placed

namespace ClassCode

/-- The text of a class before its fields. -/
def opening (c : ClassCode) : String :=
  String.join (c.decorations.map fun a => a.text ++ "\n") ++
    "export class " ++ c.model ++ " extends AbstractModel implements " ++ c.interfaceName ++
    " \x7b\n" ++ String.join (c.identity.toList.map fun m => m.render ++ "\n")

/-- The text of a class behind its fields. -/
def closing (c : ClassCode) : String :=
  methodCode ("constructor(partial: Partial<" ++ c.model ++ ">)")
      ["super();", "Object.assign(this, partial);"] ++
    "\n" ++ factories "public " c.model ++ "\n" ++ c.hookMethod ++
    methodCode "public override toString()" ["return " ++ serializerName c.model ++ "(this);"] ++
    "\x7d\n"

theorem render_eq_append (c : ClassCode) :
    c.render =
      c.opening ++ String.join (c.fields.map (Placed.render MemberCode.render)) ++ c.closing := by
  simp only [render, opening, closing, String.append_assoc]

theorem endsLines_opening (c : ClassCode) : EndsLines c.opening.toList := by
  have hbrace : EndsLines " \x7b\n".toList := .inr ⟨[' ', '\x7b'], by decide⟩
  have hidentity : EndsLines (String.join (c.identity.toList.map fun m => m.render ++ "\n")).toList := by
    refine endsLines_join fun s hs => ?_
    obtain ⟨m, -, rfl⟩ := List.mem_map.1 hs
    exact endsLines_append_newline m.render
  rw [opening, String.toList_append, String.toList_append]
  exact (hbrace.prepend (by decide) _).append hidentity

end ClassCode

namespace ModelModule

/-- The text of a module behind its first line, before it is normalized. -/
def body (m : ModelModule) : String :=
  m.imports.render ++ "\n" ++ m.interfaceCode.render ++ "\n" ++ m.classCode.render ++ "\n" ++
    schemaBlock m.model m.schema ++ "\n" ++
    String.join (m.messages.map (Placed.render MessageCode.render))

/-- The module without the placeholders of what is left out. -/
def emittedOnly (m : ModelModule) : ModelModule :=
  { m with
    classCode := { m.classCode with fields := m.classCode.fields.filter Placed.isEmitted }
    messages := m.messages.filter Placed.isEmitted }

theorem render_eq_normalized (m : ModelModule) :
    m.render = normalized (m.headline ++ "\n\n" ++ m.body) := by
  have hline : ". Do not edit.\n\n" = ". Do not edit." ++ "\n\n" := by decide
  have hsplit (h a b c d e newline : String) :
      h ++ a ++ newline ++ b ++ newline ++ c ++ newline ++ d ++ newline ++ e =
        h ++ (a ++ newline ++ b ++ newline ++ c ++ newline ++ d ++ newline ++ e) := by
    simp only [String.append_assoc]
  have hheadline : "// Generated from " ++ m.generatedName ++ ". Do not edit.\n\n" =
      m.headline ++ "\n\n" := by
    rw [hline]
    exact (String.append_assoc ..).symm
  refine (congrArg normalized (hsplit ..)).trans ?_
  rw [hheadline]
  rfl

/-- **The statements of a module are those of its first line and those of the rest of it.** -/
theorem statements_render (m : ModelModule) :
    statements m.render.toList = statements m.headline.toList ++ statements m.body.toList := by
  have hfront : (m.headline ++ "\n\n").toList = m.headline.toList ++ ['\n'] ++ ['\n'] := by
    rw [String.toList_append, List.append_assoc]
    rfl
  rw [render_eq_normalized, statements_normalized, String.toList_append, hfront,
    statements_append (endsLines_newline _), statements_newline, statements_newline]

/-- The text of a module between its first line and the fields of its class. -/
def front (m : ModelModule) : String :=
  m.imports.render ++ "\n" ++ m.interfaceCode.render ++ "\n" ++ m.classCode.opening

/-- The text of a module between the fields of its class and its messages. -/
def middle (m : ModelModule) : String :=
  m.classCode.closing ++ "\n" ++ schemaBlock m.model m.schema ++ "\n"

/-- **The statements of a module, part by part.** -/
theorem statements_body (m : ModelModule) :
    statements m.body.toList =
      statements m.front.toList ++ (m.classCode.fields.flatMap (Placed.statementsOf MemberCode.render) ++
        (statements m.middle.toList ++ m.messages.flatMap (Placed.statementsOf MessageCode.render))) := by
  have hsplit (a b c fields d e messages newline : String) :
      a ++ newline ++ b ++ newline ++ (c ++ fields ++ d) ++ newline ++ e ++ newline ++ messages =
        a ++ newline ++ b ++ newline ++ c ++
          (fields ++ (d ++ newline ++ e ++ newline ++ messages)) := by
    simp only [String.append_assoc]
  have hbody : m.body =
      m.front ++ (String.join (m.classCode.fields.map (Placed.render MemberCode.render)) ++
        (m.middle ++ String.join (m.messages.map (Placed.render MessageCode.render)))) := by
    unfold body
    simp only [ClassCode.render_eq_append]
    exact hsplit ..
  have hfront : EndsLines m.front.toList :=
    (endsLines_append_newline _).append_string m.classCode.endsLines_opening
  have hfields : EndsLines
      (String.join (m.classCode.fields.map (Placed.render MemberCode.render))).toList := by
    refine endsLines_join fun s hs => ?_
    obtain ⟨p, -, rfl⟩ := List.mem_map.1 hs
    exact p.endsLines_render
  have hmiddle : EndsLines m.middle.toList := endsLines_append_newline _
  rw [hbody, String.toList_append, statements_append hfront, String.toList_append,
    statements_append hfields, String.toList_append, statements_append hmiddle,
    Placed.statements_join_render, Placed.statements_join_render]

/-- **The statements of a module are those of what was emitted** exactly if neither its first line nor a
placeholder has any. -/
theorem statements_render_eq_iff (m : ModelModule) :
    statements m.render.toList = statements m.emittedOnly.body.toList ↔
      statements m.headline.toList = [] ∧
        (∀ p ∈ m.classCode.fields, p.isEmitted = false → p.statementsOf MemberCode.render = []) ∧
        ∀ p ∈ m.messages, p.isEmitted = false → p.statementsOf MessageCode.render = [] := by
  have hfields := length_flatMap_eq Placed.isEmitted (Placed.statementsOf MemberCode.render)
    m.classCode.fields
  have hmessages := length_flatMap_eq Placed.isEmitted (Placed.statementsOf MessageCode.render)
    m.messages
  have hkept : statements m.emittedOnly.body.toList =
      statements m.front.toList ++
        ((m.classCode.fields.filter Placed.isEmitted).flatMap (Placed.statementsOf MemberCode.render) ++
          (statements m.middle.toList ++
            (m.messages.filter Placed.isEmitted).flatMap (Placed.statementsOf MessageCode.render))) :=
    statements_body m.emittedOnly
  rw [statements_render, statements_body, hkept]
  constructor
  · intro h
    have hlength := congrArg List.length h
    simp only [List.length_append] at hlength
    exact ⟨List.length_eq_zero_iff.1 (by omega), eq_nil_of_length_flatMap_filter (by omega),
      eq_nil_of_length_flatMap_filter (by omega)⟩
  · rintro ⟨hheadline, hfield, hmessage⟩
    rw [hheadline, List.nil_append, flatMap_filter_eq hfield, flatMap_filter_eq hmessage]

end ModelModule

/-! ## Names of a contract -/

namespace Contract

variable {c : Contract} {contracts : List Contract} {ctx : EmissionContext} {resolver : Resolver}

/-- The name is quoted in the placeholder of a field or of a message. -/
inductive Quotes (c : Contract) (contracts : List Contract) (ctx : EmissionContext) (name : String) :
    Prop where
  | field {links : Table LinkTarget} {f : Field} {e : EmissionError}
      (hpolicy : ctx.policy = .placeholder) (hlinks : c.resolveLinks contracts = .ok links)
      (hf : f ∈ c.fields) (herror : f.code ctx (links.get? f.propertyKey) = .error e)
      (hname : name ∈ e.quotedFor f.propertyKey)
  | message {message : Message} {e : EmissionError} (hpolicy : ctx.policy = .placeholder)
      (hmessage : message ∈ c.messages) (herror : message.code ctx.capabilities = .error e)
      (hname : name ∈ e.quotedFor message.name)

theorem staysComment_generatedName (c : Contract) :
    StaysComment c.generatedName ↔ StaysComment c.contractName := by
  unfold generatedName
  split
  · rfl
  · exact staysComment_append (by decide)

/-- The placeholders of a module quote what the parts that fail have in their errors. -/
theorem quotes_iff {m : ModelModule} (h : c.modelModule contracts ctx resolver = .ok m)
    {name : String} :
    c.Quotes contracts ctx name ↔
      (∃ p ∈ m.classCode.fields, name ∈ p.quoted) ∨ ∃ p ∈ m.messages, name ∈ p.quoted := by
  obtain ⟨links, fields, messages, -, hlinks, hfields, hmessages, rfl⟩ := modelModule_eq_ok_iff.1 h
  have hfield {label : String} {e : EmissionError} :
      .omitted label e ∈ fields ↔ _ := Placed.omitted_mem_all_iff hfields
  have hmessage {label : String} {e : EmissionError} :
      .omitted label e ∈ messages ↔ _ := Placed.omitted_mem_all_iff hmessages
  rw [Placed.mem_quoted_iff, Placed.mem_quoted_iff]
  constructor
  · rintro (⟨hpolicy, hlinks', hf, herror, hname⟩ | ⟨hpolicy, hm, herror, hname⟩)
    · rw [hlinks, Except.ok.injEq] at hlinks'
      subst hlinks'
      exact .inl ⟨_, _, hfield.2 ⟨hpolicy, _, hf, herror, rfl⟩, hname⟩
    · exact .inr ⟨_, _, hmessage.2 ⟨hpolicy, _, hm, herror, rfl⟩, hname⟩
  · rintro (⟨label, e, hp, hname⟩ | ⟨label, e, hp, hname⟩)
    · obtain ⟨hpolicy, f, hf, herror, rfl⟩ := hfield.1 hp
      exact .field hpolicy hlinks hf herror hname
    · obtain ⟨hpolicy, message, hm, herror, rfl⟩ := hmessage.1 hp
      exact .message hpolicy hm herror hname

/-- **Comments hold exactly what stays in them.** The first line of a module is nothing but a comment
exactly if the name of the contract stays in it, and so is each placeholder, with the names in it. The
statements of a module are those of what was emitted exactly if every name that is quoted stays in its
comment. -/
theorem commentsHold_iff_of_emitModel {code : String}
    (h : c.emitModel contracts ctx resolver = .ok code) :
    ∃ m, c.modelModule contracts ctx resolver = .ok m ∧ code = m.render ∧
      (OnlyComments m.headline ↔ StaysComment c.contractName) ∧
      (∀ p ∈ m.classCode.fields, p.isEmitted = false →
        (OnlyComments (p.render MemberCode.render) ↔ ∀ s ∈ p.quoted, StaysComment s)) ∧
      (∀ p ∈ m.messages, p.isEmitted = false →
        (OnlyComments (p.render MessageCode.render) ↔ ∀ s ∈ p.quoted, StaysComment s)) ∧
      (statements code.toList = statements m.emittedOnly.body.toList ↔
        StaysComment c.contractName ∧ ∀ s, c.Quotes contracts ctx s → StaysComment s) := by
  obtain ⟨m, hm, rfl⟩ := emitModel_eq_ok_iff.1 h
  have hheadline : OnlyComments m.headline ↔ StaysComment c.contractName := by
    rw [m.onlyComments_headline_iff, generatedName_of_modelModule hm, staysComment_generatedName]
  refine ⟨m, hm, rfl, hheadline, fun p _ hp => ?_, fun p _ hp => ?_, ?_⟩
  · exact onlyComments_iff.trans (Placed.statementsOf_eq_nil_iff hp)
  · exact onlyComments_iff.trans (Placed.statementsOf_eq_nil_iff hp)
  · rw [m.statements_render_eq_iff, ← onlyComments_iff, hheadline]
    simp only [quotes_iff hm, or_imp, forall_and, Placed.forall_statementsOf_eq_nil_iff]

/-- A contract whose names have several lines, all but the first of which are comments or blank. -/
def annotated : Contract :=
  { named "User\n// of the shop" "User" with
    fields := [Field.plain "first name\n\n    // as in the passport" (.known .string)] }

/-- Names of several lines may stay in their comments. -/
theorem commentsHold_annotated :
    ∃ code, annotated.emitModel [annotated] lenientContext nameResolver = .ok code ∧
      ∃ m, annotated.modelModule [annotated] lenientContext nameResolver = .ok m ∧ code = m.render ∧
        OnlyComments m.headline ∧
        (∀ p ∈ m.classCode.fields, p.isEmitted = false → OnlyComments (p.render MemberCode.render)) ∧
        statements code.toList = statements m.emittedOnly.body.toList := by
  obtain ⟨code, hemit⟩ : ∃ code, annotated.emitModel [annotated] lenientContext nameResolver = .ok code :=
    ⟨_, rfl⟩
  obtain ⟨m, hm, hcode, hheadline, hfields, -, hall⟩ := commentsHold_iff_of_emitModel hemit
  have hname : StaysComment annotated.contractName := by decide +kernel
  have hquoted : ∀ s, annotated.Quotes [annotated] lenientContext s → StaysComment s := by
    rintro s (⟨-, -, hf, herror, hs⟩ | ⟨-, hmessage, -, -⟩)
    · obtain rfl := List.mem_singleton.1 hf
      cases herror
      simp only [EmissionError.quotedFor, EmissionCause.quoted, List.mem_cons, List.not_mem_nil,
        or_false, or_self] at hs
      subst hs
      decide +kernel
    · cases hmessage
  refine ⟨code, hemit, m, hm, hcode, hheadline.2 hname, fun p hp hemitted => ?_, hall.2 ⟨hname, hquoted⟩⟩
  exact (hfields p hp hemitted).2 fun s hs => hquoted s ((quotes_iff hm).2 (.inl ⟨p, hp, hs⟩))

/-- A field whose name has two lines. -/
def splitField : Field := Field.plain "first\nname" (.known .string)

/-- A contract whose names have two lines. -/
def spilling : Contract := { named "User\nAccount" "User" with fields := [splitField] }

/-- What is behind the line ends in the names of the contract is written as code. -/
theorem not_onlyComments_spilling :
    ∃ m, spilling.modelModule [spilling] lenientContext nameResolver = .ok m ∧
      spilling.emitModel [spilling] lenientContext nameResolver = .ok m.render ∧
      ¬OnlyComments m.headline ∧
      "AccountContract. Do not edit.".toList ∈ statements m.render.toList ∧
      ∃ p ∈ m.classCode.fields, p.isEmitted = false ∧ ¬OnlyComments (p.render MemberCode.render) := by
  obtain ⟨m, hm⟩ : ∃ m, spilling.modelModule [spilling] lenientContext nameResolver = .ok m := ⟨_, rfl⟩
  have hname : m.generatedName = "User\nAccountContract" :=
    (generatedName_of_modelModule hm).trans (by decide +kernel)
  refine ⟨m, hm, emitModel_eq_ok_iff.2 ⟨m, hm, rfl⟩, ?_, ?_, ?_⟩
  · rw [ModelModule.onlyComments_headline_iff, hname]
    decide +kernel
  · rw [ModelModule.statements_render, ModelModule.toList_headline, hname]
    exact List.mem_append_left _ (by decide +kernel)
  · obtain ⟨links, fields, messages, -, -, hfields, -, rfl⟩ := modelModule_eq_ok_iff.1 hm
    have homitted : .omitted "first\nname" ⟨"first\nname", .invalidPropertyKey⟩ ∈ fields :=
      (Placed.omitted_mem_all_iff hfields).2 ⟨rfl, splitField, List.mem_singleton_self _, rfl, rfl⟩
    refine ⟨_, homitted, rfl, ?_⟩
    rw [Placed.onlyComments_render_omitted_iff]
    decide +kernel

end Contract

end ContractCompiler
