import ContractCompiler.Proofs.Module.Binding
import ContractCompiler.Proofs.Module.Views

/-!
# Legal names

Every key, annotation and message name passes the test for identifiers before it is emitted. The
name of the model does not: a contract may call its controller anything that is not blank.

* `isIdentifier_of_code` — the names of an emitted message are identifiers.
* `legalNames_of_emitModel` — the names of a module are identifiers exactly when the name of its
  model is one, and which of them are not otherwise.
* `not_isIdentifier_userProfile` — a module whose class has no legal name.
-/

namespace ContractCompiler

/-! ## Names with a constant part -/

namespace Text

theorem exists_toList_of_isIdentifier {s : String} (h : isIdentifier s = true) :
    ∃ c rest, s.toList = c :: rest ∧ startsIdentifier c = true ∧
      rest.all continuesIdentifier = true := by
  unfold isIdentifier at h
  cases hs : s.toList with
  | nil =>
    rw [hs] at h
    cases h
  | cons c rest =>
    rw [hs] at h
    simp only [formsIdentifier, Bool.and_eq_true] at h
    exact ⟨c, rest, rfl, h⟩

/-- The front of an identifier is one, unless it is empty. -/
theorem isIdentifier_of_append {a b : String} (ha : a ≠ "") (h : isIdentifier (a ++ b) = true) :
    isIdentifier a = true := by
  obtain ⟨c, rest, hlist, hstart, hrest⟩ := exists_toList_of_isIdentifier h
  rw [String.toList_append] at hlist
  cases hfront : a.toList with
  | nil => exact absurd (String.toList_eq_nil_iff.1 hfront) ha
  | cons d front =>
    rw [hfront, List.cons_append, List.cons.injEq] at hlist
    obtain ⟨rfl, hback⟩ := hlist
    rw [← hback, List.all_append, Bool.and_eq_true] at hrest
    rw [isIdentifier, hfront, formsIdentifier, hstart, hrest.1]
    rfl

/-- A name that is not empty stays as legal as it is when an ending is added. -/
theorem isIdentifier_append_iff {a b : String} (ha : a ≠ "")
    (hb : b.toList.all continuesIdentifier = true) :
    isIdentifier (a ++ b) = true ↔ isIdentifier a = true :=
  ⟨isIdentifier_of_append ha, fun h => isIdentifier_append h hb⟩

/-- Behind a character that starts an identifier, every character only has to continue one. -/
theorem isIdentifier_cons_iff {s name : String} {c : Char} (hs : s.toList = c :: name.toList)
    (hc : startsIdentifier c = true) :
    isIdentifier s = true ↔ ∀ d ∈ name.toList, continuesIdentifier d = true := by
  rw [isIdentifier, hs, formsIdentifier, hc, Bool.true_and, List.all_eq_true]

theorem ne_empty_of_not_blank {s : String} (h : isBlankText s = false) : s ≠ "" := by
  rintro rfl
  cases h

end Text

/-! ## What a module declares -/

namespace ModelModule

/-- The interfaces that a module declares: that of its model, and those of its messages. -/
def interfaceNames (m : ModelModule) : List String :=
  m.interfaceCode.name :: (m.messages.filterMap Placed.code?).map MessageCode.interfaceName

/-- Every name that a module declares at its top level, for a type or for a value. -/
def topLevelNames (m : ModelModule) : List String := m.interfaceNames ++ m.declaredNames

end ModelModule

/-- The names of an emitted message are identifiers. -/
theorem Message.isIdentifier_of_code {message : Message} {capabilities : CapabilitySet}
    {code : MessageCode} (h : message.code capabilities = .ok code) :
    Text.isIdentifier code.interfaceName = true ∧ Text.isIdentifier code.className = true := by
  have hname : Text.isIdentifier message.name = true := by
    unfold Message.code at h
    split at h
    · cases h
    · rename_i hname
      simpa using hname
  have hending : "DTO".toList.all Text.continuesIdentifier = true := by decide
  rw [Message.code_eq_ok h]
  exact ⟨hname, Text.isIdentifier_append hname hending⟩

/-- **How legal the names of a module are**, by the name of the model that it was emitted for. -/
structure LegalNames (model : String) (m : ModelModule) : Prop where
  /-- The names of messages always are. -/
  messages : ∀ code ∈ m.messages.filterMap Placed.code?,
    Text.isIdentifier code.interfaceName = true ∧ Text.isIdentifier code.className = true
  /-- The class and the two constants are when the name of the model is. -/
  values : ∀ n ∈ [m.classCode.model, structureName m.model, serializerName m.model],
    Text.isIdentifier n = true ↔ Text.isIdentifier model = true
  /-- In the name of the interface, that of the model stands behind a letter. -/
  interface : Text.isIdentifier m.interfaceCode.name = true ↔
    ∀ d ∈ model.toList, Text.continuesIdentifier d = true
  /-- All of them are when the name of the model is. -/
  topLevel : (∀ n ∈ m.topLevelNames, Text.isIdentifier n = true) ↔ Text.isIdentifier model = true

namespace Contract

variable {c : Contract} {contracts : List Contract} {ctx : EmissionContext} {resolver : Resolver}
  {links : Table LinkTarget} {fields : List (Placed MemberCode)}
  {messages : List (Placed MessageCode)}

theorem isIdentifier_interfaceName_iff :
    Text.isIdentifier c.interfaceName = true ↔
      ∀ d ∈ c.modelName.toList, Text.continuesIdentifier d = true :=
  Text.isIdentifier_cons_iff (by rw [interfaceName, String.toList_append]; rfl) (by decide)

/-- The names of a module put together from emitted parts. -/
theorem legalNames_moduleAround (hcheck : c.check = .ok ())
    (hmessages : c.placedMessages ctx = .ok messages) :
    LegalNames c.modelName (c.moduleAround contracts ctx resolver links fields messages) := by
  have hne : c.modelName ≠ "" := Text.ne_empty_of_not_blank (check_eq_ok_iff.1 hcheck).2.1
  have hparts : ∀ code ∈ messages.filterMap Placed.code?,
      Text.isIdentifier code.interfaceName = true ∧ Text.isIdentifier code.className = true := by
    intro code hcode
    obtain ⟨message, -, hcode⟩ := Placed.exists_of_mem_codes hmessages hcode
    exact Message.isIdentifier_of_code hcode
  have hvalues : ∀ n ∈ [c.modelName, structureName c.modelName, serializerName c.modelName],
      Text.isIdentifier n = true ↔ Text.isIdentifier c.modelName = true := by
    refine List.forall_mem_cons.2 ⟨Iff.rfl, ?_⟩
    refine List.forall_mem_cons.2 ⟨Text.isIdentifier_append_iff hne (by decide), ?_⟩
    exact List.forall_mem_singleton.2 (Text.isIdentifier_append_iff hne (by decide))
  refine ⟨hparts, hvalues, isIdentifier_interfaceName_iff, fun h => ?_, fun h n hn => ?_⟩
  · -- the class bears the name of the model
    exact h c.modelName (List.mem_append_right _ List.mem_cons_self)
  · rcases List.mem_append.1 hn with hn | hn
    · rcases List.mem_cons.1 hn with rfl | hn
      · obtain ⟨d, rest, hlist, hstart, hrest⟩ := Text.exists_toList_of_isIdentifier h
        refine isIdentifier_interfaceName_iff.2 ?_
        rw [hlist]
        refine List.forall_mem_cons.2 ⟨?_, List.all_eq_true.1 hrest⟩
        rw [Text.continuesIdentifier, hstart, Bool.true_or]
      · obtain ⟨code, hcode, rfl⟩ := List.mem_map.1 hn
        exact (hparts code hcode).1
    · rcases List.mem_append.1 hn with hn | hn
      · exact (hvalues n hn).2 h
      · obtain ⟨code, hcode, rfl⟩ := List.mem_map.1 hn
        exact (hparts code hcode).2

/-- **The names that an emitted module declares are legal exactly when the name of its model is**,
whatever the contract calls its fields, annotations and messages. -/
theorem legalNames_of_emitModel {t : String} (h : c.emitModel contracts ctx resolver = .ok t) :
    ∃ m, c.modelModule contracts ctx resolver = .ok m ∧ t = m.render ∧ LegalNames c.modelName m := by
  obtain ⟨m, hm, rfl⟩ := emitModel_eq_ok_iff.1 h
  obtain ⟨links, fields, messages, hcheck, -, -, hmessages, rfl⟩ := modelModule_eq_ok_iff.1 hm
  exact ⟨_, hm, rfl, legalNames_moduleAround hcheck hmessages⟩

/-- A contract that calls its controller by two words, with one message of a legal name and one that
is left out. -/
def userProfile : Contract :=
  { named "UserProfile" "User Profile" with
    messages := [⟨"Login", []⟩, ⟨"log out", []⟩] }

theorem legalNames_userProfile :
    ∃ t, userProfile.emitModel [userProfile] lenientContext nameResolver = .ok t ∧
      ∃ m, userProfile.modelModule [userProfile] lenientContext nameResolver = .ok m ∧
        t = m.render ∧ LegalNames "User Profile" m :=
  ⟨_, rfl, legalNames_of_emitModel rfl⟩

/-- The class of the module has a name of two words. -/
theorem not_isIdentifier_userProfile :
    ∃ m, (named "UserProfile" "User Profile").modelModule [named "UserProfile" "User Profile"]
        (.ofConfig .default .empty) nameResolver = .ok m ∧
      (named "UserProfile" "User Profile").emitModel [named "UserProfile" "User Profile"]
        (.ofConfig .default .empty) nameResolver = .ok m.render ∧
      "User Profile" ∈ m.topLevelNames ∧ Text.isIdentifier "User Profile" = false :=
  ⟨_, rfl, rfl, by decide, by decide⟩

end Contract

end ContractCompiler
