import ContractCompiler.Proofs.Literal.Token

/-!
# The grammar of literals

A literal is a JSON value in which names may stand for values that are written elsewhere. Keys are
identifiers or strings, and a comma may follow the last item or member.

* `Derives` — the grammar: which tokens a literal may be written with.
* `reads_of_derives`, `derives_of_reads` — the reader of tokens follows the grammar, in both
  directions.
* `ofText_eq_some_iff` — a text is read as a literal exactly when its tokens are derived for it.
-/

namespace ContractCompiler

/-- What an expression made of literals and names stands for. -/
inductive Literal where
  | null
  | bool (value : Bool)
  | number (value : JsonNumber)
  | string (value : String)
  | array (items : List Literal)
  | object (members : List (String × Literal))
  /-- A name in scope. -/
  | ref (name : String)
deriving Repr

namespace Literal

/-- The literal that a word is: a keyword or a name. -/
def ofWord (name : String) : Literal :=
  if name = "null" then null
  else if name = "true" then bool true
  else if name = "false" then bool false
  else ref name

/-- The key that a token is. -/
def Token.key? : Token → Option String
  | word name => some name
  | string s => some s
  | _ => none

/-! ## The grammar -/

/-- What a stretch of tokens is derived for. -/
inductive Phrase where
  | value (x : Literal)
  /-- Items up to the closing bracket. -/
  | items (xs : List Literal)
  /-- Members up to the closing brace. -/
  | members (ms : List (String × Literal))

/-- The grammar of literals. -/
inductive Derives : Phrase → List Token → Prop
  | word (name : String) : Derives (.value (ofWord name)) [.word name]
  | string (s : String) : Derives (.value (.string s)) [.string s]
  | number (n : JsonNumber) : Derives (.value (.number n)) [.number n]
  | array {xs : List Literal} {ts : List Token} (h : Derives (.items xs) ts) :
    Derives (.value (.array xs)) (.openBracket :: ts)
  | object {ms : List (String × Literal)} {ts : List Token} (h : Derives (.members ms) ts) :
    Derives (.value (.object ms)) (.openBrace :: ts)
  | noItems : Derives (.items []) [.closeBracket]
  | lastItem {x : Literal} {ts : List Token} (h : Derives (.value x) ts) :
    Derives (.items [x]) (ts ++ [.closeBracket])
  | item {x : Literal} {xs : List Literal} {ts us : List Token} (h : Derives (.value x) ts)
    (hrest : Derives (.items xs) us) : Derives (.items (x :: xs)) (ts ++ .comma :: us)
  | noMembers : Derives (.members []) [.closeBrace]
  | lastMember {key : Token} {k : String} {x : Literal} {ts : List Token} (hkey : key.key? = some k)
    (h : Derives (.value x) ts) :
    Derives (.members [(k, x)]) (key :: .colon :: ts ++ [.closeBrace])
  | member {key : Token} {k : String} {x : Literal} {ms : List (String × Literal)}
    {ts us : List Token} (hkey : key.key? = some k) (h : Derives (.value x) ts)
    (hrest : Derives (.members ms) us) :
    Derives (.members ((k, x) :: ms)) (key :: .colon :: ts ++ .comma :: us)

/-! ## The reader -/

mutual

/-- The literal at the front of the tokens, and the tokens behind it. `fuel` exceeds the number of
the tokens. -/
def readValue : Nat → List Token → Option (Literal × List Token)
  | 0, _ => none
  | fuel + 1, ts =>
    match ts with
    | .word name :: rest => some (ofWord name, rest)
    | .string s :: rest => some (.string s, rest)
    | .number n :: rest => some (.number n, rest)
    | .openBracket :: rest => (readItems fuel rest).map fun r => (.array r.1, r.2)
    | .openBrace :: rest => (readMembers fuel rest).map fun r => (.object r.1, r.2)
    | _ => none

def readItems : Nat → List Token → Option (List Literal × List Token)
  | 0, _ => none
  | fuel + 1, ts =>
    match ts with
    | .closeBracket :: rest => some ([], rest)
    | _ =>
      match readValue fuel ts with
      | some (x, .closeBracket :: rest) => some ([x], rest)
      | some (x, .comma :: rest) => (readItems fuel rest).map fun r => (x :: r.1, r.2)
      | _ => none

def readMembers : Nat → List Token → Option (List (String × Literal) × List Token)
  | 0, _ => none
  | fuel + 1, ts =>
    match ts with
    | .closeBrace :: rest => some ([], rest)
    | key :: .colon :: rest =>
      match key.key?, readValue fuel rest with
      | some k, some (x, .closeBrace :: rest) => some ([(k, x)], rest)
      | some k, some (x, .comma :: rest) =>
        (readMembers fuel rest).map fun r => ((k, x) :: r.1, r.2)
      | _, _ => none
    | _ => none

end

/-- The literal that a text writes, and nothing else. -/
def ofText (s : String) : Option Literal :=
  match Token.tokenize s.toList with
  | some ts =>
    match readValue (ts.length + 1) ts with
    | some (x, []) => some x
    | _ => none
  | none => none

/-- The reader takes the phrase off the front of the tokens. -/
def Phrase.Reads (fuel : Nat) (ts rest : List Token) : Phrase → Prop
  | value x => readValue fuel ts = some (x, rest)
  | items xs => readItems fuel ts = some (xs, rest)
  | members ms => readMembers fuel ts = some (ms, rest)

variable {p : Phrase} {x : Literal} {xs : List Literal} {ms : List (String × Literal)} {key : Token}
  {k : String} {fuel : Nat} {ts after rest : List Token}

/-! ## What is derived is read -/

/-- No value begins with a closing bracket. -/
theorem ne_of_readValue (h : readValue fuel ts = some (x, rest)) (after : List Token) :
    ts ≠ .closeBracket :: after := by
  rintro rfl
  cases fuel with
  | zero => cases h
  | succ fuel => cases h

/-- No key is a closing brace. -/
theorem Token.ne_of_key? (h : key.key? = some k) : key ≠ .closeBrace := by
  rintro rfl
  cases h

theorem readItems_last (h : readValue fuel ts = some (x, .closeBracket :: rest)) :
    readItems (fuel + 1) ts = some ([x], rest) := by
  rw [readItems, h]
  exact ne_of_readValue h

theorem readItems_more (h : readValue fuel ts = some (x, .comma :: after))
    (hafter : readItems fuel after = some (xs, rest)) :
    readItems (fuel + 1) ts = some (x :: xs, rest) := by
  rw [readItems, h]
  · dsimp only
    rw [hafter, Option.map_some]
  · exact ne_of_readValue h

theorem readMembers_last (hkey : key.key? = some k)
    (h : readValue fuel ts = some (x, .closeBrace :: rest)) :
    readMembers (fuel + 1) (key :: .colon :: ts) = some ([(k, x)], rest) := by
  rw [readMembers, hkey, h]
  exact Token.ne_of_key? hkey

theorem readMembers_more (hkey : key.key? = some k)
    (h : readValue fuel ts = some (x, .comma :: after))
    (hafter : readMembers fuel after = some (ms, rest)) :
    readMembers (fuel + 1) (key :: .colon :: ts) = some ((k, x) :: ms, rest) := by
  rw [readMembers, hkey, h]
  · dsimp only
    rw [hafter, Option.map_some]
  · exact Token.ne_of_key? hkey

/-- **What is derived is read**, and no further. -/
theorem reads_of_derives (h : Derives p ts) (hfuel : ts.length < fuel) (rest : List Token) :
    p.Reads fuel (ts ++ rest) rest := by
  -- every reader spends one unit of fuel before it calls another
  induction h generalizing fuel rest <;>
    obtain ⟨fuel, rfl⟩ : ∃ f, fuel = f + 1 := ⟨fuel - 1, by omega⟩
  case word | string | number | noItems | noMembers => rfl
  case array xs ts _ ih =>
    have hitems : readItems fuel (ts ++ rest) = some (xs, rest) :=
      ih (Nat.lt_of_succ_lt_succ hfuel) rest
    rw [Phrase.Reads, List.cons_append, readValue, hitems, Option.map_some]
  case object ms ts _ ih =>
    have hmembers : readMembers fuel (ts ++ rest) = some (ms, rest) :=
      ih (Nat.lt_of_succ_lt_succ hfuel) rest
    rw [Phrase.Reads, List.cons_append, readValue, hmembers, Option.map_some]
  case lastItem _ ih =>
    rw [List.length_append, List.length_singleton] at hfuel
    rw [List.append_assoc]
    exact readItems_last (ih (by omega) (.closeBracket :: rest))
  case item us _ _ ih ihrest =>
    rw [List.length_append, List.length_cons] at hfuel
    rw [List.append_assoc]
    exact readItems_more (ih (by omega) (.comma :: us ++ rest)) (ihrest (by omega) rest)
  case lastMember hkey _ ih =>
    simp only [List.cons_append, List.length_cons, List.length_append, List.length_nil] at hfuel
    rw [List.append_assoc]
    exact readMembers_last hkey (ih (by omega) (.closeBrace :: rest))
  case member us hkey _ _ ih ihrest =>
    simp only [List.cons_append, List.length_cons, List.length_append] at hfuel
    rw [List.append_assoc]
    exact readMembers_more hkey (ih (by omega) (.comma :: us ++ rest)) (ihrest (by omega) rest)

/-! ## What is read is derived -/

/-- With this fuel, what is read is derived. -/
def ReadsDerived (fuel : Nat) : Prop :=
  ∀ {p : Phrase} {ts rest : List Token}, p.Reads fuel ts rest →
    ∃ front, ts = front ++ rest ∧ Derives p front

theorem ReadsDerived.value (ih : ReadsDerived fuel) (h : readValue (fuel + 1) ts = some (x, rest)) :
    ∃ front, ts = front ++ rest ∧ Derives (.value x) front := by
  unfold readValue at h
  split at h
  · cases h
    exact ⟨_, rfl, .word _⟩
  · cases h
    exact ⟨_, rfl, .string _⟩
  · cases h
    exact ⟨_, rfl, .number _⟩
  · obtain ⟨⟨xs, after⟩, hitems, heq⟩ := Option.map_eq_some_iff.1 h
    cases heq
    obtain ⟨front, rfl, hfront⟩ := ih (p := .items xs) hitems
    exact ⟨_, rfl, .array hfront⟩
  · obtain ⟨⟨ms, after⟩, hmembers, heq⟩ := Option.map_eq_some_iff.1 h
    cases heq
    obtain ⟨front, rfl, hfront⟩ := ih (p := .members ms) hmembers
    exact ⟨_, rfl, .object hfront⟩
  · cases h

theorem ReadsDerived.items (ih : ReadsDerived fuel) (h : readItems (fuel + 1) ts = some (xs, rest)) :
    ∃ front, ts = front ++ rest ∧ Derives (.items xs) front := by
  unfold readItems at h
  split at h
  · cases h
    exact ⟨_, rfl, .noItems⟩
  split at h
  · rename_i x after hx
    cases h
    obtain ⟨front, rfl, hfront⟩ := ih (p := .value x) hx
    exact ⟨front ++ [.closeBracket], by simp, .lastItem hfront⟩
  · rename_i x after hx
    obtain ⟨⟨xs, behind⟩, hitems, heq⟩ := Option.map_eq_some_iff.1 h
    cases heq
    obtain ⟨front, rfl, hfront⟩ := ih (p := .value x) hx
    obtain ⟨back, rfl, hback⟩ := ih (p := .items xs) hitems
    exact ⟨front ++ .comma :: back, by simp, .item hfront hback⟩
  · cases h

theorem ReadsDerived.members (ih : ReadsDerived fuel)
    (h : readMembers (fuel + 1) ts = some (ms, rest)) :
    ∃ front, ts = front ++ rest ∧ Derives (.members ms) front := by
  unfold readMembers at h
  split at h
  · cases h
    exact ⟨_, rfl, .noMembers⟩
  · split at h
    · rename_i k x after hkey hx
      cases h
      obtain ⟨front, rfl, hfront⟩ := ih (p := .value x) hx
      exact ⟨_, by simp, .lastMember hkey hfront⟩
    · rename_i k x after hkey hx
      obtain ⟨⟨ms, behind⟩, hmembers, heq⟩ := Option.map_eq_some_iff.1 h
      cases heq
      obtain ⟨front, rfl, hfront⟩ := ih (p := .value x) hx
      obtain ⟨back, rfl, hback⟩ := ih (p := .members ms) hmembers
      exact ⟨_, by simp, .member hkey hfront hback⟩
    · cases h
  · cases h

/-- **What is read is derived.** -/
theorem derives_of_reads (h : p.Reads fuel ts rest) :
    ∃ front, ts = front ++ rest ∧ Derives p front := by
  -- the fuel is the same for the three readers, so one induction on it carries all of them
  have hreads : ∀ fuel, ReadsDerived fuel := by
    intro fuel
    induction fuel with
    | zero =>
      intro p ts rest h
      cases p <;> cases h
    | succ fuel ih =>
      intro p ts rest h
      cases p with
      | value x => exact ih.value h
      | items xs => exact ih.items h
      | members ms => exact ih.members h
  exact hreads fuel h

/-- **A text is read as a literal exactly when its tokens are derived for it.** -/
theorem ofText_eq_some_iff {s : String} :
    ofText s = some x ↔ ∃ ts, Token.tokenize s.toList = some ts ∧ Derives (.value x) ts := by
  constructor
  · intro h
    unfold ofText at h
    split at h
    · rename_i ts hts
      split at h
      · rename_i y hread
        cases h
        obtain ⟨front, heq, hfront⟩ := derives_of_reads (p := .value x) hread
        rw [List.append_nil] at heq
        exact ⟨ts, hts, heq ▸ hfront⟩
      · cases h
    · cases h
  · rintro ⟨ts, hts, hderives⟩
    have hread : readValue (ts.length + 1) (ts ++ []) = some (x, []) :=
      reads_of_derives hderives (Nat.lt_succ_self _) []
    rw [List.append_nil] at hread
    rw [ofText, hts]
    dsimp only
    rw [hread]

/-- White space may stand around any token, and a comma behind the last item or member. -/
example : ofText "\x7b key : [ true , Name , ] ,\n\x7d" =
    some (.object [("key", .array [.bool true, .ref "Name"])]) := by cbv

end Literal

end ContractCompiler
