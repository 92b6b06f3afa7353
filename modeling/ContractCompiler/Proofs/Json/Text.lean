import Mathlib.Data.List.DropRight
import ContractCompiler.Proofs.Json.Distinct
import ContractCompiler.Proofs.Json.Literal

/-!
# Values are read from the text they are written as

`Raw.ofJson` is the tree that the text of a value is read as. The text is followed item by item, so
the statements hold for whatever stands after a value, as long as it does not go on with a number.

* `readsBack_of_isDoubleFree` — the text of a value is read as its tree, and no further.
* `ofText_pretty` — the indented text of a value without doubles is read as its tree.
-/

namespace ContractCompiler.Json

mutual

/-- No number in the value is a double. -/
def isDoubleFree : Json → Bool
  | null | bool _ | string _ => true
  | number (.integer ..) => true
  | number (.double _) => false
  | array items => areDoubleFree items
  | object members => haveDoubleFree members

def areDoubleFree : List Json → Bool
  | [] => true
  | v :: rest => isDoubleFree v && areDoubleFree rest

def haveDoubleFree : List (String × Json) → Bool
  | [] => true
  | (_, v) :: rest => isDoubleFree v && haveDoubleFree rest

end

theorem isDoubleFree_array {items : List Json} :
    (array items).isDoubleFree = true ↔ ∀ v ∈ items, v.isDoubleFree = true := by
  rw [isDoubleFree]
  induction items with
  | nil => simp [areDoubleFree]
  | cons v rest ih => rw [areDoubleFree, Bool.and_eq_true, ih, List.forall_mem_cons]

theorem isDoubleFree_object {members : List (String × Json)} :
    (object members).isDoubleFree = true ↔ ∀ m ∈ members, m.2.isDoubleFree = true := by
  rw [isDoubleFree]
  induction members with
  | nil => simp [haveDoubleFree]
  | cons m rest ih => rw [haveDoubleFree, Bool.and_eq_true, ih, List.forall_mem_cons]

namespace Raw

mutual

/-- What the text of a value is read as, inside containers of this nesting level. -/
def ofJson (level : Nat) : Json → Raw
  | .null => null
  | .bool b => bool b
  | .number n => number (some n)
  | .string s => string (some s)
  | .array items => array (level + 1) (ofItems (level + 1) items) true
  | .object members => object (level + 1) (ofMembers (level + 1) members) true

def ofItems (level : Nat) : List Json → List Raw
  | [] => []
  | v :: rest => ofJson level v :: ofItems level rest

def ofMembers (level : Nat) : List (String × Json) → List (Option String × Raw)
  | [] => []
  | (k, v) :: rest => (some k, ofJson level v) :: ofMembers level rest

end

/-! ## White space -/

theorem skipSpace_append {spaces : List Char} (h : ∀ c ∈ spaces, isSpace c = true)
    (cs : List Char) : skipSpace (spaces ++ cs) = skipSpace cs := by
  induction spaces with
  | nil => rfl
  | cons c spaces ih =>
    obtain ⟨hc, hspaces⟩ := List.forall_mem_cons.1 h
    rw [List.cons_append, skipSpace, List.dropWhile_cons_of_pos hc]
    exact ih hspaces

theorem skipSpace_cons {c : Char} (h : isSpace c = false) (cs : List Char) :
    skipSpace (c :: cs) = c :: cs :=
  List.dropWhile_cons_of_neg (by simp [h])

theorem isSpace_indentation {level : Nat} : ∀ c ∈ (indentation level).toList, isSpace c = true := by
  intro c hc
  rw [indentation, String.toList_ofList] at hc
  rw [List.eq_of_mem_replicate hc]
  rfl

/-- The white space before the closing sign of a container. -/
theorem skipSpace_closing {c : Char} (hc : isSpace c = false) (level : Nat) (rest : List Char) :
    skipSpace ('\n' :: ((indentation level).toList ++ c :: rest)) = c :: rest := by
  have hnewline : skipSpace ('\n' :: ((indentation level).toList ++ c :: rest)) =
      skipSpace ((indentation level).toList ++ c :: rest) := rfl
  rw [hnewline, skipSpace_append isSpace_indentation, skipSpace_cons hc]

variable {level fuel : Nat} {cs rest : List Char}

theorem skipSpace_skipSpace : skipSpace (skipSpace cs) = skipSpace cs :=
  List.dropWhile_idempotent isSpace cs

theorem readValue_congr {cs ds : List Char} (h : skipSpace cs = skipSpace ds) :
    readValue level fuel cs = readValue level fuel ds := by
  cases fuel with
  | zero => rfl
  | succ fuel => rw [readValue, readValue, h]

theorem readItems_congr {cs ds : List Char} (h : skipSpace cs = skipSpace ds) :
    readItems level fuel cs = readItems level fuel ds := by
  cases fuel with
  | zero => rfl
  | succ fuel => rw [readItems, readItems, readValue_congr h]

theorem readMembers_congr {cs ds : List Char} (h : skipSpace cs = skipSpace ds) :
    readMembers level fuel cs = readMembers level fuel ds := by
  cases fuel with
  | zero => rfl
  | succ fuel => rw [readMembers, readMembers, h]

theorem readValue_indentation {indent : Nat} :
    readValue level fuel ((indentation indent).toList ++ cs) = readValue level fuel cs :=
  readValue_congr (skipSpace_append isSpace_indentation cs)

theorem readValue_blank : readValue level fuel (' ' :: cs) = readValue level fuel cs :=
  readValue_congr rfl

theorem readItems_newline : readItems level fuel ('\n' :: cs) = readItems level fuel cs :=
  readItems_congr rfl

theorem readMembers_newline : readMembers level fuel ('\n' :: cs) = readMembers level fuel cs :=
  readMembers_congr rfl

/-! ## Scalars -/

theorem toList_quote_append (s : String) : (quote s).toList ++ rest =
    '"' :: (s.toList.flatMap escapeChar ++ '"' :: rest) := by
  rw [quote, String.toList_ofList, List.cons_append, List.cons_append, List.append_assoc,
    List.singleton_append]

theorem readWord_append (word : String) (value : Raw) :
    readWord word value (word.toList ++ rest) = (value, some rest) := by
  have hprefix : word.toList.isPrefixOf (word.toList ++ rest) = true := by simp
  rw [readWord, afterWord, if_pos hprefix, List.drop_left]

theorem readValue_number {c : Char} (hc : c = '-' ∨ c.isDigit = true) {numeral : Numeral}
    {after : List Char} (h : readNumeral (c :: cs) = some (numeral, after)) :
    readValue level (fuel + 1) (c :: cs) = (number numeral.toNumber?, some after) := by
  have hother : isSpace c = false ∧
      c ≠ '"' ∧ c ≠ '[' ∧ c ≠ '\x7b' ∧ c ≠ 'n' ∧ c ≠ 't' ∧ c ≠ 'f' := by
    rcases hc with rfl | hc
    · decide
    refine ⟨?_, ?_, ?_, ?_, ?_, ?_, ?_⟩
    · refine Bool.eq_false_iff.2 fun hspace => ?_
      simp only [isSpace, Bool.or_eq_true, decide_eq_true_eq] at hspace
      rcases hspace with ((rfl | rfl) | rfl) | rfl <;> cases hc
    all_goals
      rintro rfl
      cases hc
  obtain ⟨hspace, hquote, hbracket, hbrace, hn, ht, hf⟩ := hother
  rw [readValue, skipSpace_cons hspace]
  dsimp only
  rw [if_neg hquote, if_neg hbracket, if_neg hbrace, if_neg hn, if_neg ht, if_neg hf, h]

/-! ## Containers -/

theorem readItems_last {x : Raw} {after : List Char}
    (hx : readValue level fuel cs = (x, some after)) (hafter : skipSpace after = ']' :: rest) :
    readItems level (fuel + 1) cs = ([x], some rest) := by
  simp only [readItems, hx, hafter]

theorem readItems_more {x : Raw} {xs : List Raw} {after : List Char}
    (hx : readValue level fuel cs = (x, some (',' :: after)))
    (hafter : readItems level fuel after = (xs, some rest)) :
    readItems level (fuel + 1) cs = (x :: xs, some rest) := by
  have hcomma : skipSpace (',' :: after) = ',' :: after := skipSpace_cons rfl after
  simp only [readItems, hx, hcomma, hafter]

/-- No items begin with a closing bracket. -/
theorem readItems_closing {xs : List Raw} {after : List Char} :
    readItems level fuel (']' :: rest) ≠ (xs, some after) := by
  have hvalue : ∀ fuel, readValue level fuel (']' :: rest) = (broken, none) := by
    intro fuel
    cases fuel with
    | zero => rfl
    | succ fuel => rfl
  cases fuel with
  | zero =>
    intro h
    cases h
  | succ fuel =>
    rw [readItems, hvalue]
    intro h
    cases h

theorem readValue_array {items : List Raw}
    (h : readItems (level + 1) fuel (skipSpace cs) = (items, some rest)) :
    readValue level (fuel + 1) ('[' :: cs) = (array (level + 1) items true, some rest) := by
  rw [readValue, skipSpace_cons rfl]
  dsimp only
  rw [if_neg (by decide), if_pos rfl]
  split
  · -- a text that closes at once would have no items to read
    rename_i hclosing
    rw [hclosing] at h
    exact absurd h readItems_closing
  · rw [h]

theorem readMembers_last {key : Option String} {x : Raw} {body value after : List Char}
    (hcs : skipSpace cs = '"' :: body) (hkey : readString body = some (key, ':' :: value))
    (hx : readValue level fuel value = (x, some after)) (hafter : skipSpace after = '\x7d' :: rest) :
    readMembers level (fuel + 1) cs = ([(key, x)], some rest) := by
  have hcolon : skipSpace (':' :: value) = ':' :: value := skipSpace_cons rfl value
  simp only [readMembers, hcs, hkey, hcolon, hx, hafter]

theorem readMembers_more {key : Option String} {x : Raw} {members : List (Option String × Raw)}
    {body value after : List Char} (hcs : skipSpace cs = '"' :: body)
    (hkey : readString body = some (key, ':' :: value))
    (hx : readValue level fuel value = (x, some (',' :: after)))
    (hafter : readMembers level fuel after = (members, some rest)) :
    readMembers level (fuel + 1) cs = ((key, x) :: members, some rest) := by
  have hcolon : skipSpace (':' :: value) = ':' :: value := skipSpace_cons rfl value
  have hcomma : skipSpace (',' :: after) = ',' :: after := skipSpace_cons rfl after
  simp only [readMembers, hcs, hkey, hcolon, hx, hcomma, hafter]

/-- No members begin with a closing brace. -/
theorem readMembers_closing {members : List (Option String × Raw)} {after : List Char} :
    readMembers level fuel ('\x7d' :: rest) ≠ (members, some after) := by
  cases fuel with
  | zero =>
    intro h
    cases h
  | succ fuel =>
    rw [readMembers, skipSpace_cons rfl]
    intro h
    cases h

theorem readValue_object {members : List (Option String × Raw)}
    (h : readMembers (level + 1) fuel (skipSpace cs) = (members, some rest)) :
    readValue level (fuel + 1) ('\x7b' :: cs) = (object (level + 1) members true, some rest) := by
  rw [readValue, skipSpace_cons rfl]
  dsimp only
  rw [if_neg (by decide), if_neg (by decide), if_pos rfl]
  split
  · rename_i hclosing
    rw [hclosing] at h
    exact absurd h readMembers_closing
  · rw [h]

/-! ## Values -/

/-- The text of the value is read as its tree, at every indentation and before whatever does not go
on with a number. Fuel beyond the length of that text is enough, whatever follows it. -/
def ReadsBack (v : Json) : Prop :=
  ∀ ⦃indent level fuel : Nat⦄ ⦃rest : List Char⦄, (v.prettyAt indent).toList.length < fuel →
    EndsNumeral rest →
      readValue level fuel ((v.prettyAt indent).toList ++ rest) = (ofJson level v, some rest)

theorem readItems_prettyItems {indent : Nat} {after : List Char} (hend : EndsNumeral after)
    (hafter : skipSpace after = ']' :: rest) {items : List Json} (h : ∀ v ∈ items, ReadsBack v)
    (hne : items ≠ []) : ∀ {fuel}, (prettyItems indent items).toList.length + 1 < fuel →
      readItems level fuel ((prettyItems indent items).toList ++ after) =
        (ofItems level items, some rest) := by
  induction items with
  | nil => exact absurd rfl hne
  | cons v items ih =>
    intro fuel hfuel
    obtain ⟨hv, hitems⟩ := List.forall_mem_cons.1 h
    -- each item takes one unit of fuel, and at least the line break in front of it
    obtain ⟨fuel, rfl⟩ : ∃ f, fuel = f + 1 := ⟨fuel - 1, by omega⟩
    have hcomma : ",\n".toList = [',', '\n'] := rfl
    cases items with
    | nil =>
      simp only [prettyItems, String.toList_append, List.length_append, List.append_assoc] at hfuel ⊢
      refine readItems_last ?_ hafter
      rw [readValue_indentation]
      exact hv (by omega) hend
    | cons w items =>
      simp only [prettyItems, String.toList_append, List.length_append, List.append_assoc, hcomma,
        List.cons_append, List.nil_append, List.length_cons] at hfuel ⊢
      have hrest : readItems level fuel
          ('\n' :: ((prettyItems indent (w :: items)).toList ++ after)) =
            (ofItems level (w :: items), some rest) := by
        rw [readItems_newline]
        exact ih hitems (List.cons_ne_nil w items) (by omega)
      refine readItems_more ?_ hrest
      rw [readValue_indentation]
      exact hv (by omega) (endsNumeral_cons (by decide))

theorem skipSpace_key {indent : Nat} {k : String} :
    skipSpace ((indentation indent).toList ++ ((quote k).toList ++ cs)) =
      '"' :: (k.toList.flatMap escapeChar ++ '"' :: cs) := by
  rw [skipSpace_append isSpace_indentation, toList_quote_append, skipSpace_cons rfl]

theorem readMembers_prettyMembers {indent : Nat} {after : List Char} (hend : EndsNumeral after)
    (hafter : skipSpace after = '\x7d' :: rest) {members : List (String × Json)}
    (h : ∀ m ∈ members, ReadsBack m.2) (hne : members ≠ []) :
    ∀ {fuel}, (prettyMembers indent members).toList.length + 1 < fuel →
      readMembers level fuel ((prettyMembers indent members).toList ++ after) =
        (ofMembers level members, some rest) := by
  induction members with
  | nil => exact absurd rfl hne
  | cons m members ih =>
    obtain ⟨k, v⟩ := m
    intro fuel hfuel
    obtain ⟨hv, hmembers⟩ : ReadsBack v ∧ ∀ m ∈ members, ReadsBack m.2 :=
      List.forall_mem_cons.1 h
    obtain ⟨fuel, rfl⟩ : ∃ f, fuel = f + 1 := ⟨fuel - 1, by omega⟩
    have hcolon : ": ".toList = [':', ' '] := rfl
    have hcomma : ",\n".toList = [',', '\n'] := rfl
    cases members with
    | nil =>
      simp only [prettyMembers, String.toList_append, List.length_append, List.append_assoc, hcolon,
        List.cons_append, List.nil_append, List.length_cons] at hfuel ⊢
      refine readMembers_last skipSpace_key (readString_escaped k _) ?_ hafter
      rw [readValue_blank]
      exact hv (by omega) hend
    | cons w members =>
      simp only [prettyMembers, String.toList_append, List.length_append, List.append_assoc, hcolon,
        hcomma, List.cons_append, List.nil_append, List.length_cons] at hfuel ⊢
      have hrest : readMembers level fuel
          ('\n' :: ((prettyMembers indent (w :: members)).toList ++ after)) =
            (ofMembers level (w :: members), some rest) := by
        rw [readMembers_newline]
        exact ih hmembers (List.cons_ne_nil w members) (by omega)
      refine readMembers_more skipSpace_key (readString_escaped k _) ?_ hrest
      rw [readValue_blank]
      exact hv (by omega) (endsNumeral_cons (by decide))

/-! ## Values without doubles -/

theorem readsBack_null : ReadsBack .null := by
  intro indent level fuel rest hfuel _
  obtain ⟨fuel, rfl⟩ : ∃ f, fuel = f + 1 := ⟨fuel - 1, by omega⟩
  rw [prettyAt]
  exact readWord_append "null" null

theorem readsBack_bool (b : Bool) : ReadsBack (.bool b) := by
  intro indent level fuel rest hfuel _
  obtain ⟨fuel, rfl⟩ : ∃ f, fuel = f + 1 := ⟨fuel - 1, by omega⟩
  rw [prettyAt]
  cases b with
  | false => exact readWord_append "false" (bool false)
  | true => exact readWord_append "true" (bool true)

theorem readsBack_string (s : String) : ReadsBack (.string s) := by
  intro indent level fuel rest hfuel _
  obtain ⟨fuel, rfl⟩ : ∃ f, fuel = f + 1 := ⟨fuel - 1, by omega⟩
  rw [prettyAt, toList_quote_append, readValue, skipSpace_cons rfl]
  dsimp only
  rw [if_pos rfl, readString_escaped, ofJson]

theorem readsBack_number {i : Int} (fits : -0x8000000000000000 ≤ i ∧ i < 0x10000000000000000) :
    ReadsBack (.number (.integer i fits)) := by
  intro indent level fuel rest hfuel hend
  obtain ⟨c, cs, hcs, hc⟩ := head_render_integer fits
  obtain ⟨numeral, hread, hnumber⟩ := readNumeral_integer fits hend
  simp only [prettyAt, hcs, List.cons_append, List.length_cons] at hfuel hread ⊢
  obtain ⟨fuel, rfl⟩ : ∃ f, fuel = f + 1 := ⟨fuel - 1, by omega⟩
  rw [readValue_number hc hread, hnumber, ofJson]

theorem readsBack_array {items : List Json} (h : ∀ v ∈ items, ReadsBack v) :
    ReadsBack (.array items) := by
  intro indent level fuel rest hfuel hend
  cases items with
  | nil =>
    have hempty : "[]".toList = ['[', ']'] := rfl
    obtain ⟨fuel, rfl⟩ : ∃ f, fuel = f + 1 := ⟨fuel - 1, by omega⟩
    rw [prettyAt, hempty]
    rfl
  | cons v items =>
    have hopen : "[\n".toList = ['[', '\n'] := rfl
    have hline : "\n".toList = ['\n'] := rfl
    have hclose : "]".toList = [']'] := rfl
    simp only [prettyAt, String.toList_append, List.length_append, hopen, hline, hclose,
      List.append_assoc, List.cons_append, List.nil_append, List.length_cons] at hfuel ⊢
    obtain ⟨fuel, rfl⟩ : ∃ f, fuel = f + 1 := ⟨fuel - 1, by omega⟩
    refine readValue_array ?_
    rw [readItems_congr skipSpace_skipSpace, readItems_newline]
    exact readItems_prettyItems (endsNumeral_cons (by decide)) (skipSpace_closing rfl indent rest) h
      (List.cons_ne_nil v items) (by omega)

theorem readsBack_object {members : List (String × Json)} (h : ∀ m ∈ members, ReadsBack m.2) :
    ReadsBack (.object members) := by
  intro indent level fuel rest hfuel hend
  cases members with
  | nil =>
    have hempty : "\x7b\x7d".toList = ['\x7b', '\x7d'] := rfl
    obtain ⟨fuel, rfl⟩ : ∃ f, fuel = f + 1 := ⟨fuel - 1, by omega⟩
    rw [prettyAt, hempty]
    rfl
  | cons m members =>
    have hopen : "\x7b\n".toList = ['\x7b', '\n'] := rfl
    have hline : "\n".toList = ['\n'] := rfl
    have hclose : "\x7d".toList = ['\x7d'] := rfl
    simp only [prettyAt, String.toList_append, List.length_append, hopen, hline, hclose,
      List.append_assoc, List.cons_append, List.nil_append, List.length_cons] at hfuel ⊢
    obtain ⟨fuel, rfl⟩ : ∃ f, fuel = f + 1 := ⟨fuel - 1, by omega⟩
    refine readValue_object ?_
    rw [readMembers_congr skipSpace_skipSpace, readMembers_newline]
    exact readMembers_prettyMembers (endsNumeral_cons (by decide))
      (skipSpace_closing rfl indent rest) h (List.cons_ne_nil m members) (by omega)

/-- **The text of a value without doubles is read as its tree, and no further.** -/
theorem readsBack_of_isDoubleFree {v : Json} (h : v.isDoubleFree = true) : ReadsBack v := by
  induction v with
  | null => exact readsBack_null
  | bool b => exact readsBack_bool b
  | number n =>
    cases n with
    | integer i fits => exact readsBack_number fits
    | double d => cases h
  | string s => exact readsBack_string s
  | array items ih =>
    have hitems := isDoubleFree_array.1 h
    exact readsBack_array fun v hv => ih v hv (hitems v hv)
  | object members ih =>
    have hmembers := isDoubleFree_object.1 h
    exact readsBack_object fun m hm => ih m hm (hmembers m hm)

/-- **The indented text of a value without doubles is read as its tree**, and nothing follows. -/
theorem ofText_pretty {v : Json} (h : v.isDoubleFree = true) :
    ofText v.pretty = (ofJson 0 v, true) := by
  have hread : readValue 0 (v.pretty.length + 1) v.pretty.toList = (ofJson 0 v, some []) := by
    have hfuel : v.pretty.toList.length < v.pretty.length + 1 := by
      rw [String.length_toList]
      exact Nat.lt_succ_self _
    have hvalue : readValue 0 (v.pretty.length + 1) (v.pretty.toList ++ []) =
        (ofJson 0 v, some []) := readsBack_of_isDoubleFree h hfuel endsNumeral_nil
    rwa [List.append_nil] at hvalue
  rw [ofText, hread]
  rfl

end Raw

end ContractCompiler.Json
