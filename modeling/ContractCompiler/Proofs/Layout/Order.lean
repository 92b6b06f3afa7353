import Mathlib.Data.List.Lex
import Mathlib.Data.String.Basic
import ContractCompiler.Proofs.Layout.Join

/-!
# The order of paths

Paths are ordered component by component, and names by their bytes. What stands below one path is
ordered by the names on the way to it.

* `utf8_lt_iff` — texts are ordered as their bytes are.
* `before_asymm` — the order of paths is strict.
* `components_below` — a path below another goes on with the names on the way.
* `before_below` — below one path, the names on the way decide the order.
-/

namespace ContractCompiler.Text

/-! ## Bytes

Texts are ordered by the code points of their characters. UTF-8 was made so that their bytes are
ordered alike: of two characters, the one with the smaller code point has the smaller byte where
their bytes first differ, whatever follows them.
-/

def utf8 (s : String) : List UInt8 := s.toUTF8.data.toList

theorem utf8_eq_flatMap (s : String) : utf8 s = s.toList.flatMap String.utf8EncodeChar := by
  have hofList (cs : List Char) : utf8 (String.ofList cs) = cs.flatMap String.utf8EncodeChar := by
    simp [utf8, String.ofList, List.utf8Encode]
  rw [← hofList, String.ofList_toList]

/-- **Of two characters, the smaller one has the smaller bytes**, whatever follows them: a longer
encoding has a larger first byte, and encodings of one length are digits to the base 64. -/
theorem utf8EncodeChar_append_lt {c d : Char} (h : c < d) (as bs : List UInt8) :
    String.utf8EncodeChar c ++ as < String.utf8EncodeChar d ++ bs := by
  have hlt : c.val.toNat < d.val.toNat := h
  have hmax : d.val.toNat < 0x110000 := by
    rcases d.valid with hd | ⟨-, hd⟩ <;> omega
  have hdigit₂ (v : Nat) : v / 4096 = v / 64 / 64 := by rw [Nat.div_div_eq_div_mul]
  have hdigit₃ (v : Nat) : v / 262144 = v / 64 / 64 / 64 := by
    rw [Nat.div_div_eq_div_mul, Nat.div_div_eq_div_mul]
  unfold String.utf8EncodeChar
  simp only [hdigit₂, hdigit₃]
  generalize c.val.toNat = v at *
  generalize d.val.toNat = w at *
  split_ifs <;>
    simp only [List.cons_append, List.nil_append, List.cons_lt_cons_iff, UInt8.lt_iff_toNat_lt,
      ← UInt8.toNat_inj, UInt8.toNat_ofNat'] <;>
    omega

theorem flatMap_utf8EncodeChar_lt {cs : List Char} :
    ∀ {ds : List Char}, cs < ds →
      cs.flatMap String.utf8EncodeChar < ds.flatMap String.utf8EncodeChar := by
  induction cs with
  | nil =>
    intro ds h
    cases ds with
    | nil => exact absurd h (List.not_lt_nil _)
    | cons d ds =>
      obtain ⟨b, bs, hd⟩ := List.exists_cons_of_ne_nil (String.utf8EncodeChar_ne_nil (c := d))
      rw [List.flatMap_cons, hd]
      exact List.nil_lt_cons _ _
  | cons c cs ih =>
    intro ds h
    cases ds with
    | nil => exact absurd h (List.not_lt_nil _)
    | cons d ds =>
      rw [List.flatMap_cons, List.flatMap_cons]
      rcases List.cons_lt_cons_iff.1 h with hlt | ⟨rfl, hlt⟩
      · exact utf8EncodeChar_append_lt hlt _ _
      · exact List.append_left_lt (ih hlt)

/-- **Texts are ordered as their bytes are.** -/
theorem utf8_lt_iff {s t : String} : utf8 s < utf8 t ↔ s < t := by
  have hmono {s t : String} (h : s < t) : utf8 s < utf8 t := by
    rw [utf8_eq_flatMap, utf8_eq_flatMap]
    exact flatMap_utf8EncodeChar_lt (String.lt_iff_toList_lt.1 h)
  refine ⟨fun h => ?_, hmono⟩
  rcases lt_trichotomy s t with hlt | rfl | hgt
  · exact hlt
  · exact absurd h (List.lt_irrefl _)
  · exact absurd h (List.lt_asymm (hmono hgt))

end ContractCompiler.Text

namespace ContractCompiler

/-! ## Paths -/

/-- The order of components: the root, a leading `.`, `..`, then names by their bytes. -/
inductive PathComponent.Before : PathComponent → PathComponent → Prop where
  | rootHere : Before .root .here
  | rootUp : Before .root .up
  | rootName {n : String} : Before .root (.name n)
  | hereUp : Before .here .up
  | hereName {n : String} : Before .here (.name n)
  | upName {n : String} : Before .up (.name n)
  | names {m n : String} (h : Text.utf8 m < Text.utf8 n) : Before (.name m) (.name n)

theorem PathComponent.Before.asymm {c d : PathComponent} (h : c.Before d) : ¬d.Before c := by
  intro h'
  cases h with
  | names hlt =>
    cases h' with
    | names hgt => exact List.lt_asymm hlt hgt
  | rootHere | rootUp | rootName | hereUp | hereName | upName => cases h'

namespace Path

/-- The order of paths, component by component. -/
def Before (p q : Path) : Prop := List.Lex PathComponent.Before p.components q.components

theorem before_asymm {p q : Path} (h : p.Before q) : ¬q.Before p :=
  have _ : Std.Asymm PathComponent.Before := ⟨fun _ _ => PathComponent.Before.asymm⟩
  (List.Lex.asymm PathComponent.Before).asymm _ _ h

instance : Std.Irrefl Before := ⟨fun _ h => before_asymm h h⟩

/-- The path of what stands below a path, by the names on the way. -/
def below (p : Path) (names : List String) : Path := names.foldl Path.join p

theorem below_cons (p : Path) (n : String) (names : List String) :
    p.below (n :: names) = (p.join n).below names := rfl

theorem below_concat (p : Path) (names : List String) (n : String) :
    p.below (names ++ [n]) = (p.below names).join n := List.foldl_concat _ _ _ _

theorem opening_of_isStep {n : String} (h : IsStep (.name n)) : (Path.mk n).opening = [] := by
  have hslash : '/' ∉ n.toList := h.slash_not_mem
  have hhere : n.toList ≠ ['.'] := by
    intro hn
    obtain rfl : n = "." := String.toList_inj.1 hn
    exact absurd h (by decide)
  rw [opening, if_neg (by rw [isAbsolute_of_slash_not_mem hslash]; exact Bool.false_ne_true),
    pieces_of_not_mem hslash]
  simpa using hhere

/-- **A path below another goes on with the names on the way.** -/
theorem components_below {names : List String} (h : ∀ n ∈ names, IsStep (.name n)) (p : Path) :
    (p.below names).components = p.components ++ names.map .name := by
  induction names generalizing p with
  | nil => rw [List.map_nil, List.append_nil, below, List.foldl_nil]
  | cons n rest ih =>
    obtain ⟨hn, hrest⟩ := List.forall_mem_cons.1 h
    have hsteps : steps n = [.name n] := hn
    rw [below_cons, ih hrest, components_join (opening_of_isStep hn), hsteps, List.append_assoc,
      List.map_cons, List.singleton_append]

theorem lex_map {α β : Type} {R : β → β → Prop} {f : α → β} {as bs : List α}
    (h : List.Lex (fun a b => R (f a) (f b)) as bs) : List.Lex R (as.map f) (bs.map f) := by
  induction h with
  | nil => exact .nil
  | cons _ ih => exact .cons ih
  | rel h => exact .rel h

/-- **Below one path, the names on the way decide the order.** -/
theorem before_below {p : Path} {ms ns : List String} (hm : ∀ n ∈ ms, IsStep (.name n))
    (hn : ∀ n ∈ ns, IsStep (.name n)) (h : ms < ns) : (p.below ms).Before (p.below ns) := by
  have hnames : List.Lex (fun m n => PathComponent.Before (.name m) (.name n)) ms ns :=
    List.Lex.imp (fun _ _ hlt => .names (Text.utf8_lt_iff.2 hlt)) _ _ (List.lex_lt.2 h)
  rw [Before, components_below hm, components_below hn]
  exact List.Lex.append_left _ (lex_map hnames) _

end Path

end ContractCompiler
