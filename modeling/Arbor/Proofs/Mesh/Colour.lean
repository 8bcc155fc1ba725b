/-
# What is read as a colour

A colour is read from the first six characters behind the number signs of a
text, two of them for each component, and `Colour.Reading` tells what the three
pieces come to. A piece that spells no number is named, the first one if there
are several; with three numbers a negative one is refused; and three numbers
that are not negative are the components. Two characters spell no number above
255 (`Colour.le_of_spells`), so a component needs no upper bound of its own.

Two hexadecimal digits, each a small or a capital letter, spell the byte that
is printed with them (`Colour.spells_byte`), so whatever stands around the six
digits of a colour they are read back.

Key definitions: `Colour.pieces`, `Colour.Reading`.
Key theorems: `Colour.parse_eq_iff`, `Colour.le_of_spells`,
`Colour.spells_byte`, `Colour.parse_outcome`.
-/
import Arbor.Mesh.Colour
import Arbor.Proofs.Number.Spelling
import Mathlib

namespace Arbor
namespace Colour

open Numeral (Spells)

/-- The pieces that the components of a colour are read from: the first, second
and third pair of characters, as far as there are so many. -/
def pieces (digits : List Char) : List (List Char) :=
  [digits.take 2, (digits.drop 2).take 2, (digits.drop 4).take 2]

/-- What the pieces of a text come to. -/
inductive Reading : List (List Char) → Except Fault Colour → Prop
  /-- The first piece that spells no number is named. -/
  | refused {before after : List (List Char)} {piece : List Char}
      (numbers : ∀ p ∈ before, ∃ n, Spells 16 p n) (bad : ∀ n, ¬Spells 16 piece n) :
      Reading (before ++ piece :: after) (.error (.notHexadecimal piece))
  /-- All of them spell numbers, one of which is negative. -/
  | negative {all : List (List Char)} {r g b : Int}
      (numbers : List.Forall₂ (Spells 16) all [r, g, b]) (below : r < 0 ∨ g < 0 ∨ b < 0) :
      Reading all (.error .negative)
  /-- They spell the components. -/
  | colour {all : List (List Char)} {r g b : Nat}
      (numbers : List.Forall₂ (Spells 16) all [(r : Int), (g : Int), (b : Int)]) :
      Reading all (.ok ⟨r, g, b, 255⟩)

/-! ### The pieces of a text -/

theorem pieces_take (digits : List Char) : pieces (digits.take 6) = pieces digits := by
  rw [pieces, pieces, List.take_take, List.drop_take, List.drop_take, List.take_take,
    List.take_take]
  rfl

theorem length_of_mem_pieces {digits piece : List Char} (h : piece ∈ pieces digits) :
    piece.length ≤ 2 := by
  simp only [pieces, List.mem_cons, List.not_mem_nil, or_false] at h
  rcases h with rfl | rfl | rfl
  · exact List.length_take_le _ _
  · exact List.length_take_le _ _
  · exact List.length_take_le _ _

/-- Two characters spell no number above 255. -/
theorem le_of_spells {piece : List Char} (hlength : piece.length ≤ 2) {n : Int}
    (h : Spells 16 piece n) : n ≤ 255 := by
  have hsmall : n.natAbs < 16 ^ piece.length := h.natAbs_lt (by decide)
  have hpow : 16 ^ piece.length ≤ 16 ^ 2 := Nat.pow_le_pow_right (by decide) hlength
  omega

theorem Reading.le_of_colour {all : List (List Char)} {colour : Colour}
    (h : Reading all (.ok colour)) (short : ∀ piece ∈ all, piece.length ≤ 2) :
    colour.red ≤ 255 ∧ colour.green ≤ 255 ∧ colour.blue ≤ 255 ∧ colour.alpha = 255 := by
  cases h with
  | colour numbers =>
    rcases numbers with _ | ⟨hr, _ | ⟨hg, _ | ⟨hb, -⟩⟩⟩
    simp only [List.forall_mem_cons] at short
    obtain ⟨hp, hq, hs, -⟩ := short
    exact ⟨Int.ofNat_le.1 (le_of_spells hp hr), Int.ofNat_le.1 (le_of_spells hq hg),
      Int.ofNat_le.1 (le_of_spells hs hb), rfl⟩

/-! ### One piece after the other -/

theorem component_of_spells {piece : List Char} {n : Int} (h : Spells 16 piece n) :
    component piece = .ok n := by
  rw [component, h.readInt_eq]

theorem component_of_refused {piece : List Char} (bad : ∀ n, ¬Spells 16 piece n) :
    component piece = .error (.notHexadecimal piece) := by
  rw [component]
  cases h : Numeral.readInt 16 piece with
  | none => rfl
  | some n => exact absurd (Numeral.readInt_eq_some_iff.1 h) (bad n)

theorem mapM_component_of_spells {all : List (List Char)} {ns : List Int}
    (h : List.Forall₂ (Spells 16) all ns) : all.mapM component = .ok ns := by
  induction h with
  | nil => rfl
  | cons hpiece _ ih =>
    rw [List.mapM_cons, component_of_spells hpiece, ih]
    rfl

theorem mapM_component_of_refused {before after : List (List Char)} {piece : List Char}
    (numbers : ∀ p ∈ before, ∃ n, Spells 16 p n) (bad : ∀ n, ¬Spells 16 piece n) :
    (before ++ piece :: after).mapM component = .error (.notHexadecimal piece) := by
  induction before with
  | nil =>
    rw [List.nil_append, List.mapM_cons, component_of_refused bad]
    rfl
  | cons p before ih =>
    obtain ⟨⟨n, hn⟩, hothers⟩ := List.forall_mem_cons.1 numbers
    rw [List.cons_append, List.mapM_cons, component_of_spells hn, ih hothers]
    rfl

/-- Either all pieces spell numbers, or there is a first one that does not. -/
theorem spelled_or_refused (all : List (List Char)) :
    (∃ ns, List.Forall₂ (Spells 16) all ns) ∨
      ∃ before piece after, all = before ++ piece :: after ∧
        (∀ p ∈ before, ∃ n, Spells 16 p n) ∧ ∀ n, ¬Spells 16 piece n := by
  induction all with
  | nil => exact Or.inl ⟨[], .nil⟩
  | cons p all ih =>
    by_cases hp : ∃ n, Spells 16 p n
    · rcases ih with ⟨ns, hns⟩ | ⟨before, piece, after, rfl, numbers, bad⟩
      · obtain ⟨n, hn⟩ := hp
        exact Or.inl ⟨n :: ns, .cons hn hns⟩
      · exact Or.inr ⟨p :: before, piece, after, rfl, List.forall_mem_cons.2 ⟨hp, numbers⟩, bad⟩
    · exact Or.inr ⟨[], p, all, rfl, List.forall_mem_nil _, not_exists.1 hp⟩

/-! ### The reading of a text -/

theorem parse_eq (text : List Char) :
    parse text = ((pieces (text.dropWhile (· == '#'))).mapM component >>= fun ns =>
      ofComponents (ns.getD 0 0) (ns.getD 1 0) (ns.getD 2 0)) := by
  simp only [parse, pieces, List.mapM_cons, List.mapM_nil, bind_assoc, pure_bind]
  rfl

theorem parse_of_reading {text : List Char} {result : Except Fault Colour}
    (h : Reading (pieces (text.dropWhile (· == '#'))) result) : parse text = result := by
  rw [parse_eq]
  generalize pieces (text.dropWhile (· == '#')) = all at h ⊢
  cases h with
  | refused numbers bad =>
    rw [mapM_component_of_refused numbers bad]
    rfl
  | negative numbers below =>
    rw [mapM_component_of_spells numbers]
    exact if_pos below
  | @colour _ r g b numbers =>
    have hnot : ¬((r : Int) < 0 ∨ (g : Int) < 0 ∨ (b : Int) < 0) := by omega
    have hgood : ofComponents r g b = .ok ⟨r, g, b, 255⟩ := by
      rw [ofComponents, if_neg hnot]
      rfl
    rw [mapM_component_of_spells numbers]
    exact hgood

/-- Three pieces come to something. -/
theorem exists_reading (all : List (List Char)) (hthree : all.length = 3) :
    ∃ result, Reading all result := by
  rcases spelled_or_refused all with ⟨ns, hns⟩ | ⟨before, piece, after, rfl, numbers, bad⟩
  · obtain ⟨r, g, b, rfl⟩ := List.length_eq_three.1 (hns.length_eq.symm.trans hthree)
    by_cases below : r < 0 ∨ g < 0 ∨ b < 0
    · exact ⟨_, .negative hns below⟩
    · obtain ⟨hr, hg, hb⟩ : 0 ≤ r ∧ 0 ≤ g ∧ 0 ≤ b := by omega
      obtain ⟨r, rfl⟩ := Int.eq_ofNat_of_zero_le hr
      obtain ⟨g, rfl⟩ := Int.eq_ofNat_of_zero_le hg
      obtain ⟨b, rfl⟩ := Int.eq_ofNat_of_zero_le hb
      exact ⟨_, .colour hns⟩
  · exact ⟨_, .refused numbers bad⟩

/-- The reading of a text is what its pieces come to, and nothing else. -/
theorem parse_eq_iff {text : List Char} {result : Except Fault Colour} :
    parse text = result ↔ Reading (pieces (text.dropWhile (· == '#'))) result := by
  refine ⟨fun h => ?_, parse_of_reading⟩
  obtain ⟨other, hother⟩ := exists_reading (pieces (text.dropWhile (· == '#'))) rfl
  obtain rfl : other = result := (parse_of_reading hother).symm.trans h
  exact hother

/-! ### Two hexadecimal digits -/

/-- A small letter and the capital one have the same value as a digit. -/
theorem digit?_toLower (c : Char) : Numeral.digit? c.toLower = Numeral.digit? c := by
  by_cases hupper : c.isUpper = true
  · have hcapitals : ∀ k < 26, Numeral.digit? (Char.ofNat (65 + k)).toLower =
        Numeral.digit? (Char.ofNat (65 + k)) := by decide
    have hrange : 65 ≤ c.toNat ∧ c.toNat ≤ 90 := by
      simp only [Char.isUpper, decide_eq_true_eq, ge_iff_le, UInt32.le_iff_toNat_le] at hupper
      exact hupper
    have hc : Char.ofNat (65 + (c.toNat - 65)) = c := by
      rw [Nat.add_sub_cancel' hrange.1, Char.ofNat_toNat]
    have hcapital := hcapitals (c.toNat - 65) (by omega)
    rwa [hc] at hcapital
  · rw [Char.toLower_eq_of_not_isUpper hupper]

theorem digit?_of_toLower {c : Char} {d : Nat} (hd : d < 16) (h : c.toLower = Nat.digitChar d) :
    Numeral.digit? c = some d := by
  have hdigits : ∀ d < 16, Numeral.digit? (Nat.digitChar d) = some d := by decide
  rw [← digit?_toLower, h, hdigits d hd]

theorem hexDigits_two {n : Nat} (h : n < 256) :
    hexDigits 2 n = [Nat.digitChar (n / 16), Nat.digitChar (n % 16)] := by
  unfold hexDigits
  by_cases hn : n < 16
  · rw [Nat.toDigits_of_lt_base hn, Nat.div_eq_of_lt hn, Nat.mod_eq_of_lt hn]
    rfl
  · rw [Nat.toDigits_of_base_le (by decide) (Nat.le_of_not_lt hn),
      Nat.toDigits_of_lt_base (by omega)]
    rfl

/-- What differs from a printed byte in capital letters only is two digits. -/
theorem exists_digits {spelled : List Char} {n : Nat} (hn : n < 256)
    (h : spelled.map Char.toLower = hexDigits 2 n) :
    ∃ c e, spelled = [c, e] ∧ Numeral.digit? c = some (n / 16) ∧
      Numeral.digit? e = some (n % 16) := by
  rw [hexDigits_two hn] at h
  obtain ⟨c, s, rfl, hc, hs⟩ := List.map_eq_cons_iff.1 h
  obtain ⟨e, t, rfl, he, ht⟩ := List.map_eq_cons_iff.1 hs
  obtain rfl := List.map_eq_nil_iff.1 ht
  exact ⟨c, e, rfl, digit?_of_toLower (by omega) hc, digit?_of_toLower (by omega) he⟩

/-- Two digits spell the byte that they are printed for. -/
theorem spells_byte {c e : Char} {n : Nat} (hn : n < 256) (hc : Numeral.digit? c = some (n / 16))
    (he : Numeral.digit? e = some (n % 16)) : Spells 16 [c, e] n := by
  have hdigits : Numeral.Digits 16 [c, e] [n / 16, n % 16] :=
    .next hc (by omega) (.last he (by omega))
  have hvalue : Numeral.ofDigits 16 [n / 16, n % 16] = n := by
    show (0 * 16 + n / 16) * 16 + n % 16 = n
    omega
  have hspells : Spells 16 ([] ++ ([] ++ ([] ++ [c, e])) ++ [])
      (Int.ofNat (Numeral.ofDigits 16 [n / 16, n % 16])) :=
    .of (List.forall_mem_nil _) (List.forall_mem_nil _) .missing .missing hdigits
      fun hten => absurd hten (by decide)
  rw [hvalue] at hspells
  exact hspells

/-- Six digits are read back, whatever stands around them. -/
theorem parse_spelled {r g b : Nat} (hr : r < 256) (hg : g < 256) (hb : b < 256) (signs : Nat)
    {spelled : List Char} (rest : List Char)
    (h : spelled.map Char.toLower = hexDigits 2 r ++ hexDigits 2 g ++ hexDigits 2 b) :
    parse (List.replicate signs '#' ++ spelled ++ rest) = .ok ⟨r, g, b, 255⟩ := by
  obtain ⟨front, third, rfl, hfront, hthird⟩ := List.map_eq_append_iff.1 h
  obtain ⟨first, second, rfl, hfirst, hsecond⟩ := List.map_eq_append_iff.1 hfront
  obtain ⟨c₁, e₁, rfl, hc₁, he₁⟩ := exists_digits hr hfirst
  obtain ⟨c₂, e₂, rfl, hc₂, he₂⟩ := exists_digits hg hsecond
  obtain ⟨c₃, e₃, rfl, hc₃, he₃⟩ := exists_digits hb hthird
  have hsigns : ∀ c ∈ List.replicate signs '#', (c == '#') = true := fun c hc =>
    beq_iff_eq.2 (List.eq_of_mem_replicate hc)
  -- a number sign is no digit, so no more than the signs in front is dropped
  have hdigit : (c₁ == '#') = false := by
    refine beq_eq_false_iff_ne.2 ?_
    rintro rfl
    cases hc₁
  have hbare : (List.replicate signs '#' ++ ([c₁, e₁] ++ [c₂, e₂] ++ [c₃, e₃]) ++ rest).dropWhile
      (· == '#') = [c₁, e₁] ++ [c₂, e₂] ++ [c₃, e₃] ++ rest := by
    rw [List.append_assoc, List.dropWhile_append_of_pos hsigns]
    exact dropWhile_of_head? rfl hdigit
  have hreading : Reading [[c₁, e₁], [c₂, e₂], [c₃, e₃]] (.ok ⟨r, g, b, 255⟩) :=
    .colour (.cons (spells_byte hr hc₁ he₁) (.cons (spells_byte hg hc₂ he₂)
      (.cons (spells_byte hb hc₃ he₃) .nil)))
  apply parse_of_reading
  rw [hbare]
  exact hreading

/-- A colour that is printed is read back. -/
theorem parse_hex {c : Colour} (hred : c.red < 256) (hgreen : c.green < 256)
    (hblue : c.blue < 256) (halpha : c.alpha = 255) : parse c.hex.toList = .ok c := by
  have hsmall : ∀ d < 16, (Nat.digitChar d).toLower = Nat.digitChar d := by decide
  have hprinted : ∀ n < 256, (hexDigits 2 n).map Char.toLower = hexDigits 2 n := by
    intro n hn
    rw [hexDigits_two hn, List.map_cons, List.map_singleton, hsmall _ (by omega),
      hsmall _ (by omega)]
  have hspelled : (hexDigits 2 c.red ++ hexDigits 2 c.green ++ hexDigits 2 c.blue).map
      Char.toLower = hexDigits 2 c.red ++ hexDigits 2 c.green ++ hexDigits 2 c.blue := by
    rw [List.map_append, List.map_append, hprinted _ hred, hprinted _ hgreen, hprinted _ hblue]
  have hread := parse_spelled hred hgreen hblue 1 [] hspelled
  rw [List.append_nil, ← halpha] at hread
  rw [hex, String.toList_ofList]
  exact hread

/-- **Reading a colour.** What a text is read as depends on the first six
characters behind its number signs. It is what their three pieces come to: the
first piece that spells no number in base sixteen is named; if all of them spell
numbers and one is negative, that is the fault; else the numbers are the
components. No piece spells a number above 255. Two digits for each component,
small and capital letters mixed, are read back, with any number of signs in front
and any text behind. -/
theorem parse_outcome (text : List Char) :
    let digits := text.dropWhile (· == '#')
    (∀ other : List Char, (other.dropWhile (· == '#')).take 6 = digits.take 6 →
      parse other = parse text) ∧
    (∀ result, parse text = result ↔ Reading (pieces (digits.take 6)) result) ∧
    (∀ piece, (Fault.notHexadecimal piece).message =
      "invalid literal for int() with base 16: " ++ quoted piece) ∧
    (∀ piece ∈ pieces (digits.take 6), ∀ n, Spells 16 piece n → n ≤ 255) ∧
    (∀ colour, parse text = .ok colour →
      colour.red ≤ 255 ∧ colour.green ≤ 255 ∧ colour.blue ≤ 255 ∧ colour.alpha = 255) ∧
    ∀ (r g b : UInt8) (signs : Nat) (spelled rest : List Char),
      spelled.map Char.toLower =
        hexDigits 2 r.toNat ++ hexDigits 2 g.toNat ++ hexDigits 2 b.toNat →
      text = List.replicate signs '#' ++ spelled ++ rest →
      parse text = .ok ⟨r.toNat, g.toNat, b.toNat, 255⟩ := by
  intro digits
  have hreading : ∀ result, parse text = result ↔ Reading (pieces (digits.take 6)) result := by
    intro result
    rw [pieces_take]
    exact parse_eq_iff
  have hsmall : ∀ piece ∈ pieces (digits.take 6), ∀ n, Spells 16 piece n → n ≤ 255 :=
    fun piece hpiece n => le_of_spells (length_of_mem_pieces hpiece)
  refine ⟨fun other hother => ?_, hreading, fun piece => rfl, hsmall, fun colour hcolour => ?_, ?_⟩
  · rw [parse_eq_iff, ← pieces_take, hother]
    exact (hreading _).1 rfl
  · exact ((hreading _).1 hcolour).le_of_colour fun piece => length_of_mem_pieces
  · rintro r g b signs spelled rest hspelled rfl
    exact parse_spelled r.toNat_lt g.toNat_lt b.toNat_lt signs rest hspelled

/-- A leaf's colour in mixed letters, with two signs in front and a name behind. -/
theorem parse_outcome_mixed :
    let text := "##8bC34a leaf".toList
    let digits := text.dropWhile (· == '#')
    ("#8bC34a".toList.dropWhile (· == '#')).take 6 = digits.take 6 ∧
    ['C', '3'] ∈ pieces (digits.take 6) ∧ Spells 16 ['C', '3'] 195 ∧ (195 : Int) ≤ 255 ∧
    "8bC34a".toList.map Char.toLower = hexDigits 2 139 ++ hexDigits 2 195 ++ hexDigits 2 74 ∧
    text = List.replicate 2 '#' ++ "8bC34a".toList ++ " leaf".toList ∧
    parse text = .ok leaf ∧ parse "#8bC34a".toList = .ok leaf ∧
    leaf.red ≤ 255 ∧ leaf.green ≤ 255 ∧ leaf.blue ≤ 255 ∧ leaf.alpha = 255 := by
  intro text digits
  have hfirst : ("#8bC34a".toList.dropWhile (· == '#')).take 6 = digits.take 6 := by decide
  have hpiece : ['C', '3'] ∈ pieces (digits.take 6) := by decide
  have hspells : Spells 16 ['C', '3'] 195 := Numeral.readInt_eq_some_iff.1 rfl
  have hspelled : "8bC34a".toList.map Char.toLower =
      hexDigits 2 139 ++ hexDigits 2 195 ++ hexDigits 2 74 := by decide
  have htext : text = List.replicate 2 '#' ++ "8bC34a".toList ++ " leaf".toList := by decide
  obtain ⟨hsame, -, -, hsmall, hrange, hback⟩ := parse_outcome text
  have hleaf : parse text = .ok leaf := hback 139 195 74 2 _ _ hspelled htext
  exact ⟨hfirst, hpiece, hspells, hsmall _ hpiece _ hspells, hspelled, htext, hleaf,
    (hsame _ hfirst).trans hleaf, hrange _ hleaf⟩

/-- A piece that spells no number is told before a negative one. -/
example : parse "#-1zz00".toList = .error (.notHexadecimal ['z', 'z']) := by decide

end Colour
end Arbor
