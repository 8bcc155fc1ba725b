/-
# Words as forests

A closable word is a forest of single symbols and bracket groups; a bracket
that is never closed opens a group that runs to the end of the word. The
index of `Forest` says whether every group is closed, so only the last group
of a forest, the last group within that one, and so on, can be unclosed.

A closable word has exactly one forest (`closable_iff_existsUnique_forest`):
`word_append_inj` compares two forests followed by what can follow them, and
`exists_groups` reads any word from its end.

Key definitions: `Bracket.Forest`, `Bracket.Forest.word`.
Key theorems: `Bracket.Forest.closable`, `Bracket.Forest.balanced`,
`Bracket.Forest.word_append_inj`, `Bracket.closable_iff_existsUnique_forest`.
-/
import Mathlib.Logic.ExistsUnique
import Arbor.Proofs.Bracket.Height

namespace Arbor
namespace Bracket

theorem Balanced.append_closable {u v : Word} (hu : Balanced u) (hv : Closable v) :
    Closable (u ++ v) := by
  refine closable_append_iff.2 ⟨hu.1, fun x hx => ?_⟩
  rw [hu.2, Int.zero_add]
  exact closable_iff.1 hv x hx

theorem Closable.cons_open {w : Word} (h : Closable w) : Closable ('[' :: w) := by
  refine closable_append_iff (u := ['[']).2 ⟨by decide, fun x hx => ?_⟩
  have := closable_iff.1 h x hx
  rw [height_open]
  omega

theorem balanced_other {c : Char} (left : c ≠ '[') (right : c ≠ ']') : Balanced [c] := by
  have h0 : height [c] = 0 := height_other left right
  exact ⟨closable_concat (u := []).2 ⟨closable_nil, Int.le_of_eq h0.symm⟩, h0⟩

theorem Balanced.group {w : Word} (h : Balanced w) : Balanced ('[' :: w ++ [']']) := by
  have h0 : height ('[' :: w ++ [']']) = 0 := by
    rw [height_append, height_cons, h.2, height_open, height_close]
    rfl
  exact ⟨closable_concat.2 ⟨h.1.cons_open, Int.le_of_eq h0.symm⟩, h0⟩

/-! ### Forests -/

/-- A word by its groups. The index says whether all of them are closed. -/
inductive Forest : Bool → Type
  | nil : Forest true
  /-- A symbol that is no bracket. -/
  | symbol {closed : Bool} (c : Char) (left : c ≠ '[') (right : c ≠ ']') (rest : Forest closed) :
      Forest closed
  | group {closed : Bool} (inner : Forest true) (rest : Forest closed) : Forest closed
  /-- A group that is never closed. It runs to the end of the word. -/
  | unclosed {closed : Bool} (inner : Forest closed) : Forest false

namespace Forest

/-- The word of a forest. -/
def word : {closed : Bool} → Forest closed → Word
  | _, nil => []
  | _, symbol c _ _ rest => c :: rest.word
  | _, group inner rest => '[' :: inner.word ++ ']' :: rest.word
  | _, unclosed inner => '[' :: inner.word

@[simp] theorem word_nil : nil.word = [] := rfl

@[simp] theorem word_symbol {closed : Bool} (c : Char) (left : c ≠ '[') (right : c ≠ ']')
    (rest : Forest closed) : (symbol c left right rest).word = c :: rest.word := rfl

@[simp] theorem word_group {closed : Bool} (inner : Forest true) (rest : Forest closed) :
    (group inner rest).word = '[' :: inner.word ++ ']' :: rest.word := rfl

@[simp] theorem word_unclosed {closed : Bool} (inner : Forest closed) :
    (unclosed inner).word = '[' :: inner.word := rfl

theorem balanced : ∀ f : Forest true, Balanced f.word
  | nil => ⟨closable_nil, rfl⟩
  | symbol _ left right rest => (balanced_other left right).append rest.balanced
  | group inner rest => by
    have h := inner.balanced.group.append rest.balanced
    rwa [List.append_assoc] at h

theorem closable : ∀ {closed : Bool} (f : Forest closed), Closable f.word
  | _, nil => closable_nil
  | _, symbol _ left right rest => (balanced_other left right).append_closable rest.closable
  | _, group inner rest => by
    have h := inner.balanced.group.append_closable rest.closable
    rwa [List.append_assoc] at h
  | _, unclosed inner => inner.closable.cons_open

/-- What can follow a forest within a word: nothing, or the bracket that
closes the group around it, if it is closed itself. -/
def Ends (closed : Bool) (s : Word) : Prop := s = [] ∨ closed = true ∧ ∃ v, s = ']' :: v

theorem ends_nil (closed : Bool) : Ends closed [] := Or.inl rfl

theorem ends_close (v : Word) : Ends true (']' :: v) := Or.inr ⟨rfl, v, rfl⟩

theorem Ends.head {closed : Bool} {c : Char} {s v : Word} (h : Ends closed s) (hs : s = c :: v) :
    c = ']' := by
  rcases h with rfl | ⟨-, u, rfl⟩
  · cases hs
  · exact (List.cons.inj hs).1.symm

theorem Ends.eq_nil {s : Word} (h : Ends false s) : s = [] := by
  rcases h with h | ⟨h, -⟩
  · exact h
  · cases h

/-- A word is the word of one forest only, also when something follows that
can follow a forest. -/
theorem word_append_inj : ∀ {a b : Bool} (f : Forest a) (g : Forest b) {s t : Word},
    Ends a s → Ends b t → f.word ++ s = g.word ++ t →
      (⟨a, f⟩ : (closed : Bool) × Forest closed) = ⟨b, g⟩ ∧ s = t
  | _, _, nil, nil, _, _, _, _, h => ⟨rfl, h⟩
  | _, _, nil, symbol _ _ right _, _, _, hs, _, h => absurd (hs.head h) right
  | _, _, nil, group _ _, _, _, hs, _, h => absurd (hs.head (c := '[') h) (by decide)
  | _, _, nil, unclosed _, _, _, hs, _, h => absurd (hs.head (c := '[') h) (by decide)
  | _, _, symbol _ _ right _, nil, _, _, _, ht, h => absurd (ht.head h.symm) right
  | _, _, group _ _, nil, _, _, _, ht, h => absurd (ht.head (c := '[') h.symm) (by decide)
  | _, _, unclosed _, nil, _, _, _, ht, h => absurd (ht.head (c := '[') h.symm) (by decide)
  | _, _, symbol _ left _ _, group _ _, _, _, _, _, h => absurd (List.cons.inj h).1 left
  | _, _, symbol _ left _ _, unclosed _, _, _, _, _, h => absurd (List.cons.inj h).1 left
  | _, _, group _ _, symbol _ left _ _, _, _, _, _, h => absurd (List.cons.inj h).1.symm left
  | _, _, unclosed _, symbol _ left _ _, _, _, _, _, h => absurd (List.cons.inj h).1.symm left
  | _, _, symbol c left right f, symbol d _ _ g, _, _, hs, ht, h => by
    obtain ⟨hc, hrest⟩ := List.cons.inj h
    obtain ⟨hfg, hst⟩ := word_append_inj f g hs ht hrest
    subst hc
    cases hfg
    exact ⟨rfl, hst⟩
  | _, _, group f f', group g g', _, _, hs, ht, h => by
    simp only [word_group, List.cons_append, List.append_assoc, List.cons.injEq, true_and] at h
    obtain ⟨hinner, hrest⟩ := word_append_inj f g (ends_close _) (ends_close _) h
    obtain ⟨hfg, hst⟩ := word_append_inj f' g' hs ht (List.cons.inj hrest).2
    cases hinner
    cases hfg
    exact ⟨rfl, hst⟩
  | _, _, group f f', unclosed g, _, _, _, ht, h => by
    simp only [word_group, word_unclosed, ht.eq_nil, List.cons_append, List.append_assoc,
      List.cons.injEq, true_and] at h
    have hclash := (word_append_inj f g (ends_close _) (ends_nil _) h).2
    cases hclash
  | _, _, unclosed f, group g g', _, _, hs, _, h => by
    simp only [word_group, word_unclosed, hs.eq_nil, List.cons_append, List.append_assoc,
      List.cons.injEq, true_and] at h
    have hclash := (word_append_inj f g (ends_nil _) (ends_close _) h).2
    cases hclash
  | _, _, unclosed f, unclosed g, _, _, hs, ht, h => by
    simp only [word_unclosed, hs.eq_nil, ht.eq_nil, List.cons_append, List.cons.injEq,
      true_and] at h
    obtain ⟨hfg, -⟩ := word_append_inj f g (ends_nil _) (ends_nil _) h
    cases hfg
    exact ⟨rfl, hs.eq_nil.trans ht.eq_nil.symm⟩

end Forest

/-- Any word is a row of closed forests, each with a closing bracket after
it, and one forest at the end. -/
theorem exists_groups (w : Word) :
    ∃ (row : List (Forest true)) (last : (closed : Bool) × Forest closed),
      w = (row.flatMap fun f => f.word ++ [']']) ++ last.2.word := by
  induction w with
  | nil => exact ⟨[], ⟨true, .nil⟩, rfl⟩
  | cons c w ih =>
    obtain ⟨row, ⟨closed, last⟩, rfl⟩ := ih
    by_cases hcl : c = ']'
    · exact ⟨.nil :: row, ⟨closed, last⟩, by simp [hcl]⟩
    · by_cases ho : c = '['
      · -- the bracket takes the first forest of the row for its group
        match row with
        | [] => exact ⟨[], ⟨false, .unclosed last⟩, by simp [ho]⟩
        | [f] => exact ⟨[], ⟨closed, .group f last⟩, by simp [ho]⟩
        | f :: g :: row => exact ⟨.group f g :: row, ⟨closed, last⟩, by simp [ho]⟩
      · match row with
        | [] => exact ⟨[], ⟨closed, .symbol c ho hcl last⟩, by simp⟩
        | f :: row => exact ⟨.symbol c ho hcl f :: row, ⟨closed, last⟩, by simp⟩

/-- A closable word is the word of a forest. -/
theorem Closable.exists_forest {w : Word} (h : Closable w) :
    ∃ f : (closed : Bool) × Forest closed, f.2.word = w := by
  obtain ⟨row, last, rfl⟩ := exists_groups w
  cases row with
  | nil => exact ⟨last, rfl⟩
  | cons f row =>
    have hpre : f.word ++ [']'] <+:
        ((f :: row).flatMap fun f => f.word ++ [']']) ++ last.2.word := by
      rw [List.flatMap_cons, List.append_assoc]
      exact List.prefix_append _ _
    have hneg := closable_iff.1 h _ hpre
    rw [height_append, f.balanced.2, height_close] at hneg
    omega

/-- The closable words are those of the forests, each of one forest only. -/
theorem closable_iff_existsUnique_forest {w : Word} :
    Closable w ↔ ∃! f : (closed : Bool) × Forest closed, f.2.word = w := by
  constructor
  · intro h
    obtain ⟨f, hf⟩ := h.exists_forest
    refine ⟨f, hf, fun g hg => ?_⟩
    refine (Forest.word_append_inj g.2 f.2 (Forest.ends_nil _) (Forest.ends_nil _) ?_).1
    rw [hf, hg]
  · rintro ⟨f, rfl, -⟩
    exact f.2.closable

end Bracket
end Arbor
