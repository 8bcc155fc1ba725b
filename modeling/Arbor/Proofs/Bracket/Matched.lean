/-
# Matched brackets

Two brackets of a word match when what stands between them is balanced. A
position between two matched brackets is covered: it lies in a group that is
closed within the word. Only a closing bracket can cover a position that was
not covered before (`covered_concat`), and a whole group covers nothing in
front of it (`covered_append_group`).

Key definitions: `Bracket.Matched`, `Bracket.Covered`.
Key theorems: `Bracket.matched_append`, `Bracket.covered_concat`,
`Bracket.covered_append_group`, `Bracket.covered_within_group`.
-/
import Arbor.Proofs.Bracket.Height

namespace Arbor
namespace Bracket

instance : DecidablePred Balanced := fun w =>
  inferInstanceAs (Decidable (Closable w ∧ height w = 0))

/-- An opening bracket at `a` and a closing one at `b` with a balanced word
between them. -/
def Matched (w : Word) (a b : Nat) : Prop :=
  a < b ∧ w[a]? = some '[' ∧ w[b]? = some ']' ∧ Balanced ((w.take b).drop (a + 1))

instance (w : Word) (a b : Nat) : Decidable (Matched w a b) :=
  inferInstanceAs (Decidable (a < b ∧ w[a]? = some '[' ∧ w[b]? = some ']' ∧
    Balanced ((w.take b).drop (a + 1))))

theorem Matched.lt_length {w : Word} {a b : Nat} (h : Matched w a b) : b < w.length :=
  (List.getElem?_eq_some_iff.1 h.2.2.1).1

/-- Position `p` lies in a group that is closed within the word. -/
def Covered (w : Word) (p : Nat) : Prop := ∃ a b, a < p ∧ p < b ∧ Matched w a b

instance (w : Word) (p : Nat) : Decidable (Covered w p) :=
  decidable_of_iff (∃ a ∈ List.range p, ∃ b ∈ List.range w.length, p < b ∧ Matched w a b) <| by
    constructor
    · rintro ⟨a, ha, b, -, hpb, h⟩
      exact ⟨a, b, List.mem_range.1 ha, hpb, h⟩
    · rintro ⟨a, b, ha, hpb, h⟩
      exact ⟨a, List.mem_range.2 ha, b, List.mem_range.2 h.lt_length, hpb, h⟩

/-- Whether two brackets match does not depend on what comes after them. -/
theorem matched_append {u : Word} {a b : Nat} (hb : b < u.length) (v : Word) :
    Matched (u ++ v) a b ↔ Matched u a b := by
  unfold Matched
  refine and_congr_right fun hab => ?_
  rw [List.getElem?_append_left hb, List.getElem?_append_left (hab.trans hb),
    List.take_append_of_le_length hb.le]

theorem Covered.append {u : Word} {p : Nat} (h : Covered u p) (v : Word) : Covered (u ++ v) p := by
  obtain ⟨a, b, hap, hpb, hm⟩ := h
  exact ⟨a, b, hap, hpb, (matched_append hm.lt_length v).2 hm⟩

theorem covered_concat {c : Char} (right : c ≠ ']') (u : Word) (p : Nat) :
    Covered (u ++ [c]) p ↔ Covered u p := by
  refine ⟨fun ⟨a, b, hap, hpb, hm⟩ => ?_, fun h => h.append [c]⟩
  have hb : b < u.length := by
    have hlen := hm.lt_length
    rw [List.length_append, List.length_singleton] at hlen
    refine lt_of_le_of_ne (by omega) fun heq => right ?_
    have hclose := hm.2.2.1
    rw [heq, List.getElem?_concat_length] at hclose
    exact Option.some.inj hclose
  exact ⟨a, b, hap, hpb, (matched_append hb [c]).1 hm⟩

/-- A group is above its start from its first bracket to its last. -/
theorem height_take_group {v : Word} (hv : Balanced v) {k : Nat}
    (h : ('[' :: v ++ [']'])[k]? = some ']') : 0 < height (('[' :: v ++ [']']).take k) := by
  have hk := (List.getElem?_eq_some_iff.1 h).1
  cases k with
  | zero => simp at h
  | succ k =>
    simp only [List.cons_append, List.length_cons, List.length_append, List.length_nil] at hk
    have htake : (v ++ [']']).take k = v.take k := List.take_append_of_le_length (by omega)
    have hpre := closable_iff.1 hv.1 _ (List.take_prefix k v)
    rw [List.cons_append, List.take_succ_cons, htake, height_cons, height_open]
    omega

/-- No bracket before a group matches one within it. -/
theorem covered_append_group {v : Word} (hv : Balanced v) {u : Word} {p : Nat} (hp : p < u.length) :
    Covered (u ++ ('[' :: v ++ [']'])) p ↔ Covered u p := by
  refine ⟨fun ⟨a, b, hap, hpb, hm⟩ => ?_, fun h => h.append _⟩
  rcases Nat.lt_or_ge b u.length with hb | hb
  · exact ⟨a, b, hap, hpb, (matched_append hb _).1 hm⟩
  · obtain ⟨hab, -, hclose, hclosable, h0⟩ := hm
    obtain ⟨k, rfl⟩ := Nat.exists_eq_add_of_le hb
    have hbetween : ((u ++ ('[' :: v ++ [']'])).take (u.length + k)).drop (a + 1) =
        u.drop (a + 1) ++ ('[' :: v ++ [']']).take k := by
      rw [List.take_length_add_append, List.drop_append_of_le_length (by omega)]
    rw [hbetween] at hclosable h0
    rw [List.getElem?_append_right (by omega), Nat.add_sub_cancel_left] at hclose
    have hbefore := closable_iff.1 hclosable _ (List.prefix_append _ _)
    have hinside := height_take_group hv hclose
    rw [height_append] at h0
    omega

theorem covered_within_group {v : Word} (hv : Balanced v) (u : Word) {p : Nat} (hu : u.length < p)
    (hp : p < u.length + v.length + 1) : Covered (u ++ ('[' :: v ++ [']'])) p := by
  refine ⟨u.length, u.length + (v.length + 1), hu, by omega, by omega, ?_, ?_, ?_⟩
  · simp
  · simp
  · have hbetween : ((u ++ ('[' :: v ++ [']'])).take (u.length + (v.length + 1))).drop
        (u.length + 1) = v := by
      rw [List.take_length_add_append, List.drop_length_add_append]
      simp
    rw [hbetween]
    exact hv

end Bracket
end Arbor
