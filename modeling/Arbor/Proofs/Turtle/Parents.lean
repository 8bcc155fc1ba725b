/-
# The segments are a tree

The stem of a word is what is left of its steps forward when every closed
group is deleted, and the parent of a step is the last one on the stem of what
comes before it. Segments are joined to those of their parents: the segment of
a step starts where that of its parent ends, and where there is no parent it
starts at the origin (`interpret_tree`).

A closed group changes the stem no more than it changes the cursor, so the
cursor is always at the tip of the stem. `climb_joined` carries this through
the forest of a word, with the segments made before it as a parameter.

Key definitions: `Turtle.stem`, `Turtle.parent`, `Turtle.segmentAt`,
`Turtle.AtTip`, `Turtle.Joined`.
Key theorems: `Turtle.stem_concat`, `Turtle.stem_append_group`,
`Turtle.climb_joined`, `Turtle.exists_root`, `Turtle.interpret_tree`.
-/
import Mathlib.Data.Set.Card
import Mathlib.Logic.Relation
import Arbor.Proofs.Bracket.Matched
import Arbor.Proofs.Turtle.Climb
import Arbor.Tree.Decoration

namespace Arbor
namespace Turtle

open Arbor.Bracket (Forest)

/-- The positions of the steps forward that lie in no closed group. -/
def stem (w : Word) : List Nat :=
  (List.range w.length).filter fun p => w[p]? = some 'F' ∧ ¬ Bracket.Covered w p

/-- The step that the one at position `j` grows from: the last on the stem of
what comes before it. -/
def parent (w : Word) (j : Nat) : Option Nat := (stem (w.take j)).getLast?

theorem mem_stem {w : Word} {p : Nat} :
    p ∈ stem w ↔ w[p]? = some 'F' ∧ ¬ Bracket.Covered w p := by
  unfold stem
  rw [List.mem_filter, List.mem_range]
  simp only [decide_eq_true_eq, and_iff_right_iff_imp]
  exact fun h => (List.getElem?_eq_some_iff.1 h.1).1

theorem parent_spec {w : Word} {j p : Nat} (h : parent w j = some p) :
    p < j ∧ w[p]? = some 'F' := by
  have hmem := (mem_stem.1 (List.mem_of_getLast? h)).1
  have hp := (List.getElem?_eq_some_iff.1 hmem).1
  rw [List.length_take] at hp
  rw [List.getElem?_take_of_lt (by omega)] at hmem
  exact ⟨by omega, hmem⟩

/-- A word that is continued keeps the stem it has if what follows covers
nothing of it, and gets that of what follows. -/
theorem stem_append {u v : Word}
    (hu : ∀ p < u.length, Bracket.Covered (u ++ v) p ↔ Bracket.Covered u p) :
    stem (u ++ v) = stem u ++ ((List.range v.length).map (u.length + ·)).filter fun p =>
      (u ++ v)[p]? = some 'F' ∧ ¬ Bracket.Covered (u ++ v) p := by
  unfold stem
  rw [List.length_append, List.range_add, List.filter_append]
  congr 1
  refine List.filter_congr fun p hp => ?_
  have hp := List.mem_range.1 hp
  rw [List.getElem?_append_left hp, decide_eq_decide, hu p hp]

theorem stem_concat_forward (u : Word) : stem (u ++ ['F']) = stem u ++ [u.length] := by
  have hcov : ¬ Bracket.Covered (u ++ ['F']) u.length := by
    rintro ⟨a, b, -, hb, hm⟩
    have hlen := hm.lt_length
    rw [List.length_append, List.length_singleton] at hlen
    omega
  rw [stem_append fun p _ => Bracket.covered_concat (by decide) u p]
  simp [hcov]

theorem stem_concat {c : Char} (forward : c ≠ 'F') (right : c ≠ ']') (u : Word) :
    stem (u ++ [c]) = stem u := by
  rw [stem_append fun p _ => Bracket.covered_concat right u p]
  simp [forward]

/-- A closed group leaves the stem as it was. -/
theorem stem_append_group {v : Word} (hv : Bracket.Balanced v) (u : Word) :
    stem (u ++ ('[' :: v ++ [']'])) = stem u := by
  rw [stem_append fun p hp => Bracket.covered_append_group hv hp]
  refine (congrArg (stem u ++ ·) (List.filter_eq_nil_iff.2 fun p hp => ?_)).trans
    (List.append_nil _)
  obtain ⟨k, hk, rfl⟩ := List.mem_map.1 hp
  have hk := List.mem_range.1 hk
  simp only [decide_eq_true_eq, not_and, not_not]
  intro hF
  rw [List.getElem?_append_right (by omega), Nat.add_sub_cancel_left] at hF
  -- the two brackets are no steps, and all between them is covered
  refine Bracket.covered_within_group hv u ?_ ?_
  · refine Nat.lt_add_of_pos_right (Nat.pos_of_ne_zero fun h0 => ?_)
    rw [h0] at hF
    cases hF
  · simp only [List.cons_append, List.length_cons, List.length_append, List.length_nil] at hk
    refine Nat.lt_of_le_of_ne (by omega) fun hlast => ?_
    obtain rfl : k = v.length + 1 := by omega
    simp at hF

/-! ### The tip of the stem -/

/-- The segment of the step at position `j`. -/
def segmentAt {α : Type} (w : Word) (segments : List (Segment α)) (j : Nat) : Option (Segment α) :=
  segments[(w.take j).count 'F']?

theorem segmentAt_take {α : Type} {w : Word} {segments : List (Segment α)}
    {j p : Nat} (hpj : p < j) :
    segmentAt (w.take j) segments p = segmentAt w segments p := by
  unfold segmentAt
  rw [List.take_take, Nat.min_eq_left hpj.le]

section Segments

variable {α : Type} {w : Word} {segments segments' : List (Segment α)} {j m : Nat}

/-- The segment of a step is among those of the steps before a later position. -/
theorem segmentAt_eq_of_take (hj : w[j]? = some 'F') (hjm : j < m)
    (h : segments.take ((w.take m).count 'F') = segments'.take ((w.take m).count 'F')) :
    segmentAt w segments j = segmentAt w segments' j := by
  have hcount : (w.take j).count 'F' < (w.take m).count 'F' := by
    have hnext := (List.take_prefix_take_left (l := w) (Nat.succ_le_of_lt hjm)).count_le 'F'
    rw [List.take_add_one, hj, List.count_append] at hnext
    exact Nat.lt_of_succ_le hnext
  calc segmentAt w segments j
      = (segments.take ((w.take m).count 'F'))[(w.take j).count 'F']? :=
        (List.getElem?_take_of_lt hcount).symm
    _ = (segments'.take ((w.take m).count 'F'))[(w.take j).count 'F']? := by rw [h]
    _ = segmentAt w segments' j := List.getElem?_take_of_lt hcount

theorem segmentAt_eq_of_drop (hmj : m ≤ j)
    (h : segments.drop ((w.take m).count 'F') = segments'.drop ((w.take m).count 'F')) :
    segmentAt w segments j = segmentAt w segments' j := by
  obtain ⟨n, hn⟩ := Nat.exists_eq_add_of_le ((List.take_prefix_take_left hmj).count_le 'F')
  rw [segmentAt, segmentAt, hn, ← List.getElem?_drop, ← List.getElem?_drop, h]

end Segments

variable {α σ : Type} [Scalar α]

/-- The point where the last segment on the stem ends; the origin if there is
none. -/
def AtTip (w : Word) (segments : List (Segment α)) (point : Point α) : Prop :=
  match (stem w).getLast? with
  | none => point = Point.origin
  | some p => ∃ s, segmentAt w segments p = some s ∧ point = s.finish

/-- Each segment of the word `v` after the word `u` starts at the tip of the
stem that it finds. -/
def Joined (u : Word) (before : List (Segment α)) (v : Word) (segments : List (Segment α)) : Prop :=
  segments.length = v.count 'F' ∧
    ∀ k, v[k]? = some 'F' → ∃ s, segmentAt v segments k = some s ∧
      AtTip (u ++ v.take k) (before ++ segments) s.start

theorem atTip_nil : AtTip [] [] (Point.origin : Point α) := rfl

theorem AtTip.append {u : Word} {segments : List (Segment α)} {point : Point α}
    (h : AtTip u segments point) (more : List (Segment α)) : AtTip u (segments ++ more) point := by
  unfold AtTip at h ⊢
  cases hlast : (stem u).getLast? with
  | none => rwa [hlast] at h
  | some p =>
    rw [hlast] at h
    obtain ⟨s, hs, hpoint⟩ := h
    refine ⟨s, ?_, hpoint⟩
    unfold segmentAt at hs ⊢
    rw [List.getElem?_append_left (List.getElem?_eq_some_iff.1 hs).1, hs]

/-- The tip stays where it is while the stem does. -/
theorem AtTip.of_stem {u v : Word} {segments : List (Segment α)} {point : Point α}
    (h : AtTip u segments point) (hstem : stem (u ++ v) = stem u) :
    AtTip (u ++ v) segments point := by
  unfold AtTip at h ⊢
  rw [hstem]
  cases hlast : (stem u).getLast? with
  | none => rwa [hlast] at h
  | some p =>
    rw [hlast] at h
    obtain ⟨s, hs, hpoint⟩ := h
    have hp := (mem_stem.1 (List.mem_of_getLast? hlast)).1
    have hp := (List.getElem?_eq_some_iff.1 hp).1
    refine ⟨s, ?_, hpoint⟩
    unfold segmentAt at hs ⊢
    rw [List.take_append_of_le_length hp.le, hs]

theorem atTip_forward {u : Word} {before : List (Segment α)} (hlen : before.length = u.count 'F')
    (s : Segment α) : AtTip (u ++ ['F']) (before ++ [s]) s.finish := by
  unfold AtTip
  rw [stem_concat_forward, List.getLast?_concat]
  refine ⟨s, ?_, rfl⟩
  unfold segmentAt
  rw [List.take_left' rfl, ← hlen, List.getElem?_concat_length]

theorem Joined.append {u v v' : Word} {before segments others : List (Segment α)}
    (h : Joined u before v segments) (h' : Joined (u ++ v) (before ++ segments) v' others) :
    Joined u before (v ++ v') (segments ++ others) := by
  refine ⟨?_, fun k hk => ?_⟩
  · rw [List.length_append, h.1, h'.1, List.count_append]
  rcases Nat.lt_or_ge k v.length with hkv | hkv
  · rw [List.getElem?_append_left hkv] at hk
    obtain ⟨s, hs, htip⟩ := h.2 k hk
    refine ⟨s, ?_, ?_⟩
    · unfold segmentAt at hs ⊢
      rw [List.take_append_of_le_length hkv.le,
        List.getElem?_append_left (List.getElem?_eq_some_iff.1 hs).1, hs]
    · rw [List.take_append_of_le_length hkv.le, ← List.append_assoc]
      exact htip.append others
  · obtain ⟨m, rfl⟩ := Nat.exists_eq_add_of_le hkv
    rw [List.getElem?_append_right hkv, Nat.add_sub_cancel_left] at hk
    obtain ⟨s, hs, htip⟩ := h'.2 m hk
    refine ⟨s, ?_, ?_⟩
    · unfold segmentAt at hs ⊢
      rw [List.take_length_add_append, List.count_append, ← h.1,
        List.getElem?_append_right (Nat.le_add_right _ _), Nat.add_sub_cancel_left, hs]
    · rw [List.take_length_add_append, ← List.append_assoc, ← List.append_assoc]
      exact htip

theorem joined_other {c : Char} (forward : c ≠ 'F') (u : Word) (before : List (Segment α)) :
    Joined u before [c] [] := by
  have hF : 'F' ∉ [c] := fun h => forward (List.mem_singleton.1 h).symm
  refine ⟨(List.count_eq_zero.2 hF).symm, fun k hk => ?_⟩
  exact absurd (List.mem_of_getElem? hk) hF

theorem Joined.cons_other {c : Char} (forward : c ≠ 'F') {u v : Word}
    {before segments : List (Segment α)} (h : Joined (u ++ [c]) before v segments) :
    Joined u before (c :: v) segments := by
  have hc := joined_other forward u before
  rw [← List.append_nil before] at h
  exact hc.append h

theorem joined_forward {u : Word} {before : List (Segment α)} {s : Segment α}
    (h : AtTip u before s.start) : Joined u before ['F'] [s] := by
  refine ⟨rfl, fun k hk => ?_⟩
  obtain rfl : k = 0 := by
    have := (List.getElem?_eq_some_iff.1 hk).1
    rw [List.length_singleton] at this
    omega
  refine ⟨s, rfl, ?_⟩
  rw [List.take_zero, List.append_nil]
  exact h.append [s]

theorem joined_nil (u : Word) (before : List (Segment α)) : Joined u before [] [] :=
  ⟨rfl, fun _ hk => by cases hk⟩

/-- A climb that starts at the tip of the stem joins its segments. -/
theorem climb_joined {length angle : Option α} {draw : σ → Option α × σ} :
    ∀ {closed : Bool} (f : Forest closed) {cursor : Cursor α} {source left : σ} {u : Word}
      {before segments : List (Segment α)},
      climb length angle draw f cursor source = (.ok segments, left) →
      before.length = u.count 'F' → AtTip u before cursor.position →
      Joined u before f.word segments
  | _, .nil, _, _, _, u, before, _, h, _, _ => by
    cases h
    exact joined_nil u before
  | _, .symbol c _ right rest, cursor, _, _, u, before, _, h, hlen, htip => by
    obtain ⟨first, next, middle, others, hadvance, hrest, rfl⟩ := climb_symbol_eq_ok h
    rw [Forest.word_symbol, ← List.singleton_append]
    rcases advance_eq_ok hadvance with ⟨rfl, s, rfl, hstart, hnext⟩ | ⟨hc, rfl, hnext⟩
    · refine (joined_forward (hstart ▸ htip)).append (climb_joined rest hrest ?_ ?_)
      · rw [List.length_append, List.count_append, hlen]
        rfl
      · rw [hnext]
        exact atTip_forward hlen s
    · refine Joined.cons_other hc (climb_joined rest hrest ?_ ?_)
      · rw [List.count_append, hlen, ← (joined_other hc u before).1]
        rfl
      · rw [hnext]
        exact htip.of_stem (stem_concat hc right u)
  | _, .group inner rest, cursor, _, _, u, before, _, h, hlen, htip => by
    obtain ⟨first, middle, others, hinner, hrest, rfl⟩ := climb_group_eq_ok h
    have hopen : (u ++ ['[']).count 'F' = u.count 'F' := by simp
    have hgroup : u ++ ['['] ++ inner.word ++ [']'] = u ++ ('[' :: inner.word ++ [']']) := by simp
    have hfirst : Joined (u ++ ['[']) before inner.word first :=
      climb_joined inner hinner (hlen.trans hopen.symm)
        (htip.of_stem (stem_concat (by decide) (by decide) u))
    rw [Forest.word_group, List.cons_append]
    refine Joined.cons_other (by decide) (hfirst.append (Joined.cons_other (by decide) ?_))
    refine climb_joined rest hrest ?_ ?_
    · simp [hlen, hfirst.1]
    · rw [hgroup]
      exact (htip.append first).of_stem (stem_append_group inner.balanced u)
  | _, .unclosed inner, cursor, _, _, u, before, _, h, hlen, htip => by
    have hopen : (u ++ ['[']).count 'F' = u.count 'F' := by simp
    rw [Forest.word_unclosed]
    refine Joined.cons_other (by decide) (climb_joined inner h (hlen.trans hopen.symm) ?_)
    exact htip.of_stem (stem_concat (by decide) (by decide) u)

/-! ### The tree -/

theorem exists_position {w : Word} {c : Char} {n : Nat} (h : n < w.count c) :
    ∃ j, w[j]? = some c ∧ (w.take j).count c = n := by
  induction w generalizing n with
  | nil => simp at h
  | cons d w ih =>
    by_cases hd : d = c
    · subst hd
      cases n with
      | zero => exact ⟨0, rfl, rfl⟩
      | succ n =>
        rw [List.count_cons_self] at h
        obtain ⟨j, hj, hcount⟩ := ih (Nat.lt_of_succ_lt_succ h)
        exact ⟨j + 1, hj, by rw [List.take_succ_cons, List.count_cons_self, hcount]⟩
    · rw [List.count_cons_of_ne hd] at h
      obtain ⟨j, hj, hcount⟩ := ih h
      exact ⟨j + 1, hj, by rw [List.take_succ_cons, List.count_cons_of_ne hd, hcount]⟩

/-- Parents come earlier, so from every step they lead to one without a
parent. -/
theorem exists_root {w : Word} (j : Nat) (h : w[j]? = some 'F') :
    ∃ r, Relation.ReflTransGen (fun i p => parent w i = some p) j r ∧ w[r]? = some 'F' ∧
      parent w r = none := by
  induction j using Nat.strongRecOn with
  | ind j ih =>
    cases hp : parent w j with
    | none => exact ⟨j, .refl, h, hp⟩
    | some p =>
      obtain ⟨hpj, hF⟩ := parent_spec hp
      obtain ⟨r, hchain, hr⟩ := ih p hpj hF
      exact ⟨r, .head hp hchain, hr⟩

theorem encard_mem_le {β : Type} (l : List β) : {x | x ∈ l}.encard ≤ l.length := by
  induction l with
  | nil => simp
  | cons a l ih =>
    have hset : {x | x ∈ a :: l} = insert a {x | x ∈ l} := by
      ext x
      simp
    rw [hset, List.length_cons, Nat.cast_add, Nat.cast_one]
    exact (Set.encard_insert_le _ a).trans (add_le_add_left ih 1)

section Interpret

variable {length angle : Quantity α} {draw : σ → Option α × σ} {source left : σ} {w : Word}
  {segments : List (Segment α)}

theorem interpret_joined (h : interpret length angle draw source w = (.ok segments, left)) :
    Joined [] [] w segments := by
  obtain ⟨positive, hnone⟩ := no_fault_of_interpret h
  obtain ⟨⟨closed, f⟩, rfl⟩ := (closable_of_no_fault hnone).exists_forest
  rw [interpret_word f positive] at h
  exact climb_joined f h rfl atTip_nil

/-- A segment starts where that of its parent ends, and at the origin if it
has none. -/
theorem start_eq_of_joined (hjoined : Joined [] [] w segments) {j : Nat} (hj : w[j]? = some 'F') :
    ∃ s, segmentAt w segments j = some s ∧
      match parent w j with
      | none => s.start = Point.origin
      | some p => ∃ s', segmentAt w segments p = some s' ∧ s.start = s'.finish := by
  obtain ⟨s, hs, htip⟩ := hjoined.2 j hj
  refine ⟨s, hs, ?_⟩
  unfold AtTip at htip
  simp only [List.nil_append] at htip
  change match parent w j with | none => _ | some p => _ at htip
  cases hp : parent w j with
  | none => rwa [hp] at htip
  | some p =>
    rw [hp] at htip
    obtain ⟨s', hs', hstart⟩ := htip
    rw [segmentAt_take (parent_spec hp).1] at hs'
    exact ⟨s', hs', hstart⟩

/-- The first segment starts at the origin. -/
theorem head_of_joined (hjoined : Joined [] [] w segments) {s : Segment α}
    (hs : segments.head? = some s) : s.start = Point.origin := by
  have hpos : 0 < w.count 'F' := by
    rw [← hjoined.1]
    exact List.length_pos_iff.2 fun hnil => by simp [hnil] at hs
  obtain ⟨j, hj, hcount⟩ := exists_position hpos
  obtain ⟨s', hs', hstart⟩ := start_eq_of_joined hjoined hj
  have hparent : parent w j = none := by
    refine Option.eq_none_iff_forall_ne_some.2 fun p hp => ?_
    obtain ⟨hpj, hF⟩ := parent_spec hp
    rw [← List.getElem?_take_of_lt hpj] at hF
    exact List.count_eq_zero.1 hcount (List.mem_of_getElem? hF)
  rw [segmentAt, hcount, ← List.head?_eq_getElem?, hs] at hs'
  rw [hparent, ← Option.some.inj hs'] at hstart
  exact hstart

/-- Every end point is the origin or the end of a segment. -/
theorem mem_endpoints_of_joined (hjoined : Joined [] [] w segments) {p : Point α}
    (hp : p ∈ endpoints segments) : p ∈ Point.origin :: segments.map Segment.finish := by
  obtain ⟨s, hs, hends⟩ := List.mem_flatMap.1 hp
  have hfinish : ∀ s' ∈ segments, s'.finish ∈ Point.origin :: segments.map Segment.finish :=
    fun s' hs' => List.mem_cons_of_mem _ (List.mem_map_of_mem hs')
  rcases List.mem_pair.1 hends with rfl | rfl
  · obtain ⟨n, hn, rfl⟩ := List.getElem_of_mem hs
    obtain ⟨j, hj, rfl⟩ := exists_position (hjoined.1 ▸ hn)
    obtain ⟨s, hs, hstart⟩ := start_eq_of_joined hjoined hj
    rw [(List.getElem?_eq_some_iff.1 hs).2]
    cases hparent : parent w j with
    | none =>
      rw [hparent] at hstart
      rw [hstart]
      exact List.mem_cons_self
    | some q =>
      rw [hparent] at hstart
      obtain ⟨s', hs', hstart⟩ := hstart
      rw [hstart]
      exact hfinish s' (List.mem_of_getElem? hs')
  · exact hfinish s hs

/-- **The segments are a tree.** A walk that ends well leaves one segment for
every step forward, in order. Each starts where that of its parent ends, or at
the origin if it has no parent, so `n` segments have at most `n + 1` end
points, and the parents of every segment lead to the origin. -/
theorem interpret_tree (h : interpret length angle draw source w = (.ok segments, left)) :
    (segments.length = w.count 'F' ∧
      ∀ k, ∃ left', interpret length angle draw source (w.take k) =
        (.ok (segments.take ((w.take k).count 'F')), left')) ∧
    (∀ j, w[j]? = some 'F' →
      ∃ s, segmentAt w segments j = some s ∧
        match parent w j with
        | none => s.start = Point.origin
        | some p => ∃ s', segmentAt w segments p = some s' ∧ s.start = s'.finish) ∧
    {p | p ∈ endpoints segments}.encard ≤ segments.length + 1 ∧
    (∀ j, w[j]? = some 'F' →
      ∃ r s, Relation.ReflTransGen (fun i p => parent w i = some p) j r ∧
        segmentAt w segments r = some s ∧ s.start = Point.origin) := by
  have hjoined := interpret_joined h
  refine ⟨⟨hjoined.1, interpret_take h⟩, fun j => start_eq_of_joined hjoined, ?_, fun j hj => ?_⟩
  · have hsub : {p | p ∈ endpoints segments} ⊆
        {p | p ∈ Point.origin :: segments.map Segment.finish} :=
      fun p => mem_endpoints_of_joined hjoined
    refine (Set.encard_le_encard hsub).trans ((encard_mem_le _).trans ?_)
    rw [List.length_cons, List.length_map, Nat.cast_add, Nat.cast_one]
  · obtain ⟨r, hchain, hr, hroot⟩ := exists_root j hj
    obtain ⟨s, hs, hstart⟩ := start_eq_of_joined hjoined hr
    rw [hroot] at hstart
    exact ⟨r, s, hchain, hs, hstart⟩

end Interpret

/-- A closed branch, and a step that grows from where the branch does. -/
theorem interpret_tree_fork : ∃ (segments : List (Segment Float)) (left : Nat),
    interpret (.scalar (0.5 : Float)) (.scalar 0.7) (cycle #[]) 0 ['F', '[', '+', 'F', ']', 'F'] =
      (.ok segments, left) ∧
    ∃ s s', segmentAt ['F', '[', '+', 'F', ']', 'F'] segments 5 = some s ∧
      segmentAt ['F', '[', '+', 'F', ']', 'F'] segments 0 = some s' ∧ s.start = s'.finish := by
  obtain ⟨segments, left, h⟩ : ∃ (segments : List (Segment Float)) (left : Nat),
      interpret (.scalar (0.5 : Float)) (.scalar 0.7) (cycle #[]) 0
        ['F', '[', '+', 'F', ']', 'F'] = (.ok segments, left) := ⟨_, _, rfl⟩
  have hparent : parent ['F', '[', '+', 'F', ']', 'F'] 5 = some 0 := by decide
  obtain ⟨s, hs, hstart⟩ := (interpret_tree h).2.1 5 rfl
  rw [hparent] at hstart
  obtain ⟨s', hs', hstart⟩ := hstart
  exact ⟨segments, left, h, s, s', hs, hs', hstart⟩

end Turtle
end Arbor
