/-
# What a sample reaches

Two turtles with the same cursor and the same cursors saved make the same
segments from there on as long as they draw the same samples, whatever they
have made before (`Turtle.Alongside`). So two walks that draw the same samples
but for one are the same up to the turn that draws it. Where the group around
that turn is closed, both turtles go back to the cursor that they had in front
of the group, and since brackets draw no samples, both of them go on with the
same sample as well (`Turtle.rejoined`). The segments that differ are made by
steps between the turn and that bracket.

Key definitions: `Turtle.sampleAt`, `Turtle.Alongside`.
Key theorems: `Turtle.Alongside.step`, `Turtle.Alongside.walk`,
`Turtle.alongside_of_same`, `Turtle.alongside_take`, `Turtle.rejoined`,
`Turtle.interpret_local`.
-/
import Arbor.Proofs.Bracket.Innermost
import Arbor.Proofs.Turtle.Climb
import Arbor.Proofs.Turtle.Parents
import Arbor.Proofs.Turtle.Parts
import Arbor.Proofs.Turtle.Source

namespace Arbor
namespace Turtle

/-- The sample of a source after `n` others. -/
def sampleAt {α σ : Type} (draw : σ → Option α × σ) (source : σ) (n : Nat) : Option α :=
  (draw (drawn draw n source)).1

theorem turnCount_take_le {m n : Nat} (hmn : m ≤ n) (w : Word) :
    turnCount (w.take m) ≤ turnCount (w.take n) :=
  (List.take_prefix_take_left hmn).countP_le

theorem turnCount_take_succ {w : Word} {p : Nat} {axis : Axis} {backward : Bool}
    (hp : w[p]?.map Command.ofSymbol = some (.turn axis backward)) :
    turnCount (w.take (p + 1)) = turnCount (w.take p) + 1 := by
  obtain ⟨c, hc, hturn⟩ := Option.map_eq_some_iff.1 hp
  rw [List.take_add_one, hc, turnCount_append]
  simp [turnCount, hturn, Command.isTurn]

/-! ### Walks side by side -/

/-- Two turtles that go on in the same way. Both have drawn `n` samples, and
they have made the same segments since they had made the `earlier` ones. -/
structure Alongside {α σ τ : Type} (draw : σ → Option α × σ) (draw' : τ → Option α × τ)
    (source : σ) (source' : τ) (earlier earlier' : List (Segment α)) (n : Nat)
    (t : Turtle α σ) (t' : Turtle α τ) : Prop where
  cursor : t.cursor = t'.cursor
  saved : t.saved = t'.saved
  made : ∃ new, t.made = new ++ earlier ∧ t'.made = new ++ earlier'
  left : t.source = drawn draw n source
  left' : t'.source = drawn draw' n source'

variable {α σ τ : Type} [Scalar α]

section Walks

variable {length angle : Option α} {draw : σ → Option α × σ} {draw' : τ → Option α × τ}
  {source : σ} {source' : τ} {earlier earlier' : List (Segment α)}

/-- A step of two turtles. If it is a turn, the samples have to be the same. -/
theorem Alongside.step {n i j : Nat} {t next : Turtle α σ} {t' next' : Turtle α τ}
    {command : Command} (h : Alongside draw draw' source source' earlier earlier' n t t')
    (same : command.isTurn = true → sampleAt draw source n = sampleAt draw' source' n)
    (hstep : Turtle.step length angle draw i t command = .ok next)
    (hstep' : Turtle.step length angle draw' j t' command = .ok next') :
    Alongside draw draw' source source' earlier earlier' (n + if command.isTurn then 1 else 0)
      next next' := by
  cases command with
  | forward =>
    cases length with
    | none => cases hstep
    | some length =>
      cases hstep
      cases hstep'
      obtain ⟨new, hnew, hnew'⟩ := h.made
      let s : Segment α := ⟨t.cursor.position, t.cursor.position + t.cursor.heading.scale length⟩
      refine ⟨?_, h.saved, ⟨s :: new, ?_, ?_⟩, h.left, h.left'⟩
      · simp only [h.cursor]
      · simp only [hnew, List.cons_append, s]
      · simp only [hnew', h.cursor, List.cons_append, s]
  | turn axis backward =>
    obtain ⟨base, sample, left, hbase, hdraw, rfl⟩ := step_turn_eq_ok hstep
    obtain ⟨base', sample', left', hbase', hdraw', rfl⟩ := step_turn_eq_ok hstep'
    obtain rfl : base = base' := Option.some.inj (hbase.symm.trans hbase')
    rw [h.left] at hdraw
    rw [h.left'] at hdraw'
    have hsample := same rfl
    rw [sampleAt, sampleAt, hdraw, hdraw'] at hsample
    obtain rfl : sample = sample' := Option.some.inj hsample
    refine ⟨?_, h.saved, h.made, ?_, ?_⟩
    · simp only [turned, h.cursor]
    · exact ((drawn_succ draw n source).trans (congrArg Prod.snd hdraw)).symm
    · exact ((drawn_succ draw' n source').trans (congrArg Prod.snd hdraw')).symm
  | save =>
    cases hstep
    cases hstep'
    refine ⟨h.cursor, ?_, h.made, h.left, h.left'⟩
    simp only [h.cursor, h.saved]
  | restore =>
    obtain ⟨cursor, saved, made, left⟩ := t
    obtain ⟨cursor', saved', made', left'⟩ := t'
    obtain rfl : saved = saved' := h.saved
    cases saved with
    | nil => cases hstep
    | cons below saved =>
      cases hstep
      cases hstep'
      exact ⟨rfl, rfl, h.made, h.left, h.left'⟩
  | idle =>
    cases hstep
    cases hstep'
    exact h

/-- Two turtles stay alongside as long as they draw the same samples. -/
theorem Alongside.walk : ∀ (v : Word) {n : Nat} {t last : Turtle α σ} {t' last' : Turtle α τ}
    (i j : Nat), Alongside draw draw' source source' earlier earlier' n t t' →
    (∀ k, n ≤ k → k < n + turnCount v → sampleAt draw source k = sampleAt draw' source' k) →
    Turtle.walk length angle draw i t v = .ok last →
    Turtle.walk length angle draw' j t' v = .ok last' →
    Alongside draw draw' source source' earlier earlier' (n + turnCount v) last last'
  | [], _, _, _, _, _, _, _, h, _, hwalk, hwalk' => by
    cases hwalk
    cases hwalk'
    exact h
  | c :: v, n, t, last, t', last', i, j, h, same, hwalk, hwalk' => by
    obtain ⟨next, hstep, hrest⟩ := walk_cons_eq_ok hwalk
    obtain ⟨next', hstep', hrest'⟩ := walk_cons_eq_ok hwalk'
    have hcount : turnCount (c :: v) =
        turnCount v + if (Command.ofSymbol c).isTurn then 1 else 0 := List.countP_cons
    have hsame : (Command.ofSymbol c).isTurn = true →
        sampleAt draw source n = sampleAt draw' source' n := fun hturn =>
      same n le_rfl (by rw [hcount, if_pos hturn]; omega)
    have hnext := h.step hsame hstep hstep'
    have hlast := Alongside.walk v (i + 1) (j + 1) hnext
      (fun k hk hlt => same k (by omega) (by omega)) hrest hrest'
    rwa [Nat.add_assoc, Nat.add_comm _ (turnCount v), ← hcount] at hlast

/-- Two walks over a word that draw the same samples are the same. -/
theorem alongside_of_same {u : Word}
    (same : ∀ n < turnCount u, sampleAt draw source n = sampleAt draw' source' n)
    {t : Turtle α σ} {t' : Turtle α τ}
    (ht : Turtle.walk length angle draw 0 (atRoot source) u = .ok t)
    (ht' : Turtle.walk length angle draw' 0 (atRoot source') u = .ok t') :
    Alongside draw draw' source source' [] [] (turnCount u) t t' := by
  have hroot : Alongside draw draw' source source' [] [] 0
      (atRoot source : Turtle α σ) (atRoot source') := ⟨rfl, rfl, ⟨[], rfl, rfl⟩, rfl, rfl⟩
  have hwalk := hroot.walk u 0 0 (fun n _ hn => same n (by omega)) ht ht'
  rwa [Nat.zero_add] at hwalk

/-- Up to the turn that draws sample `k` the walks are the same. -/
theorem alongside_take {w : Word} {k m : Nat}
    (same : ∀ n, n ≠ k → sampleAt draw source n = sampleAt draw' source' n)
    (hm : turnCount (w.take m) ≤ k) {t : Turtle α σ} {t' : Turtle α τ}
    (ht : Turtle.walk length angle draw 0 (atRoot source) (w.take m) = .ok t)
    (ht' : Turtle.walk length angle draw' 0 (atRoot source') (w.take m) = .ok t') :
    Alongside draw draw' source source' [] [] (turnCount (w.take m)) t t' :=
  alongside_of_same (fun n hn => same n (by omega)) ht ht'

/-- If sample `k` is drawn within a closed group, both turtles are back at the
cursor in front of it when they leave it. -/
theorem rejoined {w : Word} {k a q : Nat} (hmatched : Bracket.Matched w a q)
    (same : ∀ n, n ≠ k → sampleAt draw source n = sampleAt draw' source' n)
    (ha : turnCount (w.take a) ≤ k) {t : Turtle α σ} {t' : Turtle α τ}
    (ht : Turtle.walk length angle draw 0 (atRoot source) (w.take (q + 1)) = .ok t)
    (ht' : Turtle.walk length angle draw' 0 (atRoot source') (w.take (q + 1)) = .ok t') :
    t.cursor = t'.cursor ∧ t.saved = t'.saved := by
  obtain ⟨f, hgroup⟩ := hmatched.exists_group
  rw [hgroup] at ht ht'
  obtain ⟨before, hbefore, hwithin⟩ := (walk_append_eq_ok 0 0 0).1 ht
  obtain ⟨before', hbefore', hwithin'⟩ := (walk_append_eq_ok 0 0 0).1 ht'
  have halong := alongside_take same ha hbefore hbefore'
  obtain ⟨hcursor, hsaved⟩ := walk_group f 0 before hwithin
  obtain ⟨hcursor', hsaved'⟩ := walk_group f 0 before' hwithin'
  constructor
  · rw [hcursor, hcursor', halong.cursor]
  · rw [hsaved, hsaved', halong.saved]

end Walks

/-! ### Segments -/

section Interpret

variable {length angle : Quantity α} {draw : σ → Option α × σ} {draw' : τ → Option α × τ}
  {source left : σ} {source' left' : τ} {w : Word} {segments segments' : List (Segment α)} {k : Nat}
  (same : ∀ n, n ≠ k → sampleAt draw source n = sampleAt draw' source' n)
  (h : interpret length angle draw source w = (.ok segments, left))
  (h' : interpret length angle draw' source' w = (.ok segments', left'))

include same h h'

/-- The segments that are made before sample `k` is drawn. -/
theorem take_of_alongside {m : Nat} (hm : turnCount (w.take m) ≤ k) :
    segments.take ((w.take m).count 'F') = segments'.take ((w.take m).count 'F') := by
  obtain ⟨middle, hpart⟩ := interpret_take h m
  obtain ⟨middle', hpart'⟩ := interpret_take h' m
  obtain ⟨-, t, ht, hmade, -⟩ := interpret_eq_ok_iff.1 hpart
  obtain ⟨-, t', ht', hmade', -⟩ := interpret_eq_ok_iff.1 hpart'
  obtain ⟨new, hnew, hnew'⟩ := (alongside_take same hm ht ht').made
  rw [← hmade, ← hmade', hnew, hnew']

/-- The segments that are made after the group in which sample `k` is drawn. -/
theorem drop_of_rejoined {a q : Nat} (hmatched : Bracket.Matched w a q)
    (ha : turnCount (w.take a) ≤ k) (hq : k < turnCount (w.take (q + 1))) :
    segments.drop ((w.take (q + 1)).count 'F') = segments'.drop ((w.take (q + 1)).count 'F') := by
  obtain ⟨t, last, ht, hfollows, hrest, rfl⟩ := interpret_cut h (q + 1)
  obtain ⟨t', last', ht', hfollows', hrest', rfl⟩ := interpret_cut h' (q + 1)
  obtain ⟨hcursor, hsaved⟩ := rejoined hmatched same ha ht ht'
  have halong : Alongside draw draw' source source' t.made t'.made
      (turnCount (w.take (q + 1))) t t' :=
    ⟨hcursor, hsaved, ⟨[], rfl, rfl⟩, hfollows.source, hfollows'.source⟩
  obtain ⟨new, hnew, hnew'⟩ :=
    (halong.walk (w.drop (q + 1)) 0 0 (fun n hn _ => same n (by omega)) hrest hrest').made
  rw [hnew, hnew', List.reverse_append, List.reverse_append,
    List.drop_left' (by rw [List.length_reverse, hfollows.made]),
    List.drop_left' (by rw [List.length_reverse, hfollows'.made])]

/-- **A sample reaches no farther than its group.** Take two sources that give
the same samples but for sample `k`, and a word that is walked to its end with
either. Both walks make equally many segments. If the word has no turn that
draws sample `k`, they are the same. Else let `p` be the position of that turn
and `q` that of the bracket that closes the innermost group around it, or the
end of the word if no such group is closed: every step forward before `p` and
every one after `q` makes the same segment in both walks. -/
theorem interpret_local :
    segments.length = segments'.length ∧ (turnCount w ≤ k → segments = segments') ∧
    ∀ p axis backward, w[p]?.map Command.ofSymbol = some (.turn axis backward) →
      turnCount (w.take p) = k →
      (∃! q, Bracket.GroupEnd w p q) ∧
      ∀ q, Bracket.GroupEnd w p q → ∀ j, w[j]? = some 'F' → j < p ∨ q < j →
        ∃ s, segmentAt w segments j = some s ∧ segmentAt w segments' j = some s := by
  have hjoined := interpret_joined h
  have hlength : segments.length = segments'.length :=
    hjoined.1.trans (interpret_joined h').1.symm
  refine ⟨hlength, fun hk => ?_, fun p axis backward hp hpk => ?_⟩
  · have hall := take_of_alongside (m := w.length) same h h' (by rwa [List.take_length])
    rw [List.take_length] at hall
    rwa [List.take_of_length_le hjoined.1.le,
      List.take_of_length_le (hlength ▸ hjoined.1.le)] at hall
  refine ⟨Bracket.existsUnique_groupEnd w p, fun q hq j hj hout => ?_⟩
  obtain ⟨s, hs, -⟩ := hjoined.2 j hj
  refine ⟨s, hs, ?_⟩
  rcases hout with hjp | hqj
  · rw [← segmentAt_eq_of_take hj hjp (take_of_alongside same h h' hpk.le), hs]
  · rcases hq with ⟨a, hap, hpq, hmatched, -⟩ | ⟨-, rfl⟩
    · have ha : turnCount (w.take a) ≤ k := hpk ▸ turnCount_take_le hap.le w
      have hdrawn : k < turnCount (w.take (q + 1)) := by
        have hmono := turnCount_take_le (w := w) (show p + 1 ≤ q + 1 by omega)
        rw [turnCount_take_succ hp] at hmono
        omega
      rw [← segmentAt_eq_of_drop hqj (drop_of_rejoined same h h' hmatched ha hdrawn), hs]
    · rw [List.getElem?_eq_none hqj.le] at hj
      cases hj

end Interpret

/-- A source that counts its samples. -/
def numbered {α : Type} (sample : Nat → Option α) (n : Nat) : Option α × Nat := (sample n, n + 1)

theorem sampleAt_numbered {α : Type} (sample : Nat → Option α) (n : Nat) :
    sampleAt (numbered sample) 0 n = sample n := by
  have hdrawn : ∀ m, drawn (numbered sample) m 0 = m := fun m => by
    induction m with
    | zero => rfl
    | succ m ih => rw [drawn_succ, ih, numbered]
  rw [sampleAt, hdrawn, numbered]

/-- The first turn is within a closed group, and another one follows it. -/
theorem interpret_local_fork :
    let w := ['F', '[', '+', 'F', ']', '-', 'F']
    let walked := fun sample : Nat → Option Float =>
      interpret (.scalar 0.5) (.scalar 0.25) (numbered sample) 0 w
    ∃ segments segments', walked (fun n => some (if n = 0 then 2.0 else 1.0)) = (.ok segments, 2) ∧
      walked (fun _ => some 1.0) = (.ok segments', 2) ∧ Bracket.GroupEnd w 2 4 ∧
      (∃ s, segments[0]? = some s ∧ segments'[0]? = some s) ∧
      ∃ s, segments[2]? = some s ∧ segments'[2]? = some s := by
  intro w walked
  obtain ⟨segments, h⟩ : ∃ segments, walked (fun n => some (if n = 0 then 2.0 else 1.0)) =
      (.ok segments, 2) := ⟨_, rfl⟩
  obtain ⟨segments', h'⟩ : ∃ segments', walked (fun _ => some 1.0) = (.ok segments', 2) := ⟨_, rfl⟩
  have hend : Bracket.GroupEnd w 2 4 := by
    have hall : ∀ a' < 2, ∀ b' < w.length, 2 < b' → Bracket.Matched w a' b' →
        a' ≤ 1 ∧ 4 ≤ b' := by decide
    exact Or.inl ⟨1, by decide, by decide, by decide,
      fun a' b' ha' hb' hm => hall a' ha' b' hm.lt_length hb' hm⟩
  have same : ∀ n, n ≠ 0 → sampleAt (numbered fun n => some (if n = 0 then (2.0 : Float) else 1.0))
      0 n = sampleAt (numbered fun _ => some (1.0 : Float)) 0 n := by
    intro n hn
    rw [sampleAt_numbered, sampleAt_numbered, if_neg hn]
  have hlocal := ((interpret_local same h h').2.2 2 .z false rfl rfl).2 4 hend
  exact ⟨segments, segments', h, h', hend, hlocal 0 rfl (Or.inl (by decide)),
    hlocal 6 rfl (Or.inr (by decide))⟩

end Turtle
end Arbor
