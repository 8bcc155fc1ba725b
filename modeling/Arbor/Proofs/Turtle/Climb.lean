/-
# The walk is a climb

`Turtle.walk` reads a word once and keeps a stack of cursors. `Turtle.climb`
knows no stack: it follows the forest of the word, and after a group it goes
on with the cursor it had before it. A group keeps nothing of its own but the
segments made and the samples drawn.

The two agree on every closable word (`interpret_eq_climb`), failures
included. Within a closed group this is `walk_contents`, by recursion on the
forest and for every turtle, since the contents of a group are read with other
cursors saved below; at the end of the word, where groups can be unclosed, it
is `report_walk`.

Key definitions: `Turtle.advance`, `Turtle.climb`, `Turtle.report`.
Key theorems: `Turtle.step_eq_advance`, `Turtle.walk_contents`,
`Turtle.report_walk`, `Turtle.walk_restores`, `Turtle.interpret_eq_climb`.
-/
import Arbor.Proofs.Bracket.Forest
import Arbor.Proofs.Turtle.Outcome

namespace Arbor
namespace Turtle

open Arbor.Bracket (Forest)

/-- A result with earlier segments in front. -/
def after {α σ : Type} (earlier : List (Segment α)) (r : Except Fault (List (Segment α)) × σ) :
    Except Fault (List (Segment α)) × σ := (r.1.map (earlier ++ ·), r.2)

theorem after_ok {α σ : Type} (earlier segments : List (Segment α)) (left : σ) :
    after earlier (.ok segments, left) = (.ok (earlier ++ segments), left) := rfl

theorem after_nil {α σ : Type} (r : Except Fault (List (Segment α)) × σ) : after [] r = r := by
  rcases r with ⟨⟨fault⟩ | ⟨segments⟩, left⟩ <;> rfl

theorem after_after {α σ : Type} (first second : List (Segment α))
    (r : Except Fault (List (Segment α)) × σ) :
    after first (after second r) = after (first ++ second) r := by
  rcases r with ⟨⟨fault⟩ | ⟨segments⟩, left⟩
  · rfl
  · simp only [after_ok, List.append_assoc]

/-- What a walk makes known of its end. -/
def report {α σ : Type} : Except (Fault × σ) (Turtle α σ) → Except Fault (List (Segment α)) × σ
  | .ok t => (.ok t.made.reverse, t.source)
  | .error (fault, left) => (.error fault, left)

variable {α σ : Type} [Scalar α]

/-- What a command that is no bracket does to a cursor: the segments it leaves
behind, the cursor after it and the samples that are left. -/
def advance (length angle : Option α) (draw : σ → Option α × σ) (cursor : Cursor α) (source : σ) :
    Command → Except Fault (List (Segment α) × Cursor α) × σ
  | .forward =>
    match length with
    | none => (.error .lengthOutOfRange, source)
    | some length =>
      let next := cursor.position + cursor.heading.scale length
      (.ok ([⟨cursor.position, next⟩], ⟨next, cursor.heading⟩), source)
  | .turn axis backward =>
    match angle with
    | none => (.error (.turn .outOfRange), source)
    | some angle =>
      match draw source with
      | (none, left) => (.error (.turn .outOfRange), left)
      | (some sample, left) =>
        match axis.turn? ((if backward then -angle else angle) * sample) cursor.heading with
        | none => (.error (.turn .infiniteAngle), left)
        | some heading => (.ok ([], ⟨cursor.position, heading.unit⟩), left)
  | .save => (.ok ([], cursor), source)
  | .restore => (.ok ([], cursor), source)
  | .idle => (.ok ([], cursor), source)

/-- The walk over a forest, without a stack. -/
def climb (length angle : Option α) (draw : σ → Option α × σ) :
    {closed : Bool} → Forest closed → Cursor α → σ → Except Fault (List (Segment α)) × σ
  | _, .nil, _, source => (.ok [], source)
  | _, .symbol c _ _ rest, cursor, source =>
    match advance length angle draw cursor source (Command.ofSymbol c) with
    | (.error fault, left) => (.error fault, left)
    | (.ok (segments, next), left) => after segments (climb length angle draw rest next left)
  | _, .group inner rest, cursor, source =>
    match climb length angle draw inner cursor source with
    | (.error fault, left) => (.error fault, left)
    | (.ok segments, left) => after segments (climb length angle draw rest cursor left)
  | _, .unclosed inner, cursor, source => climb length angle draw inner cursor source

section Walks

variable {length angle : Option α} {draw : σ → Option α × σ}

/-- On a command that is no bracket the turtle only moves its cursor. -/
theorem step_eq_advance (index : Nat) (t : Turtle α σ) {command : Command}
    (save : command ≠ .save) (restore : command ≠ .restore) :
    step length angle draw index t command =
      match advance length angle draw t.cursor t.source command with
      | (.error fault, left) => .error (fault, left)
      | (.ok (segments, next), left) => .ok ⟨next, t.saved, segments.reverse ++ t.made, left⟩ := by
  cases command with
  | forward => cases length <;> rfl
  | turn axis backward =>
    cases angle with
    | none => rfl
    | some angle =>
      simp only [step, advance]
      rcases draw t.source with ⟨sample, left⟩
      cases sample with
      | none => rfl
      | some sample =>
        simp only
        cases axis.turn? ((if backward then -angle else angle) * sample) t.cursor.heading <;> rfl
  | save => exact absurd rfl save
  | restore => exact absurd rfl restore
  | idle => rfl

theorem walk_symbol (index : Nat) (t : Turtle α σ) {c : Char} (left : c ≠ '[') (right : c ≠ ']')
    (w : Word) :
    walk length angle draw index t (c :: w) =
      match advance length angle draw t.cursor t.source (Command.ofSymbol c) with
      | (.error fault, left) => .error (fault, left)
      | (.ok (segments, next), left) =>
        walk length angle draw (index + 1) ⟨next, t.saved, segments.reverse ++ t.made, left⟩ w := by
  have save : Command.ofSymbol c ≠ .save := fun h => left (Command.ofSymbol_inj h (by decide))
  have restore : Command.ofSymbol c ≠ .restore := fun h => right (Command.ofSymbol_inj h (by decide))
  rw [walk_cons, step_eq_advance index t save restore]
  rcases advance length angle draw t.cursor t.source (Command.ofSymbol c) with
    ⟨⟨fault⟩ | ⟨segments, next⟩, left⟩ <;> rfl

theorem walk_open (index : Nat) (t : Turtle α σ) (w : Word) :
    walk length angle draw index t ('[' :: w) =
      walk length angle draw (index + 1) ⟨t.cursor, t.cursor :: t.saved, t.made, t.source⟩ w := rfl

theorem walk_close (index : Nat) (cursor below : Cursor α) (saved : List (Cursor α))
    (made : List (Segment α)) (source : σ) (w : Word) :
    walk length angle draw index ⟨cursor, below :: saved, made, source⟩ (']' :: w) =
      walk length angle draw (index + 1) ⟨below, saved, made, source⟩ w := rfl

/-- The contents of a group and the bracket that closes it: the turtle is back
at the cursor saved last, with the segments of the climb made and its samples
drawn. -/
theorem walk_contents : ∀ (f : Forest true) (index : Nat) (cursor below : Cursor α)
    (saved : List (Cursor α)) (made : List (Segment α)) (source : σ) (w : Word),
    walk length angle draw index ⟨cursor, below :: saved, made, source⟩ (f.word ++ ']' :: w) =
      match climb length angle draw f cursor source with
      | (.error fault, left) => .error (fault, left)
      | (.ok segments, left) =>
        walk length angle draw (index + f.word.length + 1)
          ⟨below, saved, segments.reverse ++ made, left⟩ w
  | .nil, index, cursor, below, saved, made, source, w => walk_close index _ _ _ _ _ w
  | .symbol c left right rest, index, cursor, below, saved, made, source, w => by
    rw [Forest.word_symbol, List.cons_append, walk_symbol index _ left right, climb]
    simp only
    rcases advance length angle draw cursor source (Command.ofSymbol c) with
      ⟨⟨fault⟩ | ⟨segments, next⟩, left⟩
    · rfl
    · simp only
      rw [walk_contents rest]
      rcases climb length angle draw rest next left with ⟨⟨fault⟩ | ⟨others⟩, left⟩
      · rfl
      · simp only [after_ok, List.reverse_append, List.append_assoc, List.length_cons]
        congr 1
        omega
  | .group inner rest, index, cursor, below, saved, made, source, w => by
    simp only [Forest.word_group, List.append_assoc, List.cons_append]
    rw [walk_open, walk_contents inner, climb]
    simp only
    rcases climb length angle draw inner cursor source with ⟨⟨fault⟩ | ⟨segments⟩, left⟩
    · rfl
    · simp only
      rw [walk_contents rest]
      rcases climb length angle draw rest cursor left with ⟨⟨fault⟩ | ⟨others⟩, left⟩
      · rfl
      · simp only [after_ok, List.reverse_append, List.append_assoc, List.length_cons,
          List.length_append]
        congr 1
        omega

/-- The end of a word. -/
theorem report_walk : ∀ {closed : Bool} (f : Forest closed) (index : Nat) (t : Turtle α σ),
    report (walk length angle draw index t f.word) =
      after t.made.reverse (climb length angle draw f t.cursor t.source)
  | _, .nil, index, t => by
    simp only [Forest.word_nil, walk_nil, report, climb, after_ok, List.append_nil]
  | _, .symbol c left right rest, index, t => by
    rw [Forest.word_symbol, walk_symbol index t left right, climb]
    rcases advance length angle draw t.cursor t.source (Command.ofSymbol c) with
      ⟨⟨fault⟩ | ⟨segments, next⟩, left⟩
    · rfl
    · simp only
      rw [report_walk rest, after_after, List.reverse_append, List.reverse_reverse]
  | _, .group inner rest, index, t => by
    rw [Forest.word_group, List.cons_append, walk_open, walk_contents inner, climb]
    rcases climb length angle draw inner t.cursor t.source with ⟨⟨fault⟩ | ⟨segments⟩, left⟩
    · rfl
    · simp only
      rw [report_walk rest, after_after, List.reverse_append, List.reverse_reverse]
  | _, .unclosed inner, index, t => by
    rw [Forest.word_unclosed, walk_open, report_walk inner, climb]

/-- A closed group leaves the cursor and the saved cursors as they were. -/
theorem walk_group (f : Forest true) (index : Nat) (t : Turtle α σ) {next : Turtle α σ}
    (h : walk length angle draw index t ('[' :: f.word ++ [']']) = .ok next) :
    next.cursor = t.cursor ∧ next.saved = t.saved := by
  rw [List.cons_append, walk_open, walk_contents f] at h
  rcases hclimb : climb length angle draw f t.cursor t.source with ⟨⟨fault⟩ | ⟨segments⟩, left⟩
  · rw [hclimb] at h
    cases h
  · rw [hclimb] at h
    simp only [walk_nil, Except.ok.injEq] at h
    subst h
    exact ⟨rfl, rfl⟩

/-- Closing brackets that find a cursor saved make nothing and draw nothing. -/
theorem walk_restores : ∀ (k index : Nat) (t : Turtle α σ), k ≤ t.saved.length →
    report (walk length angle draw index t (List.replicate k ']')) =
      (.ok t.made.reverse, t.source)
  | 0, _, _, _ => rfl
  | k + 1, index, ⟨cursor, below :: saved, made, source⟩, h => by
    rw [List.replicate_succ, walk_close, walk_restores k]
    exact Nat.le_of_succ_le_succ h

end Walks

/-! ### Climbs that end well -/

section Inversion

variable {length angle : Option α} {draw : σ → Option α × σ} {cursor : Cursor α} {source left : σ}

theorem after_eq_ok {α σ : Type} {earlier segments : List (Segment α)} {left : σ}
    {r : Except Fault (List (Segment α)) × σ} (h : after earlier r = (.ok segments, left)) :
    ∃ others, r = (.ok others, left) ∧ segments = earlier ++ others := by
  rcases r with ⟨⟨fault⟩ | ⟨others⟩, left'⟩
  · cases h
  · cases h
    exact ⟨others, rfl, rfl⟩

theorem advance_eq_ok {c : Char} {segments : List (Segment α)} {next : Cursor α}
    (h : advance length angle draw cursor source (Command.ofSymbol c) =
      (.ok (segments, next), left)) :
    (c = 'F' ∧ ∃ s : Segment α, segments = [s] ∧ s.start = cursor.position ∧
      next.position = s.finish) ∨
    (c ≠ 'F' ∧ segments = [] ∧ next.position = cursor.position) := by
  cases hc : Command.ofSymbol c with
  | forward =>
    rw [hc] at h
    cases length with
    | none => cases h
    | some length =>
      cases h
      exact Or.inl ⟨Command.ofSymbol_inj hc (by decide), _, rfl, rfl, rfl⟩
  | turn axis backward =>
    refine Or.inr ⟨(by rintro rfl; cases hc), ?_⟩
    rw [hc] at h
    cases angle with
    | none => cases h
    | some angle =>
      simp only [advance] at h
      rcases hdraw : draw source with ⟨_ | sample, left'⟩
      · rw [hdraw] at h
        cases h
      · rw [hdraw] at h
        simp only at h
        cases hturn : axis.turn? ((if backward then -angle else angle) * sample) cursor.heading with
        | none =>
          rw [hturn] at h
          cases h
        | some heading =>
          rw [hturn] at h
          cases h
          exact ⟨rfl, rfl⟩
  | save =>
    rw [hc] at h
    cases h
    exact Or.inr ⟨(by rintro rfl; cases hc), rfl, rfl⟩
  | restore =>
    rw [hc] at h
    cases h
    exact Or.inr ⟨(by rintro rfl; cases hc), rfl, rfl⟩
  | idle =>
    rw [hc] at h
    cases h
    exact Or.inr ⟨(by rintro rfl; cases hc), rfl, rfl⟩

theorem climb_symbol_eq_ok {closed : Bool} {c : Char} {hl : c ≠ '['} {hr : c ≠ ']'}
    {rest : Forest closed} {segments : List (Segment α)}
    (h : climb length angle draw (.symbol c hl hr rest) cursor source = (.ok segments, left)) :
    ∃ first next middle others,
      advance length angle draw cursor source (Command.ofSymbol c) = (.ok (first, next), middle) ∧
      climb length angle draw rest next middle = (.ok others, left) ∧
      segments = first ++ others := by
  rw [climb] at h
  rcases hadvance : advance length angle draw cursor source (Command.ofSymbol c) with
    ⟨⟨fault⟩ | ⟨first, next⟩, middle⟩
  · rw [hadvance] at h
    cases h
  · rw [hadvance] at h
    obtain ⟨others, hrest, hsegments⟩ := after_eq_ok h
    exact ⟨first, next, middle, others, rfl, hrest, hsegments⟩

theorem climb_group_eq_ok {closed : Bool} {inner : Forest true} {rest : Forest closed}
    {segments : List (Segment α)}
    (h : climb length angle draw (.group inner rest) cursor source = (.ok segments, left)) :
    ∃ first middle others,
      climb length angle draw inner cursor source = (.ok first, middle) ∧
      climb length angle draw rest cursor middle = (.ok others, left) ∧
      segments = first ++ others := by
  rw [climb] at h
  rcases hinner : climb length angle draw inner cursor source with
    ⟨⟨fault⟩ | ⟨first⟩, middle⟩
  · rw [hinner] at h
    cases h
  · rw [hinner] at h
    obtain ⟨others, hrest, hsegments⟩ := after_eq_ok h
    exact ⟨first, middle, others, rfl, hrest, hsegments⟩

end Inversion

section Interpret

variable {length angle : Quantity α} {draw : σ → Option α × σ} {source : σ} {w : Word}

theorem interpret_eq_report (positive : length.positive = true) :
    interpret length angle draw source w =
      report (walk length.value? angle.value? draw 0 (atRoot source) w) := by
  rw [interpret, if_pos positive]
  rcases walk length.value? angle.value? draw 0 (atRoot source) w with ⟨fault, left⟩ | t <;> rfl

theorem interpret_word {closed : Bool} (f : Forest closed) (positive : length.positive = true) :
    interpret length angle draw source f.word =
      climb length.value? angle.value? draw f ⟨Point.origin, Point.up⟩ source := by
  rw [interpret_eq_report positive, report_walk f]
  exact after_nil _

/-- Brackets that were missing make no difference. -/
theorem interpret_append_close (positive : length.positive = true) {k : Nat}
    (h : (k : Int) ≤ Bracket.height w) :
    interpret length angle draw source (w ++ List.replicate k ']') =
      interpret length angle draw source w := by
  rw [interpret_eq_report positive, interpret_eq_report positive, walk_append]
  rcases no_fault_or_firstFault length.value? angle.value? draw source w with
    hnone | ⟨i, fault, n, hfirst⟩
  · obtain ⟨t, hwalk, hfollows⟩ := walk_of_no_fault hnone
    have hsaved := hfollows.saved
    rw [hwalk]
    simp only [Except.bind]
    rw [walk_restores k _ t (by omega)]
    rfl
  · rw [walk_of_firstFault hfirst]
    rfl

/-- **The walk is a climb.** A closable word has exactly one forest, and the
walk over the word is the climb of its forest from the root, which ends well
when no symbol is at fault. A closed group leaves the turtle where it was,
with the same cursors saved, and closing what the word leaves open changes
nothing. -/
theorem interpret_eq_climb (closable : Bracket.Closable w) (positive : length.positive = true)
    (angle : Quantity α) (draw : σ → Option α × σ) (source : σ) :
    (∃! f : (closed : Bool) × Forest closed, f.2.word = w) ∧
    (∀ {closed : Bool} (f : Forest closed), f.word = w →
      interpret length angle draw source w =
        climb length.value? angle.value? draw f ⟨Point.origin, Point.up⟩ source) ∧
    ((∀ i, faultAt length.value? angle.value? draw source w i = none) →
      ∃ segments left, interpret length angle draw source w = (.ok segments, left)) ∧
    (∀ (inner : Forest true) (index : Nat) (t next : Turtle α σ),
      walk length.value? angle.value? draw index t ('[' :: inner.word ++ [']']) = .ok next →
        next.cursor = t.cursor ∧ next.saved = t.saved) ∧
    (∀ k : Nat, (k : Int) ≤ Bracket.height w →
      interpret length angle draw source (w ++ List.replicate k ']') =
        interpret length angle draw source w) := by
  refine ⟨Bracket.closable_iff_existsUnique_forest.1 closable, fun f hf => ?_, fun hnone => ?_,
    fun inner index t next => walk_group inner index t, fun k => interpret_append_close positive⟩
  · rw [← hf, interpret_word f positive]
  · obtain ⟨segments, hrun, -⟩ := interpret_of_no_fault positive hnone
    exact ⟨segments, _, hrun⟩

/-- A closed group with an unclosed one after it. -/
theorem interpret_eq_climb_unclosed :
    Bracket.Closable ['F', '[', '+', 'F', ']', '[', '-', 'F'] ∧
    (Quantity.scalar (0.5 : Float)).positive = true ∧
    interpret (.scalar (0.5 : Float)) (.scalar 0.7) (cycle #[]) 0
        ['F', '[', '+', 'F', ']', '[', '-', 'F'] =
      climb (some 0.5) (some 0.7) (cycle #[])
        (.symbol 'F' (by decide) (by decide)
          (.group
            (.symbol '+' (by decide) (by decide) (.symbol 'F' (by decide) (by decide) .nil))
            (.unclosed
              (.symbol '-' (by decide) (by decide) (.symbol 'F' (by decide) (by decide) .nil)))))
        ⟨Point.origin, Point.up⟩ 0 := by
  refine ⟨by decide, by decide, ?_⟩
  exact (interpret_eq_climb (by decide) (by decide) (.scalar 0.7) (cycle #[]) 0).2.1 _ rfl

end Interpret

end Turtle
end Arbor
