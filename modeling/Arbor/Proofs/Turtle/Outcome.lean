/-
# How a walk ends

Whether a symbol stops the turtle depends on the symbols before it only:
`faultAfter` says which fault a command leads to after a word, from the height
of that word and the number of its turns. A turtle that has come through a
word has as many cursors saved as the word is high, as many segments made as
it has steps forward, and one sample drawn for every turn (`Follows`).

So the walk over a word ends well exactly if no position is at fault, and it
fails at the first one that is, whatever comes after it (`interpret_outcome`).
Where closing brackets are the only faults, `Bracket.depth` finds the same
one.

Key definitions: `Turtle.turnCount`, `Turtle.drawn`, `Turtle.faultAfter`,
`Turtle.faultAt`, `Turtle.FirstFault`, `Turtle.Follows`.
Key theorems: `Command.ofSymbol_inj`, `Turtle.step_after`,
`Turtle.walk_of_no_fault`, `Turtle.walk_of_firstFault`, `Turtle.faultAt_cases`,
`Turtle.interpret_outcome`.
-/
import Mathlib.Logic.Function.Iterate
import Arbor.Proofs.Bracket.Opened
import Arbor.Turtle.Walk

namespace Arbor

/-- Whether a command is a turn. -/
def Command.isTurn : Command → Bool
  | .turn _ _ => true
  | _ => false

namespace Command

/-- A command that does something is that of one symbol only. -/
theorem ofSymbol_inj {c d : Char} (h : ofSymbol c = ofSymbol d) (hd : ofSymbol d ≠ .idle) :
    c = d := by
  generalize he : ofSymbol d = command at h hd
  unfold ofSymbol at h he
  split at h <;> split at he <;> subst he <;> first | rfl | exact absurd rfl hd | cases h

/-- Turns and idle symbols neither change the height of a word nor are they
steps forward. -/
theorem weightless {c : Char} (forward : ofSymbol c ≠ .forward) (save : ofSymbol c ≠ .save)
    (restore : ofSymbol c ≠ .restore) : Bracket.height [c] = 0 ∧ [c].count 'F' = 0 := by
  refine ⟨Bracket.height_other ?_ ?_, List.count_eq_zero.2 fun hF => ?_⟩
  · rintro rfl
    exact save rfl
  · rintro rfl
    exact restore rfl
  · obtain rfl := List.mem_singleton.1 hF
    exact forward rfl

end Command

namespace Turtle

/-- How many turns a word has. -/
def turnCount (w : Word) : Nat := w.countP fun c => (Command.ofSymbol c).isTurn

theorem turnCount_append (u v : Word) : turnCount (u ++ v) = turnCount u + turnCount v :=
  List.countP_append

section Sources

variable {α σ : Type}

/-- What is left of a source after `n` samples. -/
def drawn (draw : σ → Option α × σ) (n : Nat) (source : σ) : σ := (fun s => (draw s).2)^[n] source

theorem drawn_add (draw : σ → Option α × σ) (m n : Nat) (source : σ) :
    drawn draw (m + n) source = drawn draw n (drawn draw m source) := by
  rw [Nat.add_comm]
  exact Function.iterate_add_apply _ n m source

theorem drawn_succ (draw : σ → Option α × σ) (n : Nat) (source : σ) :
    drawn draw (n + 1) source = (draw (drawn draw n source)).2 :=
  Function.iterate_succ_apply' _ n source

end Sources

variable {α σ : Type} [Scalar α]

/-- The fault that a command leads to after the word `u`, and the number of
samples drawn by then. -/
def faultAfter (length angle : Option α) (draw : σ → Option α × σ) (source : σ) (u : Word) :
    Command → Option (Fault × Nat)
  | .forward => if length.isSome then none else some (.lengthOutOfRange, turnCount u)
  | .turn _ backward =>
    match angle, (draw (drawn draw (turnCount u) source)).1 with
    | some angle, some sample =>
      if Scalar.isInfinite ((if backward then -angle else angle) * sample) then
        some (.turn .infiniteAngle, turnCount u + 1)
      else none
    | some _, none => some (.turn .outOfRange, turnCount u + 1)
    | none, _ => some (.turn .outOfRange, turnCount u)
  | .restore =>
    if Bracket.height u = 0 then some (.unmatched u.length, turnCount u) else none
  | .save => none
  | .idle => none

/-- The fault of the symbol at position `i`, and the number of samples drawn
by then. -/
def faultAt (length angle : Option α) (draw : σ → Option α × σ) (source : σ) (w : Word) (i : Nat) :
    Option (Fault × Nat) :=
  w[i]?.bind fun c => faultAfter length angle draw source (w.take i) (Command.ofSymbol c)

/-- Position `i` is the first one at fault. -/
def FirstFault (length angle : Option α) (draw : σ → Option α × σ) (source : σ) (w : Word)
    (i : Nat) (fault : Fault) (n : Nat) : Prop :=
  faultAt length angle draw source w i = some (fault, n) ∧
    ∀ j < i, faultAt length angle draw source w j = none

/-- What a turtle shares with every other one that has come through the word
`u`. -/
structure Follows (draw : σ → Option α × σ) (source : σ) (u : Word) (t : Turtle α σ) : Prop where
  saved : (t.saved.length : Int) = Bracket.height u
  made : t.made.length = u.count 'F'
  source : t.source = drawn draw (turnCount u) source

section Follows

variable {α σ : Type} {draw : σ → Option α × σ} {source : σ}

theorem follows_atRoot [Scalar α] : Follows draw source [] (atRoot source : Turtle α σ) :=
  ⟨rfl, rfl, rfl⟩

theorem Follows.concat {u : Word} {t next : Turtle α σ} {c : Char} (h : Follows draw source u t)
    (saved : (next.saved.length : Int) = t.saved.length + Bracket.height [c])
    (made : next.made.length = t.made.length + [c].count 'F')
    (left : next.source = drawn draw (turnCount [c]) t.source) :
    Follows draw source (u ++ [c]) next := by
  refine ⟨?_, ?_, ?_⟩
  · rw [saved, h.saved, Bracket.height_append]
  · rw [made, h.made, List.count_append]
  · rw [left, h.source, turnCount_append, drawn_add]

theorem Follows.concat_weightless {u : Word} {t next : Turtle α σ} {c : Char}
    (h : Follows draw source u t) (hc : Bracket.height [c] = 0 ∧ [c].count 'F' = 0)
    (saved : next.saved = t.saved) (made : next.made = t.made)
    (left : next.source = drawn draw (turnCount [c]) t.source) :
    Follows draw source (u ++ [c]) next := by
  refine h.concat ?_ ?_ left
  · rw [saved, hc.1, Int.add_zero]
  · rw [made, hc.2, Nat.add_zero]

end Follows

section Steps

variable {length angle : Option α} {draw : σ → Option α × σ} {source : σ}

/-- A turn after the word `u` draws one sample, unless the angle is missing. -/
theorem step_turn_after {u : Word} {t : Turtle α σ} (h : Follows draw source u t) {c : Char}
    {axis : Axis} {backward : Bool} (hc : Command.ofSymbol c = .turn axis backward) :
    (∀ fault n, faultAfter length angle draw source u (.turn axis backward) = some (fault, n) →
      step length angle draw u.length t (.turn axis backward) =
        .error (fault, drawn draw n source)) ∧
    (faultAfter length angle draw source u (.turn axis backward) = none →
      ∃ next, step length angle draw u.length t (.turn axis backward) = .ok next ∧
        Follows draw source (u ++ [c]) next) := by
  have hweight : Bracket.height [c] = 0 ∧ [c].count 'F' = 0 :=
    Command.weightless (by simp [hc]) (by simp [hc]) (by simp [hc])
  have hturn : turnCount [c] = 1 := by simp [turnCount, hc, Command.isTurn]
  cases angle with
  | none => simp [faultAfter, step, h.source]
  | some angle =>
    rcases hd : draw (drawn draw (turnCount u) source) with ⟨sample, left⟩
    have hleft : drawn draw (turnCount u + 1) source = left := by rw [drawn_succ, hd]
    simp only [faultAfter, step, h.source, Axis.turn?, hd]
    cases sample with
    | none => simp [hleft]
    | some sample =>
      by_cases hinf : Scalar.isInfinite ((if backward then -angle else angle) * sample) = true
      · simp only [hinf, if_true]
        constructor
        · intro fault n hf
          cases hf
          rw [hleft]
        · intro hf
          cases hf
      · simp only [hinf]
        refine ⟨fun _ _ hf => by simp at hf, fun _ => ⟨_, rfl, ?_⟩⟩
        refine h.concat_weightless hweight rfl rfl ?_
        rw [hturn, h.source, ← drawn_add, hleft]

/-- A step after the word `u`: it fails as `faultAfter` says or the turtle has
come through one more symbol. -/
theorem step_after {u : Word} {t : Turtle α σ} (h : Follows draw source u t) (c : Char) :
    (∀ fault n, faultAfter length angle draw source u (Command.ofSymbol c) = some (fault, n) →
      step length angle draw u.length t (Command.ofSymbol c) =
        .error (fault, drawn draw n source)) ∧
    (faultAfter length angle draw source u (Command.ofSymbol c) = none →
      ∃ next, step length angle draw u.length t (Command.ofSymbol c) = .ok next ∧
        Follows draw source (u ++ [c]) next) := by
  cases hc : Command.ofSymbol c with
  | forward =>
    obtain rfl : c = 'F' := Command.ofSymbol_inj hc (by decide)
    cases length with
    | none => simp [faultAfter, step, h.source]
    | some length =>
      refine ⟨fun _ _ hf => by simp [faultAfter] at hf, fun _ => ⟨_, rfl, ?_⟩⟩
      exact h.concat (by simp [Bracket.height]) rfl rfl
  | turn axis backward => exact step_turn_after h hc
  | save =>
    obtain rfl : c = '[' := Command.ofSymbol_inj hc (by decide)
    refine ⟨fun _ _ hf => by simp [faultAfter] at hf, fun _ => ⟨_, rfl, ?_⟩⟩
    exact h.concat (by simp) rfl rfl
  | restore =>
    obtain rfl : c = ']' := Command.ofSymbol_inj hc (by decide)
    have hsaved := h.saved
    cases hs : t.saved with
    | nil =>
      rw [hs] at hsaved
      simp [faultAfter, step, hs, ← hsaved, h.source]
    | cons cursor saved =>
      have hne : Bracket.height u ≠ 0 := by
        rw [← hsaved, hs, List.length_cons]
        omega
      simp only [faultAfter, step, hs, if_neg hne]
      refine ⟨fun _ _ hf => by simp at hf, fun _ => ⟨_, rfl, ?_⟩⟩
      refine h.concat ?_ rfl rfl
      simp only [hs, List.length_cons, Bracket.height_close]
      omega
  | idle =>
    have hturn : turnCount [c] = 0 := by simp [turnCount, hc, Command.isTurn]
    refine ⟨fun _ _ hf => by simp [faultAfter] at hf, fun _ => ⟨_, rfl, ?_⟩⟩
    refine h.concat_weightless ?_ rfl rfl (by rw [hturn]; rfl)
    exact Command.weightless (by simp [hc]) (by simp [hc]) (by simp [hc])

/-! ### Runs -/

theorem walk_append (index : Nat) (t : Turtle α σ) (u v : Word) :
    walk length angle draw index t (u ++ v) =
      (walk length angle draw index t u).bind
        fun next => walk length angle draw (index + u.length) next v := by
  induction u generalizing index t with
  | nil => rfl
  | cons c u ih =>
    rw [List.cons_append, walk_cons, walk_cons]
    cases step length angle draw index t (Command.ofSymbol c) with
    | error fault => rfl
    | ok next =>
      have hindex : index + 1 + u.length = index + (c :: u).length := by
        rw [List.length_cons]; omega
      simp only [Except.bind]
      rw [ih, hindex]
      rfl

theorem walk_singleton (index : Nat) (t : Turtle α σ) (c : Char) :
    walk length angle draw index t [c] = step length angle draw index t (Command.ofSymbol c) := by
  rw [walk_cons]
  cases step length angle draw index t (Command.ofSymbol c) <;> rfl

/-- The first step of a walk that ends well. -/
theorem walk_cons_eq_ok {index : Nat} {t last : Turtle α σ} {c : Char} {w : Word}
    (h : walk length angle draw index t (c :: w) = .ok last) :
    ∃ next, step length angle draw index t (Command.ofSymbol c) = .ok next ∧
      walk length angle draw (index + 1) next w = .ok last := by
  rw [walk_cons] at h
  cases hstep : step length angle draw index t (Command.ofSymbol c) with
  | error fault =>
    rw [hstep] at h
    cases h
  | ok next =>
    rw [hstep] at h
    exact ⟨next, rfl, h⟩

/-- A step keeps the segments made before it. -/
theorem step_made {index : Nat} {t next : Turtle α σ} {command : Command}
    (h : step length angle draw index t command = .ok next) :
    ∃ new, next.made = new ++ t.made := by
  cases command with
  | forward =>
    cases length with
    | none => cases h
    | some length =>
      cases h
      exact ⟨[_], rfl⟩
  | turn axis backward =>
    simp only [step] at h
    repeat' split at h
    all_goals cases h
    exact ⟨[], rfl⟩
  | save =>
    cases h
    exact ⟨[], rfl⟩
  | restore =>
    simp only [step] at h
    split at h <;> cases h
    exact ⟨[], rfl⟩
  | idle =>
    cases h
    exact ⟨[], rfl⟩

theorem walk_made : ∀ (w : Word) (index : Nat) (t : Turtle α σ) {next : Turtle α σ},
    walk length angle draw index t w = .ok next → ∃ new, next.made = new ++ t.made
  | [], _, _, _, h => by
    cases h
    exact ⟨[], rfl⟩
  | c :: w, index, t, next, h => by
    obtain ⟨middle, hstep, hrest⟩ := walk_cons_eq_ok h
    obtain ⟨new, hnew⟩ := walk_made w (index + 1) middle hrest
    obtain ⟨first, hfirst⟩ := step_made hstep
    exact ⟨new ++ first, by rw [hnew, hfirst, List.append_assoc]⟩

theorem faultAt_concat (u : Word) (c : Char) :
    faultAt length angle draw source (u ++ [c]) u.length =
      faultAfter length angle draw source u (Command.ofSymbol c) := by
  unfold faultAt
  rw [List.getElem?_concat_length, List.take_left' rfl, Option.bind_some]

theorem faultAt_eq_none_of_le {w : Word} {i : Nat} (hi : w.length ≤ i) :
    faultAt length angle draw source w i = none := by
  unfold faultAt
  rw [List.getElem?_eq_none hi, Option.bind_none]

/-- A fault does not depend on what comes after it. -/
theorem faultAt_take {w : Word} {i k : Nat} (hik : i < k) :
    faultAt length angle draw source (w.take k) i = faultAt length angle draw source w i := by
  unfold faultAt
  rw [List.getElem?_take_of_lt hik, List.take_take, Nat.min_eq_left hik.le]

/-- The first symbols of a word are not at fault if no position before their
end is. -/
theorem no_fault_take {w : Word} {k : Nat}
    (h : ∀ i < k, faultAt length angle draw source w i = none) (i : Nat) :
    faultAt length angle draw source (w.take k) i = none := by
  rcases Nat.lt_or_ge i k with hik | hki
  · rw [faultAt_take hik, h i hik]
  · exact faultAt_eq_none_of_le ((List.length_take_le k w).trans hki)

theorem walk_of_no_fault {u : Word} (h : ∀ i, faultAt length angle draw source u i = none) :
    ∃ t, walk length angle draw 0 (atRoot source) u = .ok t ∧ Follows draw source u t := by
  induction u using List.reverseRecOn with
  | nil => exact ⟨_, rfl, follows_atRoot⟩
  | append_singleton u c ih =>
    have hu := no_fault_take (k := u.length) fun i _ => h i
    rw [List.take_left' rfl] at hu
    obtain ⟨t, hwalk, hfollows⟩ := ih hu
    have hlast := h u.length
    rw [faultAt_concat] at hlast
    obtain ⟨next, hstep, hnext⟩ := (step_after hfollows c).2 hlast
    refine ⟨next, ?_, hnext⟩
    rw [walk_append, hwalk, ← hstep, ← walk_singleton]
    simp only [Except.bind, Nat.zero_add]

/-- A walk without a fault comes to every position. -/
theorem walk_take {w : Word} (h : ∀ i, faultAt length angle draw source w i = none) (k : Nat) :
    ∃ t, walk length angle draw 0 (atRoot source) (w.take k) = .ok t ∧
      Follows draw source (w.take k) t :=
  walk_of_no_fault (no_fault_take fun i _ => h i)

theorem FirstFault.lt_length {w : Word} {i n : Nat} {fault : Fault}
    (h : FirstFault length angle draw source w i fault n) : i < w.length := by
  by_contra hi
  have hnone := h.1
  rw [faultAt_eq_none_of_le (by omega)] at hnone
  cases hnone

/-- The first fault stays where it is, whatever comes after it. -/
theorem FirstFault.take_append {w : Word} {i n : Nat} {fault : Fault}
    (h : FirstFault length angle draw source w i fault n) (rest : Word) :
    FirstFault length angle draw source (w.take (i + 1) ++ rest) i fault n := by
  have hlen : (w.take (i + 1)).length = i + 1 := List.length_take_of_le h.lt_length
  have hsame : ∀ j < i + 1, faultAt length angle draw source (w.take (i + 1) ++ rest) j =
      faultAt length angle draw source w j := by
    intro j hj
    rw [← faultAt_take hj, List.take_left' hlen, faultAt_take hj]
  refine ⟨?_, fun j hj => ?_⟩
  · rw [hsame i (Nat.lt_succ_self i), h.1]
  · rw [hsame j (Nat.lt_succ_of_lt hj), h.2 j hj]

theorem walk_of_firstFault {w : Word} {i n : Nat} {fault : Fault}
    (h : FirstFault length angle draw source w i fault n) :
    walk length angle draw 0 (atRoot source) w = .error (fault, drawn draw n source) := by
  have hi := h.lt_length
  have hsplit : w = w.take i ++ ([w[i]] ++ w.drop (i + 1)) := by
    rw [← List.append_assoc, List.take_concat_get', List.take_append_drop]
  obtain ⟨t, hwalk, hfollows⟩ := walk_of_no_fault (no_fault_take h.2)
  have hfault := h.1
  rw [faultAt, List.getElem?_eq_getElem hi, Option.bind_some] at hfault
  have hstep := (step_after hfollows w[i]).1 fault n hfault
  rw [hsplit, walk_append, hwalk]
  simp only [Except.bind]
  rw [walk_append, walk_singleton, Nat.zero_add, hstep]
  rfl

/-- Either no position is at fault or there is a first one. -/
theorem no_fault_or_firstFault (length angle : Option α) (draw : σ → Option α × σ) (source : σ)
    (w : Word) : (∀ i, faultAt length angle draw source w i = none) ∨
      ∃ i fault n, FirstFault length angle draw source w i fault n := by
  by_cases h : ∃ i, faultAt length angle draw source w i ≠ none
  · classical
    obtain ⟨⟨fault, n⟩, hfault⟩ := Option.ne_none_iff_exists'.1 (Nat.find_spec h)
    exact Or.inr ⟨Nat.find h, fault, n, hfault, fun j hj => not_not.1 (Nat.find_min h hj)⟩
  · exact Or.inl fun i => by_contra fun hi => h ⟨i, hi⟩

/-! ### Faults of brackets -/

theorem faultAt_of_unmatched {w : Word} {i : Nat} (h : Bracket.Unmatched w i) :
    faultAt length angle draw source w i = some (.unmatched i, turnCount (w.take i)) := by
  obtain ⟨hc, h0⟩ := h
  have hi : i < w.length := (List.getElem?_eq_some_iff.1 hc).1
  rw [faultAt, hc, Option.bind_some]
  simp only [Command.ofSymbol, faultAfter, h0, if_true, List.length_take_of_le hi.le]

/-- The faults there are. -/
theorem faultAt_cases {w : Word} {i n : Nat} {fault : Fault}
    (h : faultAt length angle draw source w i = some (fault, n)) :
    (fault = .unmatched i ∧ n = turnCount (w.take i) ∧ Bracket.Unmatched w i) ∨
    (fault = .turn .infiniteAngle ∧ n = turnCount (w.take i) + 1) ∨
    (fault = .turn .outOfRange ∧ (angle = none ∨ ∃ s, (draw s).1 = none)) ∨
    (fault = .lengthOutOfRange ∧ length = none) := by
  obtain ⟨c, hc, hfault⟩ := Option.bind_eq_some_iff.1 h
  have hi : i < w.length := (List.getElem?_eq_some_iff.1 hc).1
  cases hcommand : Command.ofSymbol c with
  | forward =>
    rw [hcommand] at hfault
    cases length with
    | none =>
      cases hfault
      exact Or.inr (Or.inr (Or.inr ⟨rfl, rfl⟩))
    | some length => cases hfault
  | turn axis backward =>
    rw [hcommand] at hfault
    simp only [faultAfter] at hfault
    split at hfault
    · rename_i angle sample _
      by_cases hinf : Scalar.isInfinite ((if backward then -angle else angle) * sample) = true
      · rw [if_pos hinf] at hfault
        cases hfault
        exact Or.inr (Or.inl ⟨rfl, rfl⟩)
      · rw [if_neg hinf] at hfault
        cases hfault
    · rename_i hsample
      cases hfault
      exact Or.inr (Or.inr (Or.inl ⟨rfl, Or.inr ⟨_, hsample⟩⟩))
    · cases hfault
      exact Or.inr (Or.inr (Or.inl ⟨rfl, Or.inl rfl⟩))
  | save =>
    rw [hcommand] at hfault
    cases hfault
  | restore =>
    obtain rfl : c = ']' := Command.ofSymbol_inj hcommand (by decide)
    rw [hcommand] at hfault
    simp only [faultAfter] at hfault
    split at hfault
    · rename_i h0
      cases hfault
      rw [List.length_take_of_le hi.le]
      exact Or.inl ⟨rfl, rfl, hc, h0⟩
    · cases hfault
  | idle =>
    rw [hcommand] at hfault
    cases hfault

theorem unmatched_of_faultAt {w : Word} {i j n : Nat}
    (h : faultAt length angle draw source w i = some (.unmatched j, n)) :
    Bracket.Unmatched w i ∧ j = i := by
  rcases faultAt_cases h with ⟨hj, -, hbad⟩ | ⟨hj, -⟩ | ⟨hj, -⟩ | ⟨hj, -⟩
  · cases hj
    exact ⟨hbad, rfl⟩
  all_goals cases hj

theorem FirstFault.firstUnmatched {w : Word} {i j n : Nat}
    (h : FirstFault length angle draw source w i (.unmatched j) n) :
    Bracket.FirstUnmatched w i ∧ j = i := by
  obtain ⟨hi, hj⟩ := unmatched_of_faultAt h.1
  refine ⟨⟨hi, fun k hk hbad => ?_⟩, hj⟩
  have hnone := h.2 k hk
  rw [faultAt_of_unmatched hbad] at hnone
  cases hnone

theorem closable_of_no_fault {w : Word} (h : ∀ i, faultAt length angle draw source w i = none) :
    Bracket.Closable w :=
  Bracket.closable_of_matched fun i _ hi => by
    have hfault := h i
    rw [faultAt_of_unmatched hi] at hfault
    cases hfault

end Steps

/-! ### The outcome -/

section Outcome

variable {length angle : Quantity α} {draw : σ → Option α × σ} {source : σ} {w : Word}

theorem interpret_of_not_positive (h : length.positive = false) :
    interpret length angle draw source w = (.error .stepLength, source) := by
  rw [interpret, h]
  rfl

theorem interpret_of_no_fault (positive : length.positive = true)
    (h : ∀ i, faultAt length.value? angle.value? draw source w i = none) :
    ∃ segments, interpret length angle draw source w =
        (.ok segments, drawn draw (turnCount w) source) ∧ segments.length = w.count 'F' := by
  obtain ⟨t, hwalk, hfollows⟩ := walk_of_no_fault h
  refine ⟨t.made.reverse, ?_, ?_⟩
  · rw [interpret, if_pos positive, hwalk, ← hfollows.source]
  · rw [List.length_reverse, hfollows.made]

theorem interpret_of_firstFault (positive : length.positive = true) {i n : Nat} {fault : Fault}
    (h : FirstFault length.value? angle.value? draw source w i fault n) :
    interpret length angle draw source w = (.error fault, drawn draw n source) := by
  rw [interpret, if_pos positive, walk_of_firstFault h]

theorem no_fault_of_interpret {segments : List (Segment α)} {left : σ}
    (h : interpret length angle draw source w = (.ok segments, left)) :
    length.positive = true ∧ ∀ i, faultAt length.value? angle.value? draw source w i = none := by
  have positive : length.positive = true := by
    by_contra hnot
    rw [interpret_of_not_positive (by simpa using hnot)] at h
    cases h
  refine ⟨positive, ?_⟩
  rcases no_fault_or_firstFault length.value? angle.value? draw source w with
    hnone | ⟨i, fault, n, hfirst⟩
  · exact hnone
  · have hrun := interpret_of_firstFault positive hfirst
    rw [h] at hrun
    cases hrun

/-- A step length that is positive is never found at fault. -/
theorem interpret_ne_stepLength (positive : length.positive = true) :
    (interpret length angle draw source w).1 ≠ .error .stepLength := by
  rcases no_fault_or_firstFault length.value? angle.value? draw source w with
    hnone | ⟨i, fault, n, hfirst⟩
  · obtain ⟨segments, hrun, -⟩ := interpret_of_no_fault positive hnone
    rw [hrun]
    nofun
  · rw [interpret_of_firstFault positive hfirst]
    intro hstep
    cases hstep
    rcases faultAt_cases hfirst.1 with ⟨h, -⟩ | ⟨h, -⟩ | ⟨h, -⟩ | ⟨h, -⟩ <;> cases h

/-- The walk over the first symbols of a word makes the first segments. -/
theorem interpret_take {segments : List (Segment α)} {left : σ}
    (h : interpret length angle draw source w = (.ok segments, left)) (k : Nat) :
    ∃ left', interpret length angle draw source (w.take k) =
      (.ok (segments.take ((w.take k).count 'F')), left') := by
  obtain ⟨positive, hnone⟩ := no_fault_of_interpret h
  have hsplit := List.take_append_drop k w
  obtain ⟨t, hwalk, hfollows⟩ := walk_take hnone k
  obtain ⟨last, hlast, -⟩ := walk_of_no_fault hnone
  have hrest := hlast
  rw [← hsplit, walk_append, hwalk] at hrest
  obtain ⟨new, hnew⟩ := walk_made _ _ t hrest
  rw [interpret, if_pos positive, hlast] at h
  obtain ⟨rfl, rfl⟩ : last.made.reverse = segments ∧ last.source = left := by
    simpa using h
  refine ⟨t.source, ?_⟩
  rw [interpret, if_pos positive, hwalk, hnew, List.reverse_append, ← hfollows.made,
    List.take_left' List.length_reverse]

/-- **How a walk ends.** A step length that is not positive is refused before
a sample is drawn. Otherwise the walk ends well if no position is at fault,
with a segment for every step forward and a sample drawn for every turn, and
else it fails as the first position at fault says, whatever follows. Where no
turn and no length is at fault, `Bracket.depth` reports the same unmatched
bracket, and the walk ends well where `depth` has an answer or finds a bracket
unclosed. -/
theorem interpret_outcome (length angle : Quantity α) (draw : σ → Option α × σ) (source : σ)
    (w : Word) :
    (length.positive = false →
      interpret length angle draw source w = (.error .stepLength, source)) ∧
    (length.positive = true →
      ((∀ i, faultAt length.value? angle.value? draw source w i = none) →
        ∃ segments, interpret length angle draw source w =
            (.ok segments, drawn draw (turnCount w) source) ∧
          segments.length = w.count 'F') ∧
      (∀ i fault n, FirstFault length.value? angle.value? draw source w i fault n →
        ∀ rest, interpret length angle draw source (w.take (i + 1) ++ rest) =
          (.error fault, drawn draw n source)) ∧
      ((∀ i fault n, faultAt length.value? angle.value? draw source w i = some (fault, n) →
          fault = .unmatched i) →
        (∀ i, (interpret length angle draw source w).1 = .error (.unmatched i) ↔
          Bracket.depth w = .error (.unmatched i)) ∧
        ((∃ segments, (interpret length angle draw source w).1 = .ok segments) ↔
          (∃ d, Bracket.depth w = .ok d) ∨ ∃ i, Bracket.depth w = .error (.unclosed i)))) := by
  refine ⟨interpret_of_not_positive, fun positive => ⟨interpret_of_no_fault positive,
    fun i fault n h rest => interpret_of_firstFault positive (h.take_append rest),
    fun honly => ?_⟩⟩
  rcases no_fault_or_firstFault length.value? angle.value? draw source w with
    hnone | ⟨j, fault, n, hfirst⟩
  · obtain ⟨segments, hrun, -⟩ := interpret_of_no_fault positive hnone
    have hclosable := closable_of_no_fault hnone
    rw [hrun]
    refine ⟨fun i => ⟨fun h => ?_, fun h => ?_⟩, fun _ => ?_, fun _ => ⟨segments, rfl⟩⟩
    · cases h
    · exact absurd h (Bracket.depth_of_closable hclosable i)
    · exact Bracket.closable_iff_depth.1 hclosable
  · obtain rfl := honly j fault n hfirst.1
    rw [interpret_of_firstFault positive hfirst,
      Bracket.depth_of_firstUnmatched hfirst.firstUnmatched.1]
    refine ⟨fun i => ?_, fun ⟨_, h⟩ => ?_, fun h => ?_⟩
    · simp
    · cases h
    · rcases h with ⟨_, h⟩ | ⟨_, h⟩ <;> cases h

/-- An infinite angle ahead of an unmatched bracket: the walk fails at the
turn, one sample after that of the first turn. -/
example : interpret (.scalar 0.5) (.scalar (1.0 / 0.0 : Float)) (cycle #[.scalar 0.0, .scalar 2.0])
    0 ['F', '/', 'F', '-', ']'] = (.error (.turn .infiniteAngle), 2) := by rfl

end Outcome

end Turtle
end Arbor
