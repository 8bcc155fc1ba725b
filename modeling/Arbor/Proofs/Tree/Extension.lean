/-
# A tree grows by extension

The walk over the first symbols of a word makes the first segments of the walk
over the word, and where it fails the whole walk fails in the same way, with
the same samples drawn. So if the word of a tree begins with that of a younger
one, the older tree begins with the younger one, segment by segment.

The words do so where the start word is the beginning of its own next
generation (`generate_extends`): both trees draw the same base angle before
they walk, and the two walks ask the generator for the same samples, the
longer one only for more of them.

Key definitions: `Options.aged`.
Key theorems: `Turtle.interpret_of_longer`, `Turtle.interpret_error_append`,
`Tree.prepare_aged`, `Tree.generate_extends`.
-/
import Arbor.Proofs.Grammar.Generations
import Arbor.Proofs.Tree.Growth

namespace Arbor

variable {α γ : Type}

/-- The same options with a number of generations. -/
def Options.aged (o : Options α) (n : Nat) : Options α := { o with generations := .whole n }

variable [Scalar α]

/-! ### Walks over longer words -/

namespace Turtle

variable {σ : Type} {draw : σ → Option α × σ} {source left : σ} {u : Word} {fault : Fault}

theorem FirstFault.append {length angle : Option α} {i n : Nat}
    (h : FirstFault length angle draw source u i fault n) (v : Word) :
    FirstFault length angle draw source (u ++ v) i fault n := by
  have hrest := h.take_append (u.drop (i + 1) ++ v)
  rwa [← List.append_assoc, List.take_append_drop] at hrest

variable {length angle : Quantity α}

/-- A walk that ends well began with a walk over the first symbols. -/
theorem interpret_of_longer {w : Word} (hpre : u <+: w) {segments : List (Segment α)}
    (h : interpret length angle draw source w = (.ok segments, left)) :
    ∃ first left', interpret length angle draw source u = (.ok first, left') ∧
      first <+: segments := by
  obtain ⟨left', hrun⟩ := interpret_take h u.length
  rw [← List.prefix_iff_eq_take.1 hpre] at hrun
  exact ⟨_, left', hrun, List.take_prefix _ _⟩

/-- A walk that fails has done so whatever comes after. -/
theorem interpret_error_append
    (h : interpret length angle draw source u = (.error fault, left)) (v : Word) :
    interpret length angle draw source (u ++ v) = (.error fault, left) := by
  by_cases positive : length.positive = true
  · rcases no_fault_or_firstFault length.value? angle.value? draw source u with
      hnone | ⟨i, first, n, hfirst⟩
    · obtain ⟨segments, hrun, -⟩ := interpret_of_no_fault positive hnone
      rw [h] at hrun
      cases hrun
    · rw [interpret_of_firstFault positive hfirst] at h
      rw [interpret_of_firstFault positive (hfirst.append v), h]
  · have hnot : length.positive = false := by simpa using positive
    rw [interpret_of_not_positive hnot] at h ⊢
    exact h

end Turtle

/-! ### Older trees -/

namespace Tree

variable [Generator γ α] {o : Options α}

/-- The number of generations makes no difference to what is refused, and
otherwise only to the word. -/
theorem prepare_aged (worded : Grammar.Worded o.rules) {m : Nat} {word : Word} {jitter : Jitter α}
    (h : prepare (o.aged m) = .ok (word, jitter)) :
    word = Grammar.descend o.rules m o.start ∧
      ∀ n, prepare (o.aged n) = .ok (Grammar.descend o.rules n o.start, jitter) := by
  obtain ⟨hstep, hspread, hjitter, hexpand⟩ := prepare_eq_ok_iff.1 h
  have hwhole := Grammar.expand_whole worded o.start
  have hword : Grammar.expand o.start o.rules (.whole m) = .ok word := hexpand
  rw [hwhole] at hword
  cases hkeys : o.rules.find? fun rule => !Grammar.isSymbol rule.1 with
  | some rule =>
    rw [hkeys] at hword
    cases hword
  | none =>
    rw [hkeys] at hword
    refine ⟨(Except.ok.inj hword).symm, fun n => prepare_eq_ok_iff.2 ⟨hstep, hspread, hjitter, ?_⟩⟩
    refine (hwhole n).trans ?_
    rw [hkeys]

/-- **A tree grows by extension.** Let all replacements be texts, and the start
word the beginning of its own next generation. If a tree of `m` generations
grows without a fault, so does one of fewer generations with the same
generator. It has the same base angle, and its word, its segments and its
leaves are the first ones of the older tree. If the walk of the younger tree
fails, that of the older one fails with the same fault, after the same
draws. -/
theorem generate_extends (worded : Grammar.Worded o.rules)
    (extending : ∃ next, Grammar.derive o.rules o.start = .ok next ∧ o.start <+: next)
    {n m : Nat} (hnm : n ≤ m) (g : γ) :
    (∀ segments (old : Tree α γ), generate (sapling (o.aged m) g) = (.ok segments, old) →
      ∃ first young, generate (sapling (o.aged n) g) = (.ok first, young) ∧ first <+: segments ∧
        young.baseAngle = old.baseAngle ∧ young.word <+: old.word ∧
        young.segments <+: old.segments ∧ young.leaves <+: old.leaves) ∧
    ∀ fault (young : Tree α γ),
      generate (sapling (o.aged n) g) = (.error (.turtle fault), young) →
      ∃ old, generate (sapling (o.aged m) g) = (.error (.turtle fault), old) ∧
        old.baseAngle = young.baseAngle ∧ old.generator = young.generator := by
  have hpre : Grammar.descend o.rules n o.start <+: Grammar.descend o.rules m o.start := by
    obtain ⟨next, hnext, hstart⟩ := extending
    rw [Grammar.derive_worded worded] at hnext
    rw [← Except.ok.inj hnext] at hstart
    exact Grammar.descend_prefix_of_le hstart hnm
  refine ⟨fun segments old h => ?_, fun fault young h => ?_⟩
  · cases growth_of_generate h with
    | @grown word jitter angle g' left last _ picked prepared angled walked decorated =>
      obtain ⟨rfl, hprepare⟩ := prepare_aged worded prepared
      obtain ⟨first, left', hwalk, hfirst⟩ := Turtle.interpret_of_longer hpre walked
      have hyoung : ∃ flowers last', _ ∧ generate (sapling (o.aged n) g) = _ :=
        generate_of_interpret_ok (hprepare n) angled hwalk
      obtain ⟨flowers, last', -, hyoung⟩ := hyoung
      exact ⟨first, _, hyoung, hfirst, rfl, hpre, hfirst, prefix_tips hfirst⟩
  · cases growth_of_generate h with
    | refused prepared =>
      exact absurd rfl ((prepare_ne_inner prepared).1 fault)
    | @stopped word jitter angle g' left _ prepared angled walked =>
      obtain ⟨rfl, hprepare⟩ := prepare_aged worded prepared
      obtain ⟨rest, hrest⟩ := hpre
      have hwalk := Turtle.interpret_error_append walked rest
      rw [hrest] at hwalk
      have hold : generate (sapling (o.aged m) g) = _ :=
        generate_of_interpret_error (hprepare m) angled hwalk
      exact ⟨_, hold, rfl, rfl⟩

/-- A mimosa of two generations, and a tree whose start word closes what it has
not opened. -/
theorem generate_extends_mimosa :
    let mimosa : Options Float := Options.default none
    let broken : Options Float :=
      { mimosa with start := ['F', ']'], rules := [(.text ['F'], .text ['F', ']'])] }
    let twister : Twister := ⟨#[3456789012, 2345678901], 0⟩
    (∃ segments old first young,
      generate (sapling (mimosa.aged 2) twister) = (.ok segments, old) ∧
      generate (sapling (mimosa.aged 1) twister) = (.ok first, young) ∧ first <+: segments ∧
      young.baseAngle = old.baseAngle ∧ young.word <+: old.word) ∧
    ∃ young old,
      generate (sapling (broken.aged 0) twister) = (.error (.turtle (.unmatched 1)), young) ∧
      generate (sapling (broken.aged 1) twister) = (.error (.turtle (.unmatched 1)), old) := by
  intro mimosa broken twister
  refine ⟨?_, ?_⟩
  · have worded : Grammar.Worded mimosa.rules := Grammar.worded_singleton _ _
    have extending : ∃ next, Grammar.derive mimosa.rules mimosa.start = .ok next ∧
        mimosa.start <+: next := ⟨_, rfl, by decide⟩
    have hgrows : (generate (sapling (mimosa.aged 2) twister)).1.isOk = true := by decide +kernel
    obtain ⟨segments, old, hold⟩ := grown_of_isOk hgrows
    obtain ⟨first, young, hyoung, hfirst, hangle, hword, -⟩ :=
      (generate_extends worded extending (by decide : 1 ≤ 2) twister).1 segments old hold
    exact ⟨segments, old, first, young, hold, hyoung, hfirst, hangle, hword⟩
  · have worded : Grammar.Worded broken.rules := Grammar.worded_singleton _ _
    have extending : ∃ next, Grammar.derive broken.rules broken.start = .ok next ∧
        broken.start <+: next := ⟨_, rfl, by decide⟩
    have hfails : generate (sapling (broken.aged 0) twister) =
        (.error (.turtle (.unmatched 1)), _) := rfl
    obtain ⟨old, hold, -⟩ :=
      (generate_extends worded extending (by decide : 0 ≤ 1) twister).2 _ _ hfails
    exact ⟨_, old, hfails, hold⟩

end Tree
end Arbor
