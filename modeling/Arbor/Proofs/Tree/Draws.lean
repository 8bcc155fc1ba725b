/-
# What a tree asks its generator for

A growth without a fault asks its generator for one scalar, which gives the
base angle, then for one scalar for every turn, in the order of the word, and
at last for the places of the flowers, one after the other. `requests` lists
this for a word, and a recorder has exactly that list on record: a growth
cannot tell a generator from one that answers alike (`generate_alike`).

The base angle comes first, so it depends on nothing but the generator and the
range it is drawn from (`baseAngle_of_prepared`).

Key definitions: `Tree.requests`, `Tree.drawing`, `Tree.walkTo`, `Tree.InOrder`.
Key theorems: `Tree.generate_alike`, `Tree.inOrder_of_growth`,
`Tree.generate_recorded`, `Tree.baseAngle_of_prepared`, `Tree.generate_draws`.
-/
import Arbor.Proofs.Tree.Growth
import Arbor.Proofs.Turtle.Source

namespace Arbor

variable {α γ δ : Type} [Generator γ α] [Generator δ α]

namespace Generator

theorem after_replicate_unit (n : Nat) (g : γ) : after (List.replicate n .unit) g = skip n g := by
  induction n generalizing g with
  | zero => rfl
  | succ n ih =>
    rw [List.replicate_succ, after_cons, ih]
    rfl

theorem serve_skip (n : Nat) (g : γ) : serve (skip n g) .unit = skip (n + 1) g :=
  (Function.iterate_succ_apply' (fun g : γ => (Generator.unit g).2) n g).symm

end Generator

namespace Tree

/-- What the growth of a word asks the generator for. -/
def requests (w : Word) : List Request :=
  .unit :: (List.replicate (Turtle.turnCount w) .unit ++
    List.replicate ((w.count 'F' + 1) / 2) (.below (2 * w.count 'F')))

/-- No place is asked for where there is none. -/
theorem below_zero_notMem_requests (w : Word) : Request.below 0 ∉ requests w := by
  intro h
  rcases List.mem_cons.1 h with h | h
  · cases h
  rcases List.mem_append.1 h with h | h
  · cases List.eq_of_mem_replicate h
  · obtain ⟨hsome, hzero⟩ := List.mem_replicate.1 h
    have hnone : 0 = 2 * w.count 'F' := Request.below.inj hzero
    omega

theorem after_requests (w : Word) (g : γ) :
    Generator.after (requests w) g =
      Generator.after (List.replicate ((w.count 'F' + 1) / 2) (.below (2 * w.count 'F')))
        (Generator.skip (Turtle.turnCount w + 1) g) := by
  unfold requests
  rw [Generator.after_cons, Generator.after_append, Generator.after_replicate_unit]
  rfl

end Tree

variable [Scalar α]

/-- In a walk without a fault every sample takes one request. -/
theorem drawn_uniform {length angle : Option α} {low high : Quantity α} {g : γ} {m : Nat} {u : Word}
    (h : ∀ i, Turtle.faultAt length angle (Generator.uniform low high) (Generator.skip m g) u i =
      none) :
    Turtle.drawn (Generator.uniform low high) (Turtle.turnCount u) (Generator.skip m g) =
      Generator.skip (Turtle.turnCount u + m) g := by
  calc Turtle.drawn (Generator.uniform low high) (Turtle.turnCount u) (Generator.skip m g)
      = Generator.skip (Turtle.turnCount u) (Generator.skip m g) :=
        Turtle.drawn_of_no_fault h fun _ _ _ => Generator.uniform_eq_some
    _ = Generator.skip (Turtle.turnCount u + m) g := Generator.skip_skip m _ g

theorem Jitter.eq_of_ofRange {low high : Quantity α} {jitter : Jitter α}
    (h : ofRange low high = .ok jitter) : jitter = ⟨low, high⟩ := by
  unfold ofRange at h
  split at h
  · exact (Except.ok.inj h).symm
  · cases h

namespace Tree

/-! ### Generators that answer alike -/

/-- The same tree with another generator. -/
def drawing (tree : Tree α γ) (g : δ) : Tree α δ :=
  ⟨tree.options, g, tree.word, tree.baseAngle, tree.segments, tree.leaves, tree.flowers⟩

/-- A growth cannot tell a generator from one that answers alike. -/
theorem generate_alike {φ : γ → δ} (alike : Generator.Alike φ) {tree next : Tree α γ}
    {outcome : Except (Fault α) (List (Segment α))} (h : generate tree = (outcome, next)) :
    generate (tree.drawing (φ tree.generator)) = (outcome, next.drawing (φ next.generator)) := by
  have hangle := alike.baseAngle tree.options.angleCenter tree.options.angleSpread tree.generator
  cases growth_of_generate h with
  | refused prepared => exact generate_of_refused prepared
  | angleless prepared angled =>
    rw [angled] at hangle
    exact generate_of_no_angle prepared hangle
  | @stopped word jitter angle g left fault prepared angled walked =>
    rw [angled] at hangle
    have hwalk := Turtle.interpret_mapSource (alike.draw jitter) tree.options.stepLength
      (.scalar angle) g word
    rw [walked] at hwalk
    exact generate_of_interpret_error prepared hangle hwalk
  | @grown word jitter angle g left last segments picked prepared angled walked decorated =>
    rw [angled] at hangle
    have hwalk := Turtle.interpret_mapSource (alike.draw jitter) tree.options.stepLength
      (.scalar angle) g word
    rw [walked] at hwalk
    have hflowers := flowers_alike alike segments none left
    rw [decorated] at hflowers
    exact generate_of_flowers prepared hangle hwalk hflowers

/-! ### The order of the draws -/

/-- The walk of a growth up to a position of the word. -/
def walkTo (tree grown : Tree α γ) (i : Nat) : Except (Turtle.Fault × γ) (Turtle α γ) :=
  Turtle.walk tree.options.stepLength.value? (some grown.baseAngle)
    (Generator.uniform tree.options.jitterLow tree.options.jitterHigh) 0
    (Turtle.atRoot (Generator.skip 1 tree.generator)) (grown.word.take i)

/-- The draws of a growth, in order: the base angle, a sample for every turn,
the places of the flowers. -/
structure InOrder (tree grown : Tree α γ) (segments : List (Segment α)) : Prop where
  /-- The word is the one that the grammar gives. -/
  word : Grammar.expand tree.options.start tree.options.rules tree.options.generations =
    .ok grown.word
  /-- The first scalar drawn gives the base angle. -/
  angle : ∃ middle offset, tree.options.angleCenter.value? = some middle ∧
    Generator.uniform tree.options.angleSpread.negated tree.options.angleSpread tree.generator =
      (some offset, Generator.skip 1 tree.generator) ∧
    grown.baseAngle = Scalar.radians (middle + offset)
  /-- At every position one more scalar has been drawn for every turn before
  it, and a turn is by the base angle times the next one. -/
  turns : ∀ i, ∃ t, walkTo tree grown i = .ok t ∧
    t.source = Generator.skip (Turtle.turnCount (grown.word.take i) + 1) tree.generator ∧
    ∀ axis backward, grown.word[i]?.map Command.ofSymbol = some (.turn axis backward) →
      ∃ sample left,
        Generator.uniform tree.options.jitterLow tree.options.jitterHigh t.source =
          (some sample, left) ∧
        left = Generator.skip (Turtle.turnCount (grown.word.take i) + 2) tree.generator ∧
        walkTo tree grown (i + 1) = .ok
          (t.turned axis ((if backward then -grown.baseAngle else grown.baseAngle) * sample) left)
  /-- The segments are those of this walk. -/
  walked : Turtle.interpret tree.options.stepLength (.scalar grown.baseAngle)
      (Generator.uniform tree.options.jitterLow tree.options.jitterHigh)
      (Generator.skip 1 tree.generator) grown.word =
    (.ok segments, Generator.skip (Turtle.turnCount grown.word + 1) tree.generator)
  /-- There is a flower for every two steps forward, rounded up. -/
  flower_count : grown.flowers.length = (grown.word.count 'F' + 1) / 2
  /-- The flowers are at the places drawn after all samples. -/
  flowers : Blooms (endpoints segments)
    (Generator.skip (Turtle.turnCount grown.word + 1) tree.generator) grown.flowers
  /-- Nothing else is drawn. -/
  left : grown.generator = Generator.after (requests grown.word) tree.generator

theorem inOrder_of_growth {tree grown : Tree α γ} {segments : List (Segment α)}
    (h : generate tree = (.ok segments, grown)) : InOrder tree grown segments := by
  cases growth_of_generate h with
  | @grown word jitter angle g left last _ picked prepared angled walked decorated =>
    obtain ⟨-, -, hjitter, hexpand⟩ := prepare_eq_ok_iff.1 prepared
    obtain rfl := Jitter.eq_of_ofRange hjitter
    obtain ⟨middle, offset, hmiddle, hoffset, hangle⟩ := Generator.baseAngle_eq_some angled
    obtain rfl : g = Generator.skip 1 tree.generator := Generator.uniform_eq_some hoffset
    obtain ⟨positive, hnone⟩ := Turtle.no_fault_of_interpret walked
    obtain ⟨made, hmade, hcount⟩ := Turtle.interpret_of_no_fault positive hnone
    rw [walked] at hmade
    obtain ⟨rfl, hleft⟩ : segments = made ∧ left = _ := by simpa using hmade
    obtain rfl : left = Generator.skip (Turtle.turnCount word + 1) tree.generator :=
      hleft.trans (drawn_uniform hnone)
    obtain ⟨flowers, hflowers, hlen, hblooms⟩ := flowers_spec segments
      (Generator.skip (Turtle.turnCount word + 1) tree.generator)
    rw [decorated] at hflowers
    obtain ⟨rfl, rfl⟩ : picked = flowers ∧ last = _ := by simpa using hflowers
    rw [hcount] at hlen
    refine ⟨hexpand, ⟨middle, offset, hmiddle, hoffset, hangle⟩, fun i => ?_, walked, hlen,
      hblooms, ?_⟩
    · obtain ⟨t, ht, hfollows⟩ := Turtle.walk_take hnone i
      have hsource := hfollows.source.trans
        (drawn_uniform (Turtle.no_fault_take fun j (_ : j < i) => hnone j))
      refine ⟨t, ht, hsource, fun axis backward hturn => ?_⟩
      obtain ⟨base, sample, after, hbase, hdraw, hnext⟩ := Turtle.walk_turn hnone hturn ht
      obtain rfl : angle = base := Option.some.inj hbase
      refine ⟨sample, after, hdraw, ?_, hnext⟩
      rw [Generator.uniform_eq_some hdraw, hsource]
      exact Generator.serve_skip _ _
    · rw [after_requests, hcount]

/-- A recorder has the requests on record that the word calls for. -/
theorem generate_recorded {tree grown : Tree α γ} {segments : List (Segment α)}
    (h : generate tree = (.ok segments, grown)) :
    generate (tree.drawing (⟨tree.generator, []⟩ : Recorder γ)) =
      (.ok segments, grown.drawing (⟨grown.generator, requests grown.word⟩ : Recorder γ)) := by
  rcases hrecorded : generate (tree.drawing (⟨tree.generator, []⟩ : Recorder γ)) with
    ⟨outcome, next⟩
  have hback : generate tree = (outcome, next.drawing next.generator.generator) :=
    generate_alike Generator.alike_recorder hrecorded
  rw [h] at hback
  cases hback
  have hasked : next.generator.asked = requests next.word := by
    rw [(inOrder_of_growth hrecorded).left,
      Generator.asked_after _ _ (below_zero_notMem_requests next.word)]
    rfl
  show _ = (_, next.drawing (⟨next.generator.generator, requests next.word⟩ : Recorder γ))
  rw [← hasked]
  rfl

/-! ### The base angle -/

/-- If the options are good, what a growth does to the base angle depends on
the generator and on the range of the angle only. -/
theorem baseAngle_of_prepared {tree : Tree α γ} {prepared : Word × Jitter α}
    (h : prepare tree.options = .ok prepared) :
    ((generate tree).1 = .error .angleOutOfRange ↔
      (Arbor.baseAngle tree.options.angleCenter tree.options.angleSpread tree.generator).1 =
        none) ∧
    ∀ angle,
      (Arbor.baseAngle tree.options.angleCenter tree.options.angleSpread tree.generator).1 =
        some angle → (generate tree).2.baseAngle = angle := by
  rcases hgrowth : generate tree with ⟨outcome, next⟩
  cases growth_of_generate hgrowth with
  | refused refused =>
    rw [h] at refused
    cases refused
  | angleless _ angled =>
    rw [angled]
    exact ⟨⟨fun _ => rfl, fun _ => rfl⟩, nofun⟩
  | stopped _ angled walked =>
    rw [angled]
    exact ⟨⟨nofun, nofun⟩, fun _ => Option.some.inj⟩
  | grown _ angled walked decorated =>
    rw [angled]
    exact ⟨⟨nofun, nofun⟩, fun _ => Option.some.inj⟩

/-- **What a tree asks its generator for.** A growth without a fault makes its
draws in this order, and a recorder has them on record and nothing else: a
scalar for the base angle, a scalar for every turn, the places of the flowers.
So two trees with equal generators and equal ranges of the base angle, the
options of both being good, either both find the range beyond all scalars or
both get the same base angle, however the growths go on. -/
theorem generate_draws :
    (∀ (tree grown : Tree α γ) (segments : List (Segment α)),
      generate tree = (.ok segments, grown) →
        InOrder tree grown segments ∧
        generate (tree.drawing (⟨tree.generator, []⟩ : Recorder γ)) =
          (.ok segments, grown.drawing (⟨grown.generator, requests grown.word⟩ : Recorder γ))) ∧
    ∀ first second : Tree α γ, first.generator = second.generator →
      first.options.angleCenter = second.options.angleCenter →
      first.options.angleSpread = second.options.angleSpread →
      (∃ prepared, prepare first.options = .ok prepared) →
      (∃ prepared, prepare second.options = .ok prepared) →
        ((generate first).1 = .error .angleOutOfRange ↔
          (generate second).1 = .error .angleOutOfRange) ∧
        ((generate first).1 ≠ .error .angleOutOfRange →
          (generate first).2.baseAngle = (generate second).2.baseAngle) := by
  refine ⟨fun tree grown segments h => ⟨inOrder_of_growth h, generate_recorded h⟩, ?_⟩
  intro first second hgenerator hcenter hspread ⟨_, hfirst⟩ ⟨_, hsecond⟩
  obtain ⟨hnone, hsome⟩ := baseAngle_of_prepared hfirst
  obtain ⟨hnone', hsome'⟩ := baseAngle_of_prepared hsecond
  rw [← hgenerator, ← hcenter, ← hspread] at hnone' hsome'
  refine ⟨hnone.trans hnone'.symm, fun hangle => ?_⟩
  obtain ⟨angle, hdrawn⟩ := Option.ne_none_iff_exists'.1 fun h => hangle (hnone.2 h)
  rw [hsome angle hdrawn, hsome' angle hdrawn]

/-- A tree with two branches, and one with other options that grows to the same
base angle and then fails. -/
theorem generate_draws_fork :
    let fork : Options Float :=
      { Options.default none with
        start := ['F', '[', '+', 'F', ']', '-', 'F'], generations := .whole 0 }
    let broken : Options Float :=
      { fork with start := ['^', 'F', ']'], stepLength := .scalar 2.0, jitterLow := .scalar 0.9 }
    let twister : Twister := ⟨#[3456789012, 2345678901], 0⟩
    (∃ segments grown, generate (sapling fork twister) = (.ok segments, grown) ∧
      grown.flowers.length = 2 ∧
      generate (sapling fork (⟨twister, []⟩ : Recorder Twister)) =
        (.ok segments, grown.drawing (⟨grown.generator,
          [.unit, .unit, .unit, .below 6, .below 6]⟩ : Recorder Twister))) ∧
    (generate (sapling broken twister)).1.isOk = false ∧
    (generate (sapling fork twister)).2.baseAngle =
      (generate (sapling broken twister)).2.baseAngle := by
  intro fork broken twister
  have hgrows : (generate (sapling fork twister)).1.isOk = true := by decide +kernel
  have hfails : (generate (sapling broken twister)).1.isOk = false := by decide +kernel
  refine ⟨?_, hfails, ?_⟩
  · obtain ⟨segments, grown, hfork⟩ := grown_of_isOk hgrows
    obtain ⟨order, hrecorded⟩ := generate_draws.1 (sapling fork twister) grown segments hfork
    have hexpand : Grammar.expand fork.start fork.rules fork.generations = .ok fork.start := rfl
    have hword : fork.start = grown.word := Except.ok.inj (hexpand.symm.trans order.word)
    have hcount : fork.start.count 'F' = 3 := rfl
    have hturns : Turtle.turnCount fork.start = 2 := rfl
    have hrequests : requests fork.start = [.unit, .unit, .unit, .below 6, .below 6] := by
      unfold requests
      rw [hcount, hturns]
      rfl
    refine ⟨segments, grown, hfork, ?_, ?_⟩
    · rw [order.flower_count, ← hword, hcount]
    · rw [← hword, hrequests] at hrecorded
      exact hrecorded
  · have hangle : (generate (sapling fork twister)).1 ≠ .error .angleOutOfRange := by
      intro h
      rw [h] at hgrows
      cases hgrows
    exact (generate_draws.2 (sapling fork twister) (sapling broken twister) rfl rfl rfl
      ⟨_, rfl⟩ ⟨_, rfl⟩).2 hangle

end Tree
end Arbor
