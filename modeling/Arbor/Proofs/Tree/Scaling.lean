/-
# Longer steps scale the tree

Over the real numbers the length of a step enters the places of the turtle and
nothing else: not its headings, and not what it draws. So a walk with steps `k`
times as long makes the segments of the one with the shorter steps, scaled by
`k` from the origin (`Turtle.interpret_scaled`), and it fails where that one
fails. A tree asks its generator for places of flowers by the number of the
segments only, so it picks the scaled points at the same places
(`flowers_map`). All else that a growth does before the walk looks at no more
than whether a step is longer than zero (`Tree.prepare_stepping`).

Key definitions: `Options.stepping`, `Tree.scaled`.
Key theorems: `Turtle.interpret_scaled`, `flowers_map`, `Tree.prepare_stepping`,
`Tree.generate_of_scaled`, `Tree.generate_scaled`.
-/
import Arbor.Proofs.Chance.Exact
import Arbor.Proofs.Tree.Draws
import Arbor.Proofs.Tree.Mimosa
import Arbor.Proofs.Turtle.Image

namespace Arbor

theorem Quantity.positive_of_scaled {k : ℝ} (hk : 0 < k) {q q' : Quantity ℝ}
    (h : q'.real = k * q.real) : q'.positive = q.positive := by
  rw [Bool.eq_iff_iff, positive_iff_real, positive_iff_real, h]
  exact mul_pos_iff_of_pos_left hk

/-! ### Walks -/

namespace Turtle

theorem carries_scale (k length angle : ℝ) :
    Carries (Point.scale k) id [] length (k * length) angle angle where
  origin := by
    simp only [Point.scale, Point.origin]
    norm_num
  up := rfl
  forward p h := by
    show (⟨k * (p.x + length * h.x), k * (p.y + length * h.y), k * (p.z + length * h.z)⟩ :
      Point ℝ) = ⟨k * p.x + k * length * h.x, k * p.y + k * length * h.y,
        k * p.z + k * length * h.z⟩
    simp only [mul_add, mul_assoc]
  turn axis sample h := by rw [if_neg List.not_mem_nil, id, id]

theorem interpret_scaled {σ : Type} {k : ℝ} (hk : 0 < k) {length length' : Quantity ℝ}
    (hlength : length'.real = k * length.real) (angle : Quantity ℝ) (draw : σ → Option ℝ × σ)
    (source : σ) (w : Word) :
    interpret length' angle draw source w =
      outlined (Point.scale k) (interpret length angle draw source w) := by
  have carries := carries_scale k length.real angle.real
  rw [← hlength] at carries
  have himage := interpret_image carries (Quantity.positive_of_scaled hk hlength) draw source w
  rwa [show exchange [] = id from funext exchange_nil, List.map_id] at himage

end Turtle

/-! ### Leaves and flowers -/

section Decoration

variable {α γ : Type} (place : Point α → Point α)

theorem endpoints_map (segments : List (Segment α)) :
    endpoints (segments.map (Segment.map place)) = (endpoints segments).map place := by
  induction segments with
  | nil => rfl
  | cons s rest ih =>
    rw [List.map_cons, endpoints_cons, endpoints_cons, ih]
    rfl

theorem tips_map (segments : List (Segment α)) :
    tips (segments.map (Segment.map place)) = (tips segments).map place := by
  rw [tips_eq_map, tips_eq_map, List.map_map, List.map_map]
  rfl

variable [Generator γ α]

theorem Blooms.map {points picked : List (Point α)} {g : γ} (h : Blooms points g picked) :
    Blooms (points.map place) g (picked.map place) := by
  intro j hj
  rw [List.length_map] at hj
  rw [List.getElem?_map, List.getElem?_map, List.length_map, h j hj]

/-- There is one way to pick a number of points. -/
theorem Blooms.eq_of_length {points picked picked' : List (Point α)} {g : γ}
    (h : Blooms points g picked) (h' : Blooms points g picked')
    (hlength : picked.length = picked'.length) : picked = picked' := by
  refine List.ext_getElem? fun j => ?_
  rcases Nat.lt_or_ge j picked.length with hj | hj
  · rw [h j hj, h' j (hlength ▸ hj)]
  · rw [List.getElem?_eq_none hj, List.getElem?_eq_none (hlength ▸ hj)]

/-- The flowers at the images of the points are picked at the same places. -/
theorem flowers_map {segments : List (Segment α)} {g last : γ} {picked : List (Point α)}
    (h : flowers segments none g = (.ok picked, last)) :
    flowers (segments.map (Segment.map place)) none g = (.ok (picked.map place), last) := by
  obtain ⟨found, hfound, hcount, hblooms⟩ := flowers_spec segments g
  obtain ⟨found', hfound', hcount', hblooms'⟩ := flowers_spec (segments.map (Segment.map place)) g
  obtain ⟨rfl, hlast⟩ : picked = found ∧ last = _ := by simpa using h.symm.trans hfound
  rw [List.length_map] at hfound' hcount'
  rw [endpoints_map] at hblooms'
  have hsame : found' = picked.map place :=
    hblooms'.eq_of_length (hblooms.map place) (by rw [hcount', List.length_map, hcount])
  rw [hfound', hsame, hlast]

end Decoration

/-! ### Growths -/

/-- These options with another length of a step. -/
def Options.stepping {α : Type} (o : Options α) (length : Quantity α) : Options α :=
  { o with stepLength := length }

namespace Tree

/-- Before anything is drawn, the length of a step only has to be positive. -/
theorem prepare_stepping {α : Type} [Scalar α] {o : Options α} {length : Quantity α}
    (positive : length.positive = o.stepLength.positive) :
    prepare (o.stepping length) = prepare o := by
  unfold prepare Options.stepping
  rw [positive]

variable {γ : Type}

/-- A tree scaled from the origin, with another length of a step. -/
noncomputable def scaled (k : ℝ) (length : Quantity ℝ) (tree : Tree ℝ γ) : Tree ℝ γ :=
  { tree with
    options := tree.options.stepping length
    segments := tree.segments.map (Segment.map (Point.scale k))
    leaves := tree.leaves.map (Point.scale k)
    flowers := tree.flowers.map (Point.scale k) }

variable [Generator γ ℝ]

/-- A growth commutes with scaling. -/
theorem generate_of_scaled {k : ℝ} (hk : 0 < k) {length : Quantity ℝ} {tree next : Tree ℝ γ}
    (hlength : length.real = k * tree.options.stepLength.real)
    {outcome : Except (Fault ℝ) (List (Segment ℝ))} (h : generate tree = (outcome, next)) :
    generate (tree.scaled k length) =
      (outcome.map (List.map (Segment.map (Point.scale k))), next.scaled k length) := by
  have hprepare : prepare (tree.scaled k length).options = prepare tree.options :=
    prepare_stepping (Quantity.positive_of_scaled hk hlength)
  have hwalk := fun (jitter : Jitter ℝ) angle (g : γ) =>
    Turtle.interpret_scaled hk hlength (.scalar angle) jitter.draw g
  cases growth_of_generate h with
  | refused prepared => exact generate_of_refused (hprepare.trans prepared)
  | angleless prepared angled => exact generate_of_no_angle (hprepare.trans prepared) angled
  | @stopped word jitter angle g left fault prepared angled walked =>
    have hlong := hwalk jitter angle g word
    rw [walked] at hlong
    exact generate_of_interpret_error (hprepare.trans prepared) angled hlong
  | @grown word jitter angle g left last segments picked prepared angled walked decorated =>
    have hlong := hwalk jitter angle g word
    rw [walked] at hlong
    have hgrown : generate (tree.scaled k length) = _ :=
      generate_of_flowers (hprepare.trans prepared) angled hlong
        (flowers_map (Point.scale k) decorated)
    rw [tips_map] at hgrown
    exact hgrown

/-- **Longer steps scale the tree.** Take two new trees with the same generator
whose options differ in the length of a step only, which is `k` times as long
in the second one. Either both growths fail, with the same fault, or neither
does. The words, the base angles and the generators are the same afterwards,
and the segments, the leaves and the flowers of the second tree are those of
the first one times `k`. The generator has given both trees the same places of
flowers among the end points of their segments. -/
theorem generate_scaled {o : Options ℝ} {length : Quantity ℝ} {k : ℝ} (hk : 0 < k)
    (hlength : length.real = k * o.stepLength.real) (g : γ) :
    let short := generate (sapling o g)
    let long := generate (sapling (o.stepping length) g)
    long.1 = short.1.map (List.map (Segment.map (Point.scale k))) ∧
    long.2.word = short.2.word ∧ long.2.baseAngle = short.2.baseAngle ∧
    long.2.generator = short.2.generator ∧
    long.2.segments = short.2.segments.map (Segment.map (Point.scale k)) ∧
    long.2.leaves = short.2.leaves.map (Point.scale k) ∧
    long.2.flowers = short.2.flowers.map (Point.scale k) ∧
    (short.1.isOk = true → ∀ j < short.2.flowers.length,
      let points := 2 * short.2.segments.length
      let place := Generator.pick points (Generator.after (List.replicate j (.below points))
        (Generator.skip (Turtle.turnCount short.2.word + 1) g))
      short.2.flowers[j]? = (endpoints short.2.segments)[place]? ∧
      long.2.flowers[j]? = (endpoints long.2.segments)[place]?) := by
  intro short long
  have hstep : length.real = k * (sapling o g : Tree ℝ γ).options.stepLength.real := hlength
  have hlong : long = (short.1.map (List.map (Segment.map (Point.scale k))),
      short.2.scaled k length) :=
    generate_of_scaled hk hstep (rfl : generate (sapling o g) = (short.1, short.2))
  rw [hlong]
  refine ⟨rfl, rfl, rfl, rfl, rfl, rfl, rfl, fun hok j hj => ?_⟩
  obtain ⟨segments, grown, hgrown⟩ := grown_of_isOk hok
  have hshort : short = (.ok segments, grown) := hgrown
  have hblooms := (inOrder_of_growth hgrown).flowers
  obtain rfl : segments = grown.segments := by
    cases growth_of_generate hgrown
    rfl
  rw [hshort] at hj ⊢
  have hplace := hblooms j hj
  rw [length_endpoints] at hplace
  refine ⟨hplace, ?_⟩
  show (grown.flowers.map (Point.scale k))[j]? =
    (endpoints (grown.segments.map (Segment.map (Point.scale k))))[_]?
  rw [endpoints_map, List.getElem?_map, List.getElem?_map]
  exact congrArg (Option.map (Point.scale k)) hplace

/-- A branch with a twig, with steps twice as long. -/
theorem generate_scaled_twig :
    let twig : Options ℝ :=
      { Options.default (some 7) with start := ['F', '[', '+', 'F', ']'], generations := .whole 0 }
    let short := generate (plant twig 0 : Tree ℝ ExactTwister)
    let long := generate (plant (twig.stepping (.whole 1)) 0 : Tree ℝ ExactTwister)
    short.1.isOk = true ∧ long.1.isOk = true ∧ long.2.generator = short.2.generator ∧
    long.2.segments = short.2.segments.map (Segment.map (Point.scale 2)) ∧
    long.2.flowers = short.2.flowers.map (Point.scale 2) := by
  intro twig short long
  let g : ExactTwister := Generator.seeded 7
  have hlength : (Quantity.whole 1).real = 2 * twig.stepLength.real := by
    show ((1 : ℤ) : ℝ) = 2 * 0.5
    norm_num
  obtain ⟨houtcome, -, -, hgenerator, hsegments, -, hflowers, -⟩ :=
    generate_scaled (two_pos : (0 : ℝ) < 2) hlength g
  have hlong : long.1 = short.1.map (List.map (Segment.map (Point.scale 2))) := houtcome
  have measured : twig.Measured 0.5 45.0 15.0 0.7 1.3 := ⟨rfl, rfl, rfl, rfl, rfl⟩
  have hprepare : prepare twig = .ok (twig.start, ⟨.scalar 0.7, .scalar 1.3⟩) := by
    rw [prepare_measured measured, if_neg (by norm_num), if_neg (by norm_num),
      if_neg (by norm_num)]
    rfl
  -- over the real numbers only a bracket could be at fault
  have hnone : ∀ i, Turtle.faultAt (some 0.5) (some (angleDrawn 45.0 15.0 g))
      (Jitter.draw ⟨.scalar 0.7, .scalar 1.3⟩) (Generator.skip 1 g) twig.start i = none :=
    Turtle.no_fault_of_closable (by decide) (fun _ _ => ⟨_, rfl, rfl⟩) (Generator.skip 1 g)
  obtain ⟨segments, hrun⟩ := interpret_measured_of_no_fault (by norm_num) hnone
  have hgrown : ∃ picked last, _ ∧ short = _ :=
    generate_of_interpret_ok hprepare (baseAngle_measured measured g) hrun
  obtain ⟨picked, last, -, hshort⟩ := hgrown
  have hok : short.1 = .ok segments := congrArg Prod.fst hshort
  rw [hok] at hlong
  refine ⟨?_, ?_, hgenerator, hsegments, hflowers⟩
  · rw [hok]
    rfl
  · rw [hlong]
    rfl

end Tree
end Arbor
