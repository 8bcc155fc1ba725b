/-
# Mirror symmetry

The turtle starts upright, so the mirrors of the two level axes do not change
the turtle at the root. They carry every walk to the walk over the word with
the turns about the other two axes exchanged (`Turtle.carries_mirror`): the
segments of that walk are the mirror images. With the turns about all axes
exchanged a walk is the one with the opposite base angle
(`Turtle.carries_opposite`).

Key theorems: `Turtle.carries_mirror`, `Turtle.carries_opposite`,
`Turtle.interpret_mirrored`.
-/
import Arbor.Proofs.Point.Rotation
import Arbor.Proofs.Turtle.Image

namespace Arbor

namespace Turtle

/-- The mirror of a level axis exchanges the turns about the other axes. -/
theorem carries_mirror {axis : Axis} (upright : axis ≠ .y) {reversed : List Axis}
    (others : ∀ turned, turned ∈ reversed ↔ turned ≠ axis) (length angle : ℝ) :
    Carries axis.mirror axis.mirror reversed length length angle angle where
  origin := axis.mirror_origin
  up := Axis.mirror_up upright
  forward p h := by rw [Axis.mirror_add, Axis.mirror_scale]
  turn turned sample h := by
    have hangle : (if turned ∈ reversed then -angle else angle) * sample =
        if turned = axis then angle * sample else -(angle * sample) := by
      by_cases hturned : turned = axis
      · have hkept : turned ∉ reversed := fun hmem => (others turned).1 hmem hturned
        rw [if_neg hkept, if_pos hturned]
      · rw [if_pos ((others turned).2 hturned), if_neg hturned, neg_mul]
    rw [hangle, Axis.rotate_mirror, Point.unit_mirror]

/-- With all turns exchanged a turtle walks as with the opposite angle. -/
theorem carries_opposite {reversed : List Axis} (all : ∀ axis, axis ∈ reversed)
    (length angle : ℝ) : Carries id id reversed length length (-angle) angle where
  origin := rfl
  up := rfl
  forward _ _ := rfl
  turn axis sample h := by rw [if_pos (all axis), id, id]

theorem outlined_id {α σ : Type} (r : Except Fault (List (Segment α)) × σ) : outlined id r = r := by
  have hmap : Segment.map (id : Point α → Point α) = id := funext Segment.map_id
  rcases r with ⟨fault | segments, left⟩
  · rfl
  · simp only [outlined, Except.map, hmap, List.map_id]

/-- **Mirror symmetry.** If the symbols of turns about the third and the second
axis are exchanged in a word, the walk over it makes the segments of the walk
over the word itself with all their first coordinates negated and the others
the same, and if those of turns about the first and the second axis are, with
all their third coordinates negated. If the symbols of all turns are exchanged,
the walk makes the segments of the walk over the word itself by the opposite
base angle. In each case the walks fail alike if one of them does, and the same
samples are left. -/
theorem interpret_mirrored {σ : Type} (length angle : Quantity ℝ) (draw : σ → Option ℝ × σ)
    (source : σ) (w : Word) :
    interpret length angle draw source (w.map (exchange [.z, .y])) =
      outlined (fun p => ⟨-p.x, p.y, p.z⟩) (interpret length angle draw source w) ∧
    interpret length angle draw source (w.map (exchange [.x, .y])) =
      outlined (fun p => ⟨p.x, p.y, -p.z⟩) (interpret length angle draw source w) ∧
    interpret length angle draw source (w.map (exchange [.x, .y, .z])) =
      interpret length angle.negated draw source w := by
  have hlevel : ∀ turned : Axis, turned ∈ [Axis.z, .y] ↔ turned ≠ .x := by
    intro turned
    cases turned <;> decide
  have hdepth : ∀ turned : Axis, turned ∈ [Axis.x, .y] ↔ turned ≠ .z := by
    intro turned
    cases turned <;> decide
  have hall : ∀ axis : Axis, axis ∈ [Axis.x, .y, .z] := by
    intro axis
    cases axis <;> decide
  refine ⟨?_, ?_, ?_⟩
  · exact interpret_image (carries_mirror (by decide) hlevel _ _) rfl draw source w
  · exact interpret_image (carries_mirror (by decide) hdepth _ _) rfl draw source w
  · have hopposite := carries_opposite hall length.real angle.real
    rw [← Quantity.real_negated] at hopposite
    rw [interpret_image hopposite rfl draw source w, outlined_id]

end Turtle
end Arbor
