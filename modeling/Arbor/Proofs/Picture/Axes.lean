/-
# The axes hold all that is drawn

The axes of a picture are set from the vase and the segments alone. Over the
real numbers that is enough in every state a tree can reach: leaves and
flowers sit at end points of segments, and the outline of the vase keeps to
its box. The limits are the least and the greatest coordinates along each
axis, and since the box of the vase is at least two wide in every direction,
no axis is ever too short to be drawn to scale.

Key definitions: `Point.along`, `Point.Inside`, `Picture.plotted`.
Key theorems: `isLeast_foldl_min`, `Picture.isLeast_box`,
`Picture.isGreatest_box`, `Picture.inside_outline`, `Picture.picture_real`,
`picture_of_acts`.
-/
import Mathlib
import Arbor.Picture
import Arbor.Proofs.Scalar.Real
import Arbor.Proofs.Tree.History

namespace Arbor

/-! ### The ends of a list -/

section Ends

variable {α : Type} [LinearOrder α]

theorem isLeast_foldl_min (a : α) (l : List α) : IsLeast {x | x ∈ a :: l} (l.foldl min a) := by
  induction l generalizing a with
  | nil => simp
  | cons b l ih =>
    obtain ⟨hmem, hle⟩ := ih (min a b)
    have hmin : l.foldl min (min a b) ≤ min a b := hle List.mem_cons_self
    constructor
    · show l.foldl min (min a b) ∈ a :: b :: l
      rcases List.mem_cons.1 hmem with heq | hl
      · rw [heq]
        rcases min_choice a b with hchoice | hchoice
        · simp [hchoice]
        · simp [hchoice]
      · exact List.mem_cons_of_mem a (List.mem_cons_of_mem b hl)
    · intro x hx
      show l.foldl min (min a b) ≤ x
      rcases List.mem_cons.1 hx with rfl | hx
      · exact hmin.trans (min_le_left x b)
      rcases List.mem_cons.1 hx with rfl | hx
      · exact hmin.trans (min_le_right a x)
      · exact hle (List.mem_cons_of_mem (min a b) hx)

theorem isGreatest_foldl_max (a : α) (l : List α) :
    IsGreatest {x | x ∈ a :: l} (l.foldl max a) :=
  @isLeast_foldl_min αᵒᵈ _ a l

end Ends

/-! ### Coordinates -/

namespace Point

/-- The coordinate along an axis. -/
def along {α : Type} (axis : Axis) (p : Point α) : α :=
  match axis with
  | .x => p.x
  | .y => p.y
  | .z => p.z

/-- Between the corners of a box along every axis. -/
def Inside (box : Point ℝ × Point ℝ) (p : Point ℝ) : Prop :=
  ∀ axis : Axis, along axis box.1 ≤ along axis p ∧ along axis p ≤ along axis box.2

variable (axis : Axis)

theorem along_least (p q : Point ℝ) :
    along axis (p.least q) = min (along axis p) (along axis q) := by
  cases axis <;> exact Scalar.least_real _ _

theorem along_greatest (p q : Point ℝ) :
    along axis (p.greatest q) = max (along axis p) (along axis q) := by
  cases axis <;> exact Scalar.greatest_real _ _

theorem along_foldl_least (p : Point ℝ) (ps : List (Point ℝ)) :
    along axis (ps.foldl least p) = (ps.map (along axis)).foldl min (along axis p) := by
  induction ps generalizing p with
  | nil => rfl
  | cons q ps ih => rw [List.foldl_cons, ih, along_least, List.map_cons, List.foldl_cons]

theorem along_foldl_greatest (p : Point ℝ) (ps : List (Point ℝ)) :
    along axis (ps.foldl greatest p) = (ps.map (along axis)).foldl max (along axis p) := by
  induction ps generalizing p with
  | nil => rfl
  | cons q ps ih => rw [List.foldl_cons, ih, along_greatest, List.map_cons, List.foldl_cons]

theorem image_along (p : Point ℝ) (ps : List (Point ℝ)) :
    along axis '' {q | q ∈ p :: ps} = {x | x ∈ along axis p :: ps.map (along axis)} := by
  ext x
  simp only [← List.map_cons, Set.mem_image, Set.mem_ofPred_eq, List.mem_map]

/-- The corners of the box around points have their least and their greatest
coordinates. -/
theorem isLeast_corners (p : Point ℝ) (ps : List (Point ℝ)) :
    IsLeast (along axis '' {q | q ∈ p :: ps}) (along axis (corners p ps).1) := by
  rw [image_along, corners, along_foldl_least]
  exact isLeast_foldl_min _ _

theorem isGreatest_corners (p : Point ℝ) (ps : List (Point ℝ)) :
    IsGreatest (along axis '' {q | q ∈ p :: ps}) (along axis (corners p ps).2) := by
  rw [image_along, corners, along_foldl_greatest]
  exact isGreatest_foldl_max _ _

end Point

/-- The axis of a tree that an axis of its picture shows. -/
def Axis.shown : Axis → Axis
  | .x => .x
  | .y => .z
  | .z => .y

namespace Picture

/-! ### The box -/

/-- The corners of the box of the vase and all end points of segments. -/
def plotted (segments : List (Segment ℝ)) : Set (Point ℝ) :=
  {vaseBox.1, vaseBox.2} ∪ {p | p ∈ endpoints segments}

theorem vaseBox_real :
    (vaseBox : Point ℝ × Point ℝ) = (⟨-1.2, -2, -1.2⟩, ⟨1.2, 0, 1.2⟩) := by
  have hfloor : (-1.0 - 2.0 / 2.0 : ℝ) = -2 := by norm_num
  have hrim : (-1.0 + 2.0 / 2.0 : ℝ) = 0 := by norm_num
  show ((⟨-1.2, -1.0 - 2.0 / 2.0, -1.2⟩ : Point ℝ), (⟨1.2, -1.0 + 2.0 / 2.0, 1.2⟩ : Point ℝ)) = _
  rw [hfloor, hrim]

section Box

variable (axis : Axis) (segments : List (Segment ℝ))

/-- The box of the vase is at least two wide along every axis. -/
theorem two_le_vaseBox : Point.along axis (vaseBox : Point ℝ × Point ℝ).1 + 2 ≤
    Point.along axis (vaseBox : Point ℝ × Point ℝ).2 := by
  rw [vaseBox_real]
  cases axis <;> simp only [Point.along] <;> norm_num

theorem isLeast_box :
    IsLeast (Point.along axis '' plotted segments) (Point.along axis (box segments).1) := by
  have hle := two_le_vaseBox axis
  have hvase : IsLeast (Point.along axis '' {vaseBox.1, vaseBox.2})
      (Point.along axis (vaseBox : Point ℝ × Point ℝ).1) := by
    rw [Set.image_pair]
    exact ⟨Or.inl rfl, by rintro x (rfl | rfl) <;> linarith⟩
  unfold plotted box
  cases hpoints : endpoints segments with
  | nil => simpa using hvase
  | cons first rest =>
    rw [Set.image_union]
    have hunion := hvase.union (Point.isLeast_corners axis first rest)
    rw [← Point.along_least] at hunion
    exact hunion

theorem isGreatest_box :
    IsGreatest (Point.along axis '' plotted segments) (Point.along axis (box segments).2) := by
  have hle := two_le_vaseBox axis
  have hvase : IsGreatest (Point.along axis '' {vaseBox.1, vaseBox.2})
      (Point.along axis (vaseBox : Point ℝ × Point ℝ).2) := by
    rw [Set.image_pair]
    exact ⟨Or.inr rfl, by rintro x (rfl | rfl) <;> linarith⟩
  unfold plotted box
  cases hpoints : endpoints segments with
  | nil => simpa using hvase
  | cons first rest =>
    rw [Set.image_union]
    have hunion := hvase.union (Point.isGreatest_corners axis first rest)
    rw [← Point.along_greatest] at hunion
    exact hunion

/-- The box is never thinner than that of the vase. -/
theorem two_le_box :
    Point.along axis (box segments).1 + 2 ≤ Point.along axis (box segments).2 := by
  have hle := two_le_vaseBox axis
  have hlow := (isLeast_box axis segments).2 (Set.mem_image_of_mem _ (Or.inl (Or.inl rfl)))
  have hhigh := (isGreatest_box axis segments).2 (Set.mem_image_of_mem _ (Or.inl (Or.inr rfl)))
  linarith

end Box

variable {segments : List (Segment ℝ)}

/-- What is plotted lies in the box. -/
theorem inside_of_endpoint {p : Point ℝ} (h : p ∈ endpoints segments) :
    p.Inside (box segments) := fun axis =>
  ⟨(isLeast_box axis segments).2 (Set.mem_image_of_mem _ (Or.inr h)),
    (isGreatest_box axis segments).2 (Set.mem_image_of_mem _ (Or.inr h))⟩

theorem inside_of_vaseBox {p : Point ℝ} (h : p.Inside vaseBox) : p.Inside (box segments) := by
  intro axis
  have hlow := (isLeast_box axis segments).2 (Set.mem_image_of_mem _ (Or.inl (Or.inl rfl)))
  have hhigh := (isGreatest_box axis segments).2 (Set.mem_image_of_mem _ (Or.inl (Or.inr rfl)))
  exact ⟨hlow.trans (h axis).1, (h axis).2.trans hhigh⟩

/-! ### Upright -/

theorem along_upright {α : Type} [Scalar α] (axis : Axis) (p : Point α) :
    Point.along axis (upright p) = Point.along axis.shown p := by
  cases axis <;> rfl

/-- The limits that the axes of a picture end with. -/
noncomputable def limitsOf (segments : List (Segment ℝ)) : Point ℝ × Point ℝ :=
  (upright (box segments).1, upright (box segments).2)

theorem inside_upright {p : Point ℝ} (h : p.Inside (box segments)) :
    (upright p).Inside (limitsOf segments) := by
  intro axis
  simp only [limitsOf, along_upright]
  exact h axis.shown

/-! ### The outline of the vase -/

/-- A point of a circle that is not wider, lower or higher than the vase. -/
theorem inside_onCircle {radius height : ℝ} (hradius : |radius| ≤ 1.2) (hlow : -2 ≤ height)
    (hhigh : height ≤ 0) (angle : ℝ) :
    (onCircle radius height angle).Inside (limitsOf segments) := by
  have hcos : |radius * Real.cos angle| ≤ 1.2 := by
    rw [abs_mul]
    exact (mul_le_of_le_one_right (abs_nonneg radius) (Real.abs_cos_le_one angle)).trans hradius
  have hsin : |radius * Real.sin angle| ≤ 1.2 := by
    rw [abs_mul]
    exact (mul_le_of_le_one_right (abs_nonneg radius) (Real.abs_sin_le_one angle)).trans hradius
  have hinside : Point.Inside vaseBox
      ⟨radius * Real.cos angle, height, radius * Real.sin angle⟩ := by
    rw [vaseBox_real]
    intro axis
    cases axis with
    | x => exact abs_le.1 hcos
    | y => exact ⟨hlow, hhigh⟩
    | z => exact abs_le.1 hsin
  exact inside_upright (inside_of_vaseBox hinside)

/-- Every curve of the outline keeps to the axes. -/
theorem inside_outline : ∀ curve ∈ (vaseOutline : List (Curve ℝ)), ∀ p ∈ curve.points,
    p.Inside (limitsOf segments) := by
  have hfloor : (Vase.Profile.default : Vase.Profile ℝ).floor = -2 := by
    show (-1.0 - 2.0 / 2.0 : ℝ) = -2
    norm_num
  have hrim : (Vase.Profile.default : Vase.Profile ℝ).rim = 0 := by
    show (-1.0 + 2.0 / 2.0 : ℝ) = 0
    norm_num
  have hbottom : ∀ angle, (onCircle (Vase.Profile.default : Vase.Profile ℝ).bottomRadius
      (Vase.Profile.default : Vase.Profile ℝ).floor angle).Inside (limitsOf segments) := by
    intro angle
    refine inside_onCircle ?_ hfloor.ge (by rw [hfloor]; norm_num) angle
    show |(1.2 : ℝ)| ≤ 1.2
    norm_num
  have htop : ∀ angle, (onCircle (Vase.Profile.default : Vase.Profile ℝ).topRadius
      (Vase.Profile.default : Vase.Profile ℝ).rim angle).Inside (limitsOf segments) := by
    intro angle
    refine inside_onCircle ?_ (by rw [hrim]; norm_num) hrim.le angle
    show |(1.0 : ℝ)| ≤ 1.2
    norm_num
  intro curve hcurve p hp
  simp only [vaseOutline, List.mem_append, List.mem_cons, List.not_mem_nil, or_false,
    List.mem_map] at hcurve
  rcases hcurve with (rfl | rfl) | ⟨angle, -, rfl⟩
  · obtain ⟨angle, -, rfl⟩ := List.mem_map.1 hp
    exact hbottom angle
  · obtain ⟨angle, -, rfl⟩ := List.mem_map.1 hp
    exact htop angle
  · simp only [List.mem_cons, List.not_mem_nil, or_false] at hp
    rcases hp with rfl | rfl
    · exact hbottom angle
    · exact htop angle

/-! ### Drawing -/

@[simp] theorem finitePoint_real (p : Point ℝ) : finitePoint p = true := by
  simp [finitePoint]

/-- The axes can follow whatever is drawn. -/
theorem follows_real (airy : Bool) (before : Option (Point ℝ × Point ℝ))
    (drawings : List (Drawing ℝ)) : follows airy before drawings = true := by
  induction drawings generalizing airy before with
  | nil => rfl
  | cons drawing drawings ih =>
    unfold follows
    simp [fits, Span.finite, ih]

theorem bounded_real (corners : Point ℝ × Point ℝ) : bounded corners = true := by
  simp [bounded]

/-- The lines of the branches. -/
theorem lines_strokesOf (segments : List (Segment ℝ)) :
    (strokesOf segments).elim [] Strokes.lines =
      segments.map fun s => (upright s.start, upright s.finish) := by
  cases segments <;> rfl

/-- The dots at points. -/
theorem points_dotsOf (colour : Colour) (size : ℝ) (points : List (Point ℝ)) :
    (dotsOf colour size points).elim [] Dots.points = points.map upright := by
  have hall : points.filter finitePoint = points :=
    List.filter_eq_self.2 fun p _ => finitePoint_real p
  unfold dotsOf
  rw [hall]
  cases points <;> rfl

/-- No side of the box is so short that its length would be replaced. -/
theorem floor_le_side (axis : Axis) (segments : List (Segment ℝ)) :
    (1e-6 : ℝ) ≤ Point.along axis (box segments).2 - Point.along axis (box segments).1 := by
  have hwide := two_le_box axis segments
  have hfloor : (1e-6 : ℝ) ≤ 2 := by norm_num
  linarith

theorem aspectOf_box (segments : List (Segment ℝ)) :
    upright (aspectOf (box segments)) = (limitsOf segments).2 - (limitsOf segments).1 := by
  have hsize : aspectOf (box segments) = (box segments).2 - (box segments).1 := by
    unfold aspectOf
    simp only [Scalar.greatest_real]
    congr 1
    · exact max_eq_left (floor_le_side .x segments)
    · exact max_eq_left (floor_le_side .y segments)
    · exact max_eq_left (floor_le_side .z segments)
  rw [hsize]
  rfl

theorem two_le_limits (axis : Axis) (segments : List (Segment ℝ)) :
    2 ≤ Point.along axis ((limitsOf segments).2 - (limitsOf segments).1) := by
  have hwide := two_le_box axis.shown segments
  have hlength : Point.along axis ((limitsOf segments).2 - (limitsOf segments).1) =
      Point.along axis.shown (box segments).2 - Point.along axis.shown (box segments).1 := by
    cases axis <;> rfl
  rw [hlength]
  linarith

/-- Every tree over the real numbers can be drawn. -/
theorem picture_real {γ : Type} (tree : Tree ℝ γ) (withVase : Bool) :
    ∃ drawn, picture tree withVase = .ok drawn ∧
      drawn.limits = limitsOf tree.segments ∧
      drawn.aspect = (limitsOf tree.segments).2 - (limitsOf tree.segments).1 ∧
      drawn.branches = strokesOf tree.segments ∧
      drawn.leaves = dotsOf Colour.leaf 6.0 tree.leaves ∧
      drawn.flowers = dotsOf Colour.flower 14.0 tree.flowers ∧
      drawn.outline = if withVase then vaseOutline else [] := by
  unfold picture
  simp only [follows_real, bounded_real, Bool.and_self, Bool.not_true, Bool.false_eq_true,
    if_false, Scalar.isInfinite_real]
  exact ⟨_, rfl, rfl, aspectOf_box tree.segments, rfl, rfl, rfl, rfl⟩

end Picture

/-- **The axes hold all that is drawn.** Whatever is done to a tree, its
picture has as limits of each axis the least and the greatest coordinates of
the vase and of all end points of segments; branches, leaves, flowers and the
outline of the vase are drawn upright, in order, and lie within them; and the
axes are in proportion to their own lengths, none of which is less than two. -/
theorem picture_of_acts {γ : Type} [Generator γ ℝ] (options : Options ℝ) (g : γ)
    (acts : List (Act ℝ)) (withVase : Bool) :
    let tree := (History.ofActs options g acts).tree
    ∃ drawn, picture tree withVase = .ok drawn ∧
      (∀ axis : Axis,
        IsLeast (Point.along axis '' (Picture.upright '' Picture.plotted tree.segments))
          (Point.along axis drawn.limits.1) ∧
        IsGreatest (Point.along axis '' (Picture.upright '' Picture.plotted tree.segments))
          (Point.along axis drawn.limits.2)) ∧
      drawn.branches.elim [] Strokes.lines =
        tree.segments.map (fun s => (Picture.upright s.start, Picture.upright s.finish)) ∧
      drawn.leaves.elim [] Dots.points = tree.leaves.map Picture.upright ∧
      drawn.flowers.elim [] Dots.points = tree.flowers.map Picture.upright ∧
      (drawn.outline = if withVase then Picture.vaseOutline else []) ∧
      (∀ line ∈ drawn.branches.elim [] Strokes.lines,
        line.1.Inside drawn.limits ∧ line.2.Inside drawn.limits) ∧
      (∀ p ∈ drawn.leaves.elim [] Dots.points, p.Inside drawn.limits) ∧
      (∀ p ∈ drawn.flowers.elim [] Dots.points, p.Inside drawn.limits) ∧
      (∀ curve ∈ drawn.outline, ∀ p ∈ curve.points, p.Inside drawn.limits) ∧
      drawn.aspect = drawn.limits.2 - drawn.limits.1 ∧
      ∀ axis : Axis, 2 ≤ Point.along axis drawn.aspect := by
  intro tree
  have shaped := (History.sound_ofActs options g acts).shaped
  obtain ⟨drawn, hdrawn, hlimits, haspect, hbranches, hleaves, hflowers, houtline⟩ :=
    Picture.picture_real tree withVase
  -- leaves and flowers are end points of segments, so the box holds them too
  have hinside : ∀ p ∈ endpoints tree.segments,
      (Picture.upright p).Inside (Picture.limitsOf tree.segments) := fun p hp =>
    Picture.inside_upright (Picture.inside_of_endpoint hp)
  have hends : ∀ s ∈ tree.segments, s.start ∈ endpoints tree.segments ∧
      s.finish ∈ endpoints tree.segments := by
    intro s hs
    simp only [endpoints, List.mem_flatMap]
    exact ⟨⟨s, hs, by simp⟩, ⟨s, hs, by simp⟩⟩
  have himage : ∀ axis, Point.along axis '' (Picture.upright '' Picture.plotted tree.segments) =
      Point.along axis.shown '' Picture.plotted tree.segments := by
    intro axis
    rw [Set.image_image]
    exact Set.image_congr fun p _ => Picture.along_upright axis p
  refine ⟨drawn, hdrawn, ?_⟩
  rw [hlimits, haspect, hbranches, hleaves, hflowers, houtline, Picture.lines_strokesOf,
    Picture.points_dotsOf, Picture.points_dotsOf]
  refine ⟨fun axis => ?_, rfl, rfl, rfl, rfl, ?_, ?_, ?_, ?_, rfl,
    fun axis => Picture.two_le_limits axis tree.segments⟩
  · rw [himage]
    simp only [Picture.limitsOf, Picture.along_upright]
    exact ⟨Picture.isLeast_box axis.shown tree.segments,
      Picture.isGreatest_box axis.shown tree.segments⟩
  · intro line hline
    obtain ⟨s, hs, rfl⟩ := List.mem_map.1 hline
    exact ⟨hinside _ (hends s hs).1, hinside _ (hends s hs).2⟩
  · intro p hp
    obtain ⟨leaf, hleaf, rfl⟩ := List.mem_map.1 hp
    rw [shaped.leaves] at hleaf
    obtain ⟨s, hs, rfl⟩ := List.mem_map.1 hleaf
    exact hinside _ (hends s hs).2
  · intro p hp
    obtain ⟨flower, hflower, rfl⟩ := List.mem_map.1 hp
    exact hinside _ (shaped.flowers hflower)
  · intro curve hcurve p hp
    cases withVase with
    | false => cases hcurve
    | true => exact Picture.inside_outline curve hcurve p hp

end Arbor
