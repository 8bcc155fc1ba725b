/-
# The composition of the scene

A scene is refused for its first radius that is not greater than zero, be
there anything of that radius or not. Otherwise it consists of a tube for
every segment, a sphere for every leaf, then for every flower, and the vase
if it is wanted: the parts are put one after the other, and those without
faces, which are left out, would not have changed anything.

Key definitions: `SceneRadii.Reckoned`, `sceneBodies`.
Key theorems: `scene_of_parts`, `scene_with_vase`, `vase_default`,
`scene_composition`.
-/
import Arbor.Proofs.Mesh.Parts

namespace Arbor

section Outcome

variable {α γ : Type} [Scalar α] {tree : Tree α γ} {radii : SceneRadii α}
  {branches leaves flowers under : Mesh α}

theorem scene_of_branches {fault : Mesh.Fault} (withVase : Bool)
    (h : branchTubes tree.segments radii.branch (Int.ofNat branchSections) = .error fault) :
    scene tree withVase radii = .error fault := by
  unfold scene
  rw [h]
  rfl

theorem scene_of_leaves {fault : Mesh.Fault} (withVase : Bool)
    (hbranches : branchTubes tree.segments radii.branch (Int.ofNat branchSections) = .ok branches)
    (h : markers tree.leaves radii.leaf markerDivisions (.ok Colour.leaf) = .error fault) :
    scene tree withVase radii = .error fault := by
  unfold scene
  rw [hbranches, h]
  rfl

theorem scene_of_flowers {fault : Mesh.Fault} (withVase : Bool)
    (hbranches : branchTubes tree.segments radii.branch (Int.ofNat branchSections) = .ok branches)
    (hleaves : markers tree.leaves radii.leaf markerDivisions (.ok Colour.leaf) = .ok leaves)
    (h : markers tree.flowers radii.flower markerDivisions (.ok Colour.flower) = .error fault) :
    scene tree withVase radii = .error fault := by
  unfold scene
  rw [hbranches, hleaves, h]
  rfl

section Made

variable
  (hbranches : branchTubes tree.segments radii.branch (Int.ofNat branchSections) = .ok branches)
  (hleaves : markers tree.leaves radii.leaf markerDivisions (.ok Colour.leaf) = .ok leaves)
  (hflowers : markers tree.flowers radii.flower markerDivisions (.ok Colour.flower) = .ok flowers)

include hbranches hleaves hflowers

theorem scene_of_parts :
    scene tree false radii = .ok (Mesh.join [branches, leaves, flowers]) := by
  unfold scene
  rw [hbranches, hleaves, hflowers]
  rfl

/-- The vase comes last. -/
theorem scene_with_vase (hvase : vase Vase.default Vase.defaultSections = .ok under)
    (hfaces : under.faces ≠ []) :
    scene tree true radii = .ok ((Mesh.join [branches, leaves, flowers]).append under) := by
  rw [← Mesh.join_concat [branches, leaves, flowers] hfaces]
  unfold scene
  rw [hbranches, hleaves, hflowers, hvase]
  rfl

end Made

end Outcome

/-- The vase under a tree. -/
theorem vase_default : ∃ under : Mesh Float, vase Vase.default Vase.defaultSections = .ok under ∧
    under.MadeOf [⟨66, 128, Colour.vase⟩] := by
  have hmade := Mesh.madeOf_vase (Vase.Profile.default : Vase.Profile Float)
    (by decide : 2 ≤ 32) Colour.vase
  have hpositive : ((Vase.default : Vase Float).topRadius.positive &&
      (Vase.default : Vase Float).bottomRadius.positive &&
        (Vase.default : Vase Float).height.positive) = true := by decide
  have hcount : Ring.Counter.machine.count Vase.defaultSections = .ok 32 :=
    Ring.Counter.counts_machine (by decide)
  refine ⟨_, ?_, hmade⟩
  unfold vase
  rw [hpositive, hcount]
  rfl

/-! ### What a scene consists of -/

section Bodies

variable {α γ : Type} (tree : Tree α γ) (withVase : Bool)

/-- The bodies of a scene: tubes of twelve vertices and faces, spheres of 42
vertices and 80 faces and a vase of 66 vertices and 128 faces. -/
def sceneBodies : List Body :=
  List.replicate tree.segments.length ⟨12, 12, Colour.branch⟩ ++
    List.replicate tree.leaves.length ⟨42, 80, Colour.leaf⟩ ++
    List.replicate tree.flowers.length ⟨42, 80, Colour.flower⟩ ++
    if withVase then [⟨66, 128, Colour.vase⟩] else []

theorem bodyVertices_sceneBodies :
    bodyVertices (sceneBodies tree withVase) = 12 * tree.segments.length +
      42 * (tree.leaves.length + tree.flowers.length) + if withVase then 66 else 0 := by
  simp only [sceneBodies, bodyVertices_append, bodyVertices_replicate]
  cases withVase with
  | false =>
    rw [if_neg Bool.false_ne_true, if_neg Bool.false_ne_true, bodyVertices_nil]
    omega
  | true =>
    rw [if_pos rfl, if_pos rfl, bodyVertices_cons, bodyVertices_nil]
    dsimp only
    omega

theorem flatMap_replicate_body (n : Nat) (body : Body) :
    ((List.replicate n body).flatMap fun body => List.replicate body.faces body.colour) =
      List.replicate (body.faces * n) body.colour := by
  rw [List.flatMap_replicate, List.flatten_replicate_replicate, Nat.mul_comm]

theorem colours_sceneBodies :
    ((sceneBodies tree withVase).flatMap fun body => List.replicate body.faces body.colour) =
      List.replicate (12 * tree.segments.length) Colour.branch ++
        List.replicate (80 * tree.leaves.length) Colour.leaf ++
        List.replicate (80 * tree.flowers.length) Colour.flower ++
        List.replicate (if withVase then 128 else 0) Colour.vase := by
  have hvase : ((if withVase then [(⟨66, 128, Colour.vase⟩ : Body)] else []).flatMap
      fun body => List.replicate body.faces body.colour) =
        List.replicate (if withVase then 128 else 0) Colour.vase := by
    cases withVase <;> rfl
  simp only [sceneBodies, List.flatMap_append, flatMap_replicate_body, hvase]

end Bodies

/-- The radii that are used can be reckoned with. Scalars can, whether they
are finite or not; only a whole number beyond all scalars cannot. -/
structure SceneRadii.Reckoned {γ : Type} (radii : SceneRadii Float) (tree : Tree Float γ) :
    Prop where
  branch : tree.segments ≠ [] → radii.branch.Reckoned
  leaf : tree.leaves ≠ [] → radii.leaf.Reckoned
  flower : tree.flowers ≠ [] → radii.flower.Reckoned

section Scene

variable {γ : Type} {tree : Tree Float γ} {radii : SceneRadii Float}

/-- With good radii the scene is its parts one after the other. -/
theorem scene_of_positive (reckoned : radii.Reckoned tree)
    (hbranch : radii.branch.positive = true) (hleaf : radii.leaf.positive = true)
    (hflower : radii.flower.positive = true) :
    ∃ branches leaves flowers under,
      branchTubes tree.segments radii.branch (Int.ofNat branchSections) = .ok branches ∧
      markers tree.leaves radii.leaf markerDivisions (.ok Colour.leaf) = .ok leaves ∧
      markers tree.flowers radii.flower markerDivisions (.ok Colour.flower) = .ok flowers ∧
      vase Vase.default Vase.defaultSections = .ok under ∧
      scene tree false radii = .ok ((branches.append leaves).append flowers) ∧
      scene tree true radii = .ok (((branches.append leaves).append flowers).append under) ∧
      ((branches.append leaves).append flowers).MadeOf (sceneBodies tree false) ∧
      (((branches.append leaves).append flowers).append under).MadeOf (sceneBodies tree true) := by
  obtain ⟨branches, hbranches, mbranches, ebranches⟩ :=
    branchTubes_of_positive hbranch reckoned.branch
  obtain ⟨leaves, hleaves, mleaves, eleaves⟩ :=
    markers_of_positive hleaf reckoned.leaf Colour.leaf
  obtain ⟨flowers, hflowers, mflowers, eflowers⟩ :=
    markers_of_positive hflower reckoned.flower Colour.flower
  obtain ⟨under, hunder, munder⟩ := vase_default
  have hjoin : Mesh.join [branches, leaves, flowers] =
      (branches.append leaves).append flowers := by
    rw [Mesh.join_eq_foldl]
    · simp only [List.foldl_cons, List.foldl_nil, Mesh.empty_append]
    · intro part hpart
      simp only [List.mem_cons, List.not_mem_nil, or_false] at hpart
      rcases hpart with rfl | rfl | rfl
      · exact ebranches
      · exact eleaves
      · exact eflowers
  have hfaces : under.faces ≠ [] := by
    intro hnone
    have hlen := munder.length_faces
    rw [hnone] at hlen
    cases hlen
  have hbare := scene_of_parts hbranches hleaves hflowers
  have hwith := scene_with_vase hbranches hleaves hflowers hunder hfaces
  rw [hjoin] at hbare hwith
  have mbare := (mbranches.append mleaves).append mflowers
  have mwith := mbare.append munder
  refine ⟨branches, leaves, flowers, under, hbranches, hleaves, hflowers, hunder, hbare, hwith,
    ?_, mwith⟩
  rw [← List.append_nil (_ ++ _)] at mbare
  exact mbare

/-- The first radius that is not good refuses the scene. -/
theorem scene_of_not_positive (withVase : Bool) (reckoned : radii.Reckoned tree) :
    (radii.branch.positive = false → scene tree withVase radii = .error .branchRadius) ∧
    (radii.branch.positive = true → radii.leaf.positive = false ∨ radii.flower.positive = false →
      scene tree withVase radii = .error .markerRadius) := by
  have hmarkers : ∀ {points : List (Point Float)} {radius : Quantity Float} (colour : Colour),
      radius.positive = false →
        markers points radius markerDivisions (.ok colour) = .error .markerRadius := by
    intro points radius colour hbad
    unfold markers
    rw [hbad]
    rfl
  constructor
  · intro hbad
    apply scene_of_branches withVase
    unfold branchTubes
    rw [hbad]
    rfl
  · intro hbranch hbad
    obtain ⟨branches, hbranches, -⟩ := branchTubes_of_positive hbranch reckoned.branch
    cases hleaf : radii.leaf.positive with
    | false => exact scene_of_leaves withVase hbranches (hmarkers Colour.leaf hleaf)
    | true =>
      obtain ⟨leaves, hleaves, -⟩ := markers_of_positive hleaf reckoned.leaf Colour.leaf
      have hflower := hbad.resolve_left (by simp [hleaf])
      exact scene_of_flowers withVase hbranches hleaves (hmarkers Colour.flower hflower)

/-- **Composition of the scene.** It is refused exactly for a radius that is
not greater than zero, that of the branches first. Otherwise its mesh is made
of a tube for every segment, a sphere for every leaf and every flower and the
vase, so no face leaves its own body and the colours come in runs; the vase
only follows the mesh without it. -/
theorem scene_composition (reckoned : radii.Reckoned tree) :
    (∀ withVase, (∃ fault, scene tree withVase radii = .error fault) ↔
      radii.branch.positive = false ∨ radii.leaf.positive = false ∨
        radii.flower.positive = false) ∧
    (∀ withVase, radii.branch.positive = false →
      scene tree withVase radii = .error .branchRadius) ∧
    (∀ withVase, radii.branch.positive = true →
      radii.leaf.positive = false ∨ radii.flower.positive = false →
        scene tree withVase radii = .error .markerRadius) ∧
    (radii.branch.positive = true → radii.leaf.positive = true → radii.flower.positive = true →
      (∀ withVase, ∃ mesh, scene tree withVase radii = .ok mesh ∧
        mesh.MadeOf (sceneBodies tree withVase) ∧
        mesh.vertices.length = 12 * tree.segments.length +
          42 * (tree.leaves.length + tree.flowers.length) + (if withVase then 66 else 0) ∧
        mesh.faces.length = 12 * tree.segments.length +
          80 * (tree.leaves.length + tree.flowers.length) + (if withVase then 128 else 0) ∧
        mesh.faces.map (·.2) =
          List.replicate (12 * tree.segments.length) Colour.branch ++
            List.replicate (80 * tree.leaves.length) Colour.leaf ++
            List.replicate (80 * tree.flowers.length) Colour.flower ++
            List.replicate (if withVase then 128 else 0) Colour.vase) ∧
      ∃ branches leaves flowers under,
        branchTubes tree.segments radii.branch (Int.ofNat branchSections) = .ok branches ∧
        markers tree.leaves radii.leaf markerDivisions (.ok Colour.leaf) = .ok leaves ∧
        markers tree.flowers radii.flower markerDivisions (.ok Colour.flower) = .ok flowers ∧
        vase Vase.default Vase.defaultSections = .ok under ∧
        scene tree false radii = .ok ((branches.append leaves).append flowers) ∧
        scene tree true radii = .ok (((branches.append leaves).append flowers).append under)) := by
  have hrefused := fun withVase => scene_of_not_positive withVase reckoned
  have hmade := scene_of_positive reckoned
  have hok : ∀ withVase, radii.branch.positive = true → radii.leaf.positive = true →
      radii.flower.positive = true →
        ∃ mesh, scene tree withVase radii = .ok mesh ∧ mesh.MadeOf (sceneBodies tree withVase) := by
    intro withVase hbranch hleaf hflower
    obtain ⟨branches, leaves, flowers, under, -, -, -, -, hbare, hwith, mbare, mwith⟩ :=
      hmade hbranch hleaf hflower
    cases withVase with
    | false => exact ⟨_, hbare, mbare⟩
    | true => exact ⟨_, hwith, mwith⟩
  refine ⟨fun withVase => ⟨?_, ?_⟩, fun withVase => (hrefused withVase).1,
    fun withVase => (hrefused withVase).2, fun hbranch hleaf hflower => ⟨fun withVase => ?_, ?_⟩⟩
  · rintro ⟨fault, herror⟩
    cases hbranch : radii.branch.positive with
    | false => exact Or.inl rfl
    | true =>
      cases hleaf : radii.leaf.positive with
      | false => exact Or.inr (Or.inl rfl)
      | true =>
        cases hflower : radii.flower.positive with
        | false => exact Or.inr (Or.inr rfl)
        | true =>
          obtain ⟨mesh, hmesh, -⟩ := hok withVase hbranch hleaf hflower
          rw [hmesh] at herror
          cases herror
  · intro hbad
    cases hbranch : radii.branch.positive with
    | false => exact ⟨_, (hrefused withVase).1 hbranch⟩
    | true => exact ⟨_, (hrefused withVase).2 hbranch (hbad.resolve_left (by simp [hbranch]))⟩
  · obtain ⟨mesh, hmesh, made⟩ := hok withVase hbranch hleaf hflower
    have hcolours : mesh.faces.map (·.2) = _ :=
      made.faces.colours.trans (colours_sceneBodies tree withVase)
    refine ⟨mesh, hmesh, made, ?_, ?_, hcolours⟩
    · rw [made.vertices, bodyVertices_sceneBodies]
    · have hlen := congrArg List.length hcolours
      simp only [List.length_map, List.length_append, List.length_replicate] at hlen
      omega
  · obtain ⟨branches, leaves, flowers, under, hbranches, hleaves, hflowers, hunder, hbare, hwith,
      -⟩ := hmade hbranch hleaf hflower
    exact ⟨branches, leaves, flowers, under, hbranches, hleaves, hflowers, hunder, hbare, hwith⟩

/-- A branch with a leaf and a flower at its tip, with the default radii. -/
theorem scene_composition_twig :
    let tip : Point Float := ⟨0.0, 0.5, 0.0⟩
    let tree : Tree Float Unit :=
      ⟨Options.default none, (), ['F'], 0.0, [⟨Point.origin, tip⟩], [tip], [tip]⟩
    (SceneRadii.default : SceneRadii Float).Reckoned tree ∧
    ∃ mesh, scene tree true SceneRadii.default = .ok mesh ∧ mesh.vertices.length = 162 ∧
      mesh.faces.length = 300 := by
  intro tip tree
  have reckoned : (SceneRadii.default : SceneRadii Float).Reckoned tree :=
    ⟨fun _ => Quantity.reckoned_scalar _, fun _ => Quantity.reckoned_scalar _,
      fun _ => Quantity.reckoned_scalar _⟩
  obtain ⟨-, -, -, hmade⟩ := scene_composition reckoned
  obtain ⟨hmesh, -⟩ := hmade (by decide) (by decide) (by decide)
  obtain ⟨mesh, hscene, -, hvertices, hfaces, -⟩ := hmesh true
  exact ⟨reckoned, mesh, hscene, hvertices, hfaces⟩

end Scene
end Arbor
