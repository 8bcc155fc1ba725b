/-
# The life of a tree

A tree can be given other options, its generator another seed, and it can be
told to grow, any number of times and in any order. A `History` goes through
such acts and remembers of every growth the word it expanded, or that it
failed.

A growth sets the segments, the leaves and the flowers together, after all
that can fail, so they fit together in every state that is reached, and they
belong to the word of the last growth that did not fail (`Shaped`). The word
that a tree holds is set earlier and may be that of a failed growth; it is the
one the segments belong to while the last growth was none (`geometry_of_acts`).

Key definitions: `Act`, `Shaped`, `History`, `Tree.wordGrown`, `History.next`,
`History.ofActs`.
Key theorems: `Tree.shaped_of_growth`, `Tree.shape_of_failed`, `History.Sound.next`,
`History.geometry_of_acts`.
-/
import Arbor.Proofs.Tree.Growth
import Arbor.Proofs.Turtle.Parents

namespace Arbor

/-- What can be done to a tree. -/
inductive Act (α : Type) where
  /-- It is given other options. Its generator stays what it is. -/
  | choose (options : Options α)
  /-- Its generator is given another seed. -/
  | reseed (seed : Int)
  /-- It is told to grow. -/
  | grow

variable {α γ : Type} [Scalar α]

/-- Segments, leaves and flowers that fit together and belong to a word. -/
structure Shaped (segments : List (Segment α)) (leaves flowers : List (Point α)) (word : Word) :
    Prop where
  leaves : leaves = segments.map Segment.finish
  flower_count : flowers.length = (segments.length + 1) / 2
  flowers : flowers ⊆ endpoints segments
  root : ∀ s, segments.head? = some s → s.start = Point.origin
  segments : segments.length = word.count 'F'

theorem shaped_nil : Shaped ([] : List (Segment α)) [] [] [] :=
  ⟨rfl, by simp, List.Subset.refl _, nofun, rfl⟩

/-- A tree, and for each of its growths, the last one first, the word it
expanded, or nothing if it failed. -/
structure History (α γ : Type) where
  tree : Tree α γ
  growths : List (Option Word)

namespace History

/-- A tree that has not grown yet. -/
def start (options : Options α) (g : γ) : History α γ := ⟨Tree.sapling options g, []⟩

/-- The word of the last growth that did not fail. -/
def lastWord (h : History α γ) : Option Word := h.growths.findSome? id

/-- What holds in every state of a history. -/
structure Sound (h : History α γ) : Prop where
  /-- The tree has the shape of the last word grown; of the empty one if there
  is none. -/
  shaped : Shaped h.tree.segments h.tree.leaves h.tree.flowers (h.lastWord.getD [])
  /-- If the last growth did not fail, the tree still has its word. -/
  word : ∀ w, h.growths.head? = some (some w) → h.tree.word = w

theorem sound_start (options : Options α) (g : γ) : Sound (start options g) :=
  ⟨shaped_nil, nofun⟩

end History

variable [Generator γ α]

/-! ### Growths -/

namespace Tree

/-- The word that a growth expands, if it does not fail. -/
def wordGrown (tree : Tree α γ) : Option Word :=
  match (generate tree).1 with
  | .error _ => none
  | .ok _ =>
    (Grammar.expand tree.options.start tree.options.rules tree.options.generations).toOption

/-- A growth that does not fail gives the tree the shape of the word it
expands. -/
theorem shaped_of_growth {tree grown : Tree α γ} {segments : List (Segment α)}
    (h : generate tree = (.ok segments, grown)) :
    Grammar.expand tree.options.start tree.options.rules tree.options.generations =
      .ok grown.word ∧ Shaped grown.segments grown.leaves grown.flowers grown.word := by
  cases growth_of_generate h with
  | @grown word jitter angle g left last _ picked prepared angled walked decorated =>
    obtain ⟨-, -, -, hexpand⟩ := prepare_eq_ok_iff.1 prepared
    obtain ⟨flowers, hflowers, hcount, hblooms⟩ := flowers_spec segments left
    rw [decorated] at hflowers
    obtain ⟨rfl, -⟩ : picked = flowers ∧ _ := by simpa using hflowers
    have hjoined := Turtle.interpret_joined walked
    exact ⟨hexpand, tips_eq_map segments, hcount, hblooms.subset,
      fun s => Turtle.head_of_joined hjoined, hjoined.1⟩

/-- A growth that fails changes neither the segments nor what they are
decorated with. -/
theorem shape_of_failed {tree next : Tree α γ} {fault : Fault α}
    (h : generate tree = (.error fault, next)) :
    next.segments = tree.segments ∧ next.leaves = tree.leaves ∧ next.flowers = tree.flowers := by
  cases growth_of_generate h with
  | refused prepared => exact ⟨rfl, rfl, rfl⟩
  | angleless prepared angled => exact ⟨rfl, rfl, rfl⟩
  | stopped prepared angled walked => exact ⟨rfl, rfl, rfl⟩

end Tree

/-! ### Acts -/

namespace History

/-- A history after one more act. -/
def next (h : History α γ) : Act α → History α γ
  | .choose options => { h with tree := { h.tree with options := options } }
  | .reseed seed => { h with tree := h.tree.reseed seed }
  | .grow => ⟨h.tree.generate.2, h.tree.wordGrown :: h.growths⟩

/-- The history of a tree to which these acts are done. -/
def ofActs (options : Options α) (g : γ) (acts : List (Act α)) : History α γ :=
  acts.foldl next (start options g)

theorem Sound.grow {h : History α γ} (sound : Sound h) : Sound (h.next .grow) := by
  rcases hgrowth : h.tree.generate with ⟨fault | segments, grown⟩
  · have hword : h.tree.wordGrown = none := by
      unfold Tree.wordGrown
      rw [hgrowth]
    have hnext : h.next .grow = ⟨grown, none :: h.growths⟩ := by
      unfold next
      rw [hgrowth, hword]
    rw [hnext]
    obtain ⟨hsegments, hleaves, hflowers⟩ := Tree.shape_of_failed hgrowth
    have shaped := sound.shaped
    rw [← hsegments, ← hleaves, ← hflowers] at shaped
    exact ⟨shaped, nofun⟩
  · obtain ⟨hexpand, shaped⟩ := Tree.shaped_of_growth hgrowth
    have hword : h.tree.wordGrown = some grown.word := by
      unfold Tree.wordGrown
      rw [hgrowth, hexpand]
      rfl
    have hnext : h.next .grow = ⟨grown, some grown.word :: h.growths⟩ := by
      unfold next
      rw [hgrowth, hword]
    rw [hnext]
    refine ⟨shaped, fun w hw => ?_⟩
    simpa using hw

/-- No act can make a sound history unsound. -/
theorem Sound.next {h : History α γ} (sound : Sound h) (act : Act α) : Sound (h.next act) := by
  cases act with
  | choose options => exact ⟨sound.shaped, sound.word⟩
  | reseed seed => exact ⟨sound.shaped, sound.word⟩
  | grow => exact sound.grow

theorem sound_ofActs (options : Options α) (g : γ) (acts : List (Act α)) :
    Sound (ofActs options g acts) := by
  unfold ofActs
  induction acts using List.reverseRecOn with
  | nil => exact sound_start options g
  | append_singleton acts act ih =>
    rw [List.foldl_concat]
    exact ih.next act

/-- **The geometry fits together in every state.** Whatever is done to a tree,
its leaves are the ends of its segments, in order; there is a flower for every
two segments, rounded up, and each is at an end point of a segment; the first
segment starts at the origin; and there are as many segments as the word of the
last growth that did not fail has steps forward, none if there was no such
growth. If the last growth did not fail, that word is the one the tree holds. -/
theorem geometry_of_acts (options : Options α) (g : γ) (acts : List (Act α)) :
    let h := ofActs options g acts
    h.tree.leaves = h.tree.segments.map Segment.finish ∧
    h.tree.flowers.length = (h.tree.segments.length + 1) / 2 ∧
    h.tree.flowers ⊆ endpoints h.tree.segments ∧
    (h.tree.segments = [] ∨ h.tree.segments.head?.map Segment.start = some Point.origin) ∧
    h.tree.segments.length = (h.lastWord.getD []).count 'F' ∧
    ∀ w, h.growths.head? = some (some w) → h.tree.word = w := by
  intro h
  have sound : Sound h := sound_ofActs options g acts
  refine ⟨sound.shaped.leaves, sound.shaped.flower_count, sound.shaped.flowers, ?_,
    sound.shaped.segments, sound.word⟩
  cases hhead : h.tree.segments.head? with
  | none => exact Or.inl (List.head?_eq_none_iff.1 hhead)
  | some s => exact Or.inr (congrArg some (sound.shaped.root s hhead))

/-- A tree that grows, is given a word that closes what it has not opened, and
fails to grow. -/
theorem geometry_of_acts_failed :
    let fork : Options Float :=
      { Options.default none with start := ['F', '[', '+', 'F', ']'], generations := .whole 0 }
    let twister : Twister := ⟨#[3456789012, 2345678901], 0⟩
    let grown := ofActs fork twister [.grow]
    let failed := ofActs fork twister [.grow, .choose { fork with start := ['F', ']'] }, .grow]
    grown.growths.head? = some (some fork.start) ∧ grown.tree.word = fork.start ∧
    failed.growths = [none, some fork.start] ∧ failed.tree.word = ['F', ']'] ∧
    failed.tree.segments.length = 2 ∧ failed.tree.flowers.length = 1 := by
  intro fork twister grown failed
  have hgrown : grown.growths.head? = some (some fork.start) := by decide +kernel
  have hfailed : failed.growths = [none, some fork.start] := by decide +kernel
  have hword : failed.tree.word = ['F', ']'] := by decide +kernel
  have hlast : (failed.lastWord.getD []).count 'F' = 2 := by
    unfold lastWord
    rw [hfailed]
    rfl
  obtain ⟨-, -, -, -, -, hkept⟩ := geometry_of_acts fork twister [.grow]
  obtain ⟨-, hflowers, -, -, hsegments, -⟩ :=
    geometry_of_acts fork twister [.grow, .choose { fork with start := ['F', ']'] }, .grow]
  have hcount : failed.tree.segments.length = 2 := hsegments.trans hlast
  refine ⟨hgrown, hkept _ hgrown, hfailed, hword, hcount, hflowers.trans ?_⟩
  rw [hcount]

end History
end Arbor
