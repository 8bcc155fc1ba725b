/-
# What is asked of a generator

A generator can be asked for a scalar of the unit interval or for a number
below another one. `Generator.after` is the generator that a list of such
requests leaves, and a `Recorder` is a generator that writes down what it is
asked for, in order.

Two generators that answer alike (`Generator.Alike`) cannot be told apart by
what is drawn from them. A recorder and the generator in it are such a pair, so
what holds of all generators holds of the recorder, with the requests on
record.

Key definitions: `Request`, `Generator.after`, `Generator.pick`, `Recorder`,
`Generator.Alike`.
Key theorems: `Generator.uniform_eq_some`, `Generator.asked_after`,
`Generator.Alike.uniform`, `Generator.Alike.baseAngle`,
`Generator.alike_recorder`.
-/
import Arbor.Chance.Jitter

namespace Arbor

/-- What a generator can be asked for. -/
inductive Request where
  /-- A scalar of the unit interval. -/
  | unit
  /-- A number below `n`. -/
  | below (n : Nat)
  deriving DecidableEq, Repr

namespace Generator

variable {γ δ α : Type} [Generator γ α] [Generator δ α]

/-- The generator that a request leaves. There is no number below zero to ask
for. -/
def serve (g : γ) : Request → γ
  | .unit => (Generator.unit g).2
  | .below n => if h : 0 < n then (Generator.below n h g).2 else g

/-- The generator that requests leave, one after the other. -/
def after (requests : List Request) (g : γ) : γ := requests.foldl serve g

@[simp] theorem after_nil (g : γ) : after [] g = g := rfl

theorem after_cons (request : Request) (requests : List Request) (g : γ) :
    after (request :: requests) g = after requests (serve g request) := rfl

theorem after_append (first second : List Request) (g : γ) :
    after (first ++ second) g = after second (after first g) := List.foldl_append

/-- The number below `n` that a generator gives; zero if there is none. -/
def pick (n : Nat) (g : γ) : Nat := if h : 0 < n then (Generator.below n h g).1 else 0

theorem below_eq {n : Nat} (h : 0 < n) (g : γ) :
    ((Generator.below n h g).1 : Nat) = pick n g ∧
      (Generator.below n h g).2 = serve g (.below n) := by
  simp only [pick, serve, dif_pos h, and_self]

section Uniform

variable [Scalar α]

/-- A scalar that is drawn between two quantities takes one request. -/
theorem uniform_eq_some {low high : Quantity α} {g left : γ} {x : α}
    (h : uniform low high g = (some x, left)) : left = serve g .unit := by
  unfold uniform at h
  cases hwidth : high.minus? low with
  | none =>
    rw [hwidth] at h
    cases h
  | some width =>
    rw [hwidth] at h
    exact (congrArg Prod.snd h).symm

theorem baseAngle_eq_some {center spread : Quantity α} {g left : γ} {angle : α}
    (h : baseAngle center spread g = (some angle, left)) :
    ∃ middle offset, center.value? = some middle ∧
      uniform spread.negated spread g = (some offset, left) ∧
      angle = Scalar.radians (middle + offset) := by
  unfold baseAngle at h
  rcases hdraw : uniform spread.negated spread g with ⟨_ | offset, g'⟩
  · rw [hdraw] at h
    cases hcenter : center.value? <;> simp [hcenter] at h
  · rw [hdraw] at h
    cases hcenter : center.value? with
    | none => simp [hcenter] at h
    | some middle =>
      simp only [hcenter, Option.bind_eq_bind, Option.bind_some, Prod.mk.injEq,
        Option.some.injEq] at h
      obtain ⟨rfl, rfl⟩ := h
      exact ⟨middle, offset, rfl, rfl, rfl⟩

end Uniform

/-! ### Generators that answer alike -/

/-- Every draw from a generator and from its image gives the same answer, and
again a generator and its image. -/
structure Alike (φ : γ → δ) : Prop where
  unit : ∀ g, Generator.unit (φ g) = ((Generator.unit g).1, φ (Generator.unit g).2)
  below : ∀ n pos g,
    Generator.below n pos (φ g) = ((Generator.below n pos g).1, φ (Generator.below n pos g).2)

namespace Alike

variable [Scalar α] {φ : γ → δ} (alike : Alike φ)

include alike

theorem uniform (low high : Quantity α) (g : γ) :
    Generator.uniform low high (φ g) =
      ((Generator.uniform low high g).1, φ (Generator.uniform low high g).2) := by
  unfold Generator.uniform
  cases high.minus? low with
  | none => rfl
  | some width => simp only [alike.unit]

theorem baseAngle (center spread : Quantity α) (g : γ) :
    Arbor.baseAngle center spread (φ g) =
      ((Arbor.baseAngle center spread g).1, φ (Arbor.baseAngle center spread g).2) := by
  unfold Arbor.baseAngle
  simp only [alike.uniform]

theorem draw (jitter : Jitter α) (g : γ) :
    jitter.draw (φ g) = ((jitter.draw g).1, φ (jitter.draw g).2) :=
  alike.uniform jitter.low jitter.high g

end Alike

end Generator

/-! ### Recorders -/

/-- A generator that writes down what it is asked for. -/
structure Recorder (γ : Type) where
  generator : γ
  asked : List Request

variable {γ α : Type} [Generator γ α]

instance : Generator (Recorder γ) α where
  seeded seed := ⟨Generator.seeded seed, []⟩
  unit r :=
    ((Generator.unit r.generator).1, ⟨(Generator.unit r.generator).2, r.asked ++ [.unit]⟩)
  below n pos r :=
    ((Generator.below n pos r.generator).1,
      ⟨(Generator.below n pos r.generator).2, r.asked ++ [.below n]⟩)

namespace Generator

theorem alike_recorder : Alike (Recorder.generator : Recorder γ → γ) where
  unit _ := rfl
  below _ _ _ := rfl

/-- A recorder has the requests on record that it has served. -/
theorem asked_after : ∀ (requests : List Request) (r : Recorder γ),
    Request.below 0 ∉ requests → (after requests r).asked = r.asked ++ requests
  | [], r, _ => (List.append_nil r.asked).symm
  | request :: requests, r, h => by
    have hserve : (serve r request).asked = r.asked ++ [request] := by
      cases request with
      | unit => rfl
      | below n =>
        have hn : 0 < n := by
          refine Nat.pos_of_ne_zero fun h0 => h ?_
          rw [h0]
          exact List.mem_cons_self
        rw [← (below_eq hn r).2]
        rfl
    rw [after_cons, asked_after requests _ fun hmem => h (List.mem_cons_of_mem _ hmem), hserve,
      List.append_assoc, List.singleton_append]

end Generator

end Arbor
