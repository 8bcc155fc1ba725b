/-
# Leaves and flowers

A tree is decorated at the end points of its segments. The points of the
segments are listed as start, finish, start, finish, …; a leaf sits at every
tip, which are the points at the odd places of that list, and flowers sit at
points drawn from the whole list, with repetition: one for every four points,
rounded up, unless their number is given.

Key definitions: `endpoints`, `tips`, `pickPoints`, `flowers`.
Key theorems: `endpoints_cons`, `length_endpoints`.
-/
import Arbor.Chance.Generator
import Arbor.Turtle.Walk

namespace Arbor

variable {γ α : Type}

/-- The end points of all segments, in order. -/
def endpoints (segments : List (Segment α)) : List (Point α) :=
  segments.flatMap fun s => [s.start, s.finish]

@[simp] theorem endpoints_nil : endpoints ([] : List (Segment α)) = [] := rfl

@[simp] theorem endpoints_cons (s : Segment α) (segments : List (Segment α)) :
    endpoints (s :: segments) = s.start :: s.finish :: endpoints segments := rfl

theorem length_endpoints (segments : List (Segment α)) :
    (endpoints segments).length = 2 * segments.length := by
  induction segments with
  | nil => rfl
  | cons s rest ih => simp only [endpoints_cons, List.length_cons, ih]; omega

/-- The tips: the points at the odd places among the end points. -/
def tips (segments : List (Segment α)) : List (Point α) :=
  ((endpoints segments).zipIdx.filter fun place => place.2 % 2 == 1).map (·.1)

/-- A number of flowers that is negative. -/
inductive FlowerFault where
  | negativeCount
  deriving DecidableEq, Repr

/-- The wording of a fault. -/
def FlowerFault.message : FlowerFault → String
  | negativeCount => "flower count must be >= 0"

variable [Generator γ α]

/-- Points drawn from a list that is not empty, `count` of them; `picked` are
those before them, the last one first. -/
def pickPoints (points : Array (Point α)) (some_point : 0 < points.size) :
    Nat → List (Point α) → γ → List (Point α) × γ
  | 0, picked, g => (picked.reverse, g)
  | count + 1, picked, g =>
    let (place, g) := Generator.below points.size some_point g
    pickPoints points some_point count (points[place] :: picked) g

/-- How many flowers a number of points gets when nothing else is said. -/
def flowerCount (points : Nat) : Nat := (points + 3) / 4

/-- Flowers at points of the segments. A negative number of them is refused
even when there is no point to draw. -/
def flowers (segments : List (Segment α)) (count : Option Int) (g : γ) :
    Except FlowerFault (List (Point α)) × γ :=
  let points := (endpoints segments).toArray
  let wanted := count.getD (Int.ofNat (flowerCount points.size))
  if wanted < 0 then (.error .negativeCount, g)
  else if some_point : 0 < points.size then
    let (picked, g) := pickPoints points some_point wanted.toNat [] g
    (.ok picked, g)
  else (.ok [], g)

end Arbor
