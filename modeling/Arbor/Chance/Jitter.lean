/-
# Jitter

No two turns of a tree are alike: each one is scaled by a sample drawn from a
range of jitter. A range is good when its low end is greater than zero and at
most its high end, and `Jitter.ofRange` makes no other.

Key definitions: `Jitter`, `Jitter.ofRange`, `Jitter.draw`.
-/
import Arbor.Chance.Generator
import Arbor.Number.Shortest

namespace Arbor

/-- The range that the samples of the jitter are drawn from. -/
structure Jitter (α : Type) where
  low : Quantity α
  high : Quantity α

namespace Jitter

/-- A range that is refused. -/
structure Fault (α : Type) where
  low : Quantity α
  high : Quantity α

/-- How a message names a bound. -/
def written : Quantity Float → String
  | .whole n => toString n
  | .scalar x => Shortest.text x

/-- The wording of a fault. -/
def Fault.message (fault : Fault Float) : String :=
  "jitter range must satisfy 0 < low <= high, got [" ++ written fault.low ++ ", " ++
    written fault.high ++ "]"

variable {γ α : Type} [Scalar α] [Generator γ α]

/-- The jitter between two bounds. -/
def ofRange (low high : Quantity α) : Except (Fault α) (Jitter α) :=
  if low.positive && low.atMost high then .ok ⟨low, high⟩ else .error ⟨low, high⟩

/-- A fresh sample. -/
def draw (jitter : Jitter α) (g : γ) : Option α × γ :=
  Generator.uniform jitter.low jitter.high g

/-- Samples one after the other, `left` more of them; `drawn` are those before
them, the last one first. The first sample that cannot be drawn ends it. -/
def drawMore (jitter : Jitter α) : Nat → List α → γ → Option (List α) × γ
  | 0, drawn, g => (some drawn.reverse, g)
  | left + 1, drawn, g =>
    match jitter.draw g with
    | (none, g) => (none, g)
    | (some sample, g) => drawMore jitter left (sample :: drawn) g

/-- Samples one after the other. -/
def draws (jitter : Jitter α) (count : Nat) (g : γ) : Option (List α) × γ :=
  drawMore jitter count [] g

end Jitter
end Arbor
