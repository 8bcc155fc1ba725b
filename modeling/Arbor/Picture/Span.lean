/-
# The span of an axis

An axis of a picture shows the numbers from one end of its span to the other.
It follows what is drawn: the span of the data is opened if its ends nearly
meet, gets a margin, and is padded for the frame. Room that would be infinite
is not given, and a span with an end that is not finite is opened about zero,
so that only the last padding can make an end infinite.

Key definitions: `Span`, `Span.padded`, `Span.opened`, `Span.framed`.
-/
import Arbor.Scalar

namespace Arbor

/-- What an axis shows. -/
structure Span (α : Type) where
  low : α
  high : α

namespace Span

variable {α : Type} [Scalar α]

/-- Whether both ends are finite. -/
def finite (s : Span α) : Bool := Scalar.finite s.low && Scalar.finite s.high

/-- The distance between the ends. -/
def length (s : Span α) : α := s.high - s.low

/-- Both ends moved out by a share of the length, if that is finite. -/
def padded (share : α) (s : Span α) : Span α :=
  let room := s.length * share
  if Scalar.finite room then ⟨s.low - room, s.high + room⟩ else s

/-- A span with some room between its ends: from `-room` to `room` if its ends
are not finite or both are next to zero; with each end moved out by `room`
times its distance from zero if the ends are closer than `closeness` times
that distance. -/
def opened (room closeness : α) (s : Span α) : Span α :=
  let size := Scalar.greatest (Scalar.magnitude s.low) (Scalar.magnitude s.high)
  if !s.finite || decide (size < 1e6 / closeness * 2.2250738585072014e-308) then ⟨-room, room⟩
  else if s.length ≤ size * closeness then
    ⟨s.low - room * Scalar.magnitude s.low, s.high + room * Scalar.magnitude s.high⟩
  else s

/-- What an axis shows of the span of its data, with or without a margin. -/
def framed (margin : Bool) (data : Span α) : Span α :=
  let inner := data.opened 0.05 1e-15
  let outer := if margin then inner.padded 0.05 else inner
  (outer.opened 1e-12 1e-13).padded (1.0 / 48.0)

end Span
end Arbor
