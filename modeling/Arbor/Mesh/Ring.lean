/-
# Rings

A ring is a number of vertices spread evenly round a circle. Between a ring
and the one that follows it in the list of vertices lie as many four-sided
gaps as a ring has vertices; each is closed by two triangles. The first
triangles of all gaps come before the second ones.

How many vertices a ring can have depends on what counts them, so the counter is
a parameter of all that is made of rings: `Ring.Counter.unlimited` counts any
number, `Ring.Counter.inWords` as far as words of 64 bits and the room that there
is go.

Key definitions: `Ring.next`, `Ring.wall`, `Ring.Counter`, `Ring.Counter.Counts`,
`Ring.wallFrom`, `Ring.turns`.
Key theorems: `Ring.Counter.counts_unlimited`, `Ring.Counter.counts_inWords_iff`,
`Ring.wrapped_of_isWord`.
-/
import Arbor.Mesh.Basic

namespace Arbor
namespace Ring

open scoped Power

/-- The vertex after `i` on a ring. -/
def next (sections i : Nat) : Nat := (i + 1) % sections

/-- The first triangle of gap `i`. -/
def lower (sections i : Nat) : Face Nat := ⟨i, sections + i, next sections i⟩

/-- The second triangle of gap `i`. -/
def upper (sections i : Nat) : Face Nat :=
  ⟨next sections i, sections + i, sections + next sections i⟩

/-- The faces between the ring of the first vertices and the one after it. -/
def wall (sections : Nat) : List (Face Nat) :=
  (List.range sections).map (lower sections) ++ (List.range sections).map (upper sections)

/-! ### Counting the vertices of a ring -/

/-- A way to count the vertices of a ring that should have a number of them. It
may give up, and it may count none, but it never counts another number. -/
structure Counter where
  count : Int → Except CountFault Nat
  faithful : ∀ {sections : Int} {n : Nat}, count sections = .ok n → n = sections.toNat ∨ n = 0

namespace Counter

/-- A number of vertices is counted as what it is. -/
def Counts (counter : Counter) (sections : Int) : Prop :=
  counter.count sections = .ok sections.toNat

/-- The counter that counts every number. -/
def unlimited : Counter where
  count sections := .ok sections.toNat
  faithful h := Or.inl (Except.ok.inj h).symm

theorem counts_unlimited (sections : Int) : unlimited.Counts sections := rfl

/-! A machine counts in words of 64 bits, after the number has been rounded as a
floating-point number is. -/

/-- The greatest number that is still counted in words: rounded, it is one above
them. -/
def mostSections : Int := 2 ^ 63 + 2 ^ 10

/-- The least number that is still counted: rounded, it is the least word. -/
def leastSections : Int := -2 ^ 63 - 2 ^ 10

/-- The least number that is rounded beyond the words; counting goes on from
the greatest word at the least one. -/
def roundedBeyond : Int := 2 ^ 63 - 2 ^ 9

/-- The least number that is rounded to `2 ^ 60`, which are more vertices than
any list can hold. -/
def uncounted : Int := 2 ^ 60 - 2 ^ 6

/-- How many vertices are counted in words where there is room for fewer than
`room` of them: none if there should be less than none, be it from the beginning
or after rounding. -/
def countInWords (room sections : Int) : Except CountFault Nat :=
  if sections < leastSections ∨ mostSections < sections then .error .tooMany
  else if roundedBeyond ≤ sections then .ok 0
  else if uncounted ≤ sections then .error .tooMany
  else if room ≤ sections then .error .noRoom
  else .ok sections.toNat

theorem eq_of_countInWords {room sections : Int} {n : Nat}
    (h : countInWords room sections = .ok n) : n = sections.toNat ∨ n = 0 := by
  unfold countInWords at h
  split at h
  · cases h
  split at h
  · exact Or.inr (Except.ok.inj h).symm
  split at h
  · cases h
  split at h
  · cases h
  · exact Or.inl (Except.ok.inj h).symm

/-- The counter of a machine with some room. -/
def inWords (room : Int) : Counter := ⟨countInWords room, eq_of_countInWords⟩

/-- Where there is less room than words can count, a machine counts the numbers
of vertices that it has room for. -/
theorem counts_inWords_iff {room : Int} (narrow : room ≤ uncounted) (n : Nat) :
    (inWords room).Counts (Int.ofNat n) ↔ Int.ofNat n < room := by
  show countInWords room (Int.ofNat n) = .ok n ↔ _
  by_cases fits : Int.ofNat n < room
  · have held : Int.ofNat n < uncounted := Int.lt_of_lt_of_le fits narrow
    have counted : ¬(Int.ofNat n < leastSections ∨ mostSections < Int.ofNat n) := by
      simp only [leastSections, mostSections, uncounted, Int.ofNat_eq_natCast] at held ⊢
      omega
    have rounded : ¬roundedBeyond ≤ Int.ofNat n := by
      simp only [roundedBeyond, uncounted] at held ⊢
      omega
    rw [countInWords, if_neg counted, if_neg rounded, if_neg (Int.not_le.2 held),
      if_neg (Int.not_le.2 fits)]
    exact ⟨fun _ => fits, fun _ => rfl⟩
  · refine ⟨fun h => ?_, fun h => absurd h fits⟩
    unfold countInWords at h
    rw [if_pos (Int.not_lt.1 fits)] at h
    split at h
    · cases h
    split at h
    · rename_i beyond
      -- none are counted, although there should be some
      obtain rfl := Except.ok.inj h
      exact absurd beyond (by decide)
    split at h <;> cases h

/-- The counter of a machine that has room for fewer than `2 ^ 27` vertices on a
ring. -/
def machine : Counter := inWords (2 ^ 27)

/-- A ring with a moderate number of vertices. -/
theorem counts_machine {n : Nat} (h : n < 2 ^ 27) : machine.Counts (Int.ofNat n) := by
  refine (counts_inWords_iff (by decide) n).2 ?_
  rw [Int.ofNat_eq_natCast]
  omega

end Counter

/-! ### Rings anywhere in a list

The place of the first vertex of a ring may be any word of 64 bits, also a
negative one. The places after it go on from the greatest word at the least
one; only the first places of the two rings have to be words themselves. -/

/-- Why there is no wall between two rings. -/
inductive Fault where
  /-- The first place of a ring cannot be reckoned with. -/
  | place
  | count (fault : CountFault)
  deriving DecidableEq, Repr

/-- The wording of a fault. -/
def Fault.message : Fault → String
  | place => "the first place of a ring cannot be reckoned with"
  | count fault => fault.message

/-- Whether a number is a word of 64 bits, one of which is for the sign. -/
def isWord (n : Int) : Bool := decide (-2 ^ 63 ≤ n) && decide (n < 2 ^ 63)

/-- The word that a number is counted as. -/
def wrapped (n : Int) : Int := n.bmod (2 ^ 64)

/-- A number that is a word is counted as itself. -/
theorem wrapped_of_isWord {n : Int} (h : isWord n = true) : wrapped n = n := by
  simp only [isWord, Bool.and_eq_true, decide_eq_true_eq] at h
  exact Int.bmod_eq_of_le (by omega) (by omega)

/-- Whether rings of `sections` vertices can have their first places at `base`
and the place after the ring from there: both are words. If the number of
vertices is above every word, it is enough that there are floating-point
numbers next to them; if it is below every word, they do not matter. -/
def isPlace (base sections : Int) : Bool :=
  let next := base + sections
  if sections < -2 ^ 63 then true
  else if sections < 2 ^ 63 then isWord base && isWord next
  else (Binary.ofRatio? base 1).isSome && (Binary.ofRatio? next 1).isSome

/-- The faces between the ring that starts at `base` and the one after it;
none if a ring has no vertices. -/
def wallFrom (base sections : Int) (counter : Counter := .machine) :
    Except Fault (List (Face Int)) :=
  match counter.count sections with
  | .error fault => .error (.count fault)
  | .ok vertices =>
    if isPlace base sections then
      .ok ((wall vertices).map (Face.map fun i => wrapped (base + Int.ofNat i)))
    else .error .place

variable {α : Type} [Scalar α]

/-- The cosine and the sine of the angle of every vertex of a ring. -/
def turns (sections : Nat) : List (α × α) :=
  (List.range sections).map fun i =>
    let angle := 2.0 * Scalar.pi * Scalar.ofNat i / Scalar.ofNat sections
    (Scalar.cos angle, Scalar.sin angle)

end Ring
end Arbor
