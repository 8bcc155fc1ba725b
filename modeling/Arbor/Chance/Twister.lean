/-
# The twister

A twisted generalised feedback shift register of 624 words of 32 bits (period
`2 ^ 19937 - 1`). The words are spread from the key, which is the magnitude
of the seed cut into words of 32 bits, the least one first. When all words
have been handed out they are twisted into 624 new ones; a word is tempered
as it is handed out.

A unit scalar has the 53 leading bits of two words. A number below `n` is the
first draw of as many bits as `n` has that is below `n`.

Key definitions: `Twister`, `Twister.ofSeed`, `Twister.next`, `Twister.unit`,
`Twister.below`.
-/
import Arbor.Chance.Generator

namespace Arbor

/-- The state of the twister. -/
structure Twister where
  words : Array UInt32
  /-- How many of the words have been handed out. -/
  used : Nat

namespace Twister

open scoped Power

/-- How many words the state has. -/
def count : Nat := 624

/-- The word at a position, which counts on from the start after the end. -/
def word (words : Array UInt32) (i : Nat) : UInt32 := words.getD (i % count) 0

/-! ### Seeding -/

/-- Words that follow each other from one number, `left` more of them. -/
def spread : Nat → UInt32 → Array UInt32 → Array UInt32
  | 0, _, words => words
  | left + 1, last, words =>
    let next := (1812433253 : UInt32) * (last ^^^ (last >>> 30)) + UInt32.ofNat words.size
    spread left next (words.push next)

/-- The position after `i` while the words are mixed: the first one is left
out. -/
def after (i : Nat) : Nat := if i + 1 < count then i + 1 else 1

/-- A word put at position `i`. The first word is a copy of the last one, so
that it can stand in front of the second one when the mixing comes round. -/
def settle (words : Array UInt32) (i : Nat) (w : UInt32) : Array UInt32 :=
  let words := words.setIfInBounds i w
  if i + 1 < count then words else words.setIfInBounds 0 w

/-- A word mixed with its predecessor, multiplied. -/
def mixture (factor : UInt32) (words : Array UInt32) (i : Nat) : UInt32 :=
  let before := word words (i - 1)
  word words i ^^^ ((before ^^^ (before >>> 30)) * factor)

/-- Mixes the key into the words, starting at word `i` and at place `j` of the
key. -/
def mixKey (key : Array UInt32) : Nat → Nat → Nat → Array UInt32 → Nat × Array UInt32
  | 0, i, _, words => (i, words)
  | left + 1, i, j, words =>
    let mixed := mixture 1664525 words i + key.getD j 0 + UInt32.ofNat j
    mixKey key left (after i) (if j + 1 < key.size then j + 1 else 0) (settle words i mixed)

/-- Mixes the words with each other, starting at word `i`. -/
def mixWords : Nat → Nat → Array UInt32 → Array UInt32
  | 0, _, words => words
  | left + 1, i, words =>
    let mixed := mixture 1566083941 words i - UInt32.ofNat i
    mixWords left (after i) (settle words i mixed)

/-- The twister that a key stands for. -/
def ofKey (key : Array UInt32) : Twister :=
  let start := spread (count - 1) 19650218 #[19650218]
  let (i, words) := mixKey key (max count key.size) 1 0 start
  ⟨(mixWords (count - 1) i words).setIfInBounds 0 0x80000000, count⟩

/-- A number cut into words of 32 bits, the least one first; zero gives one
word. -/
def keyOf (n : Nat) : List UInt32 :=
  if n < 2 ^ 32 then [UInt32.ofNat n] else UInt32.ofNat (n % 2 ^ 32) :: keyOf (n / 2 ^ 32)
termination_by n
decreasing_by exact Nat.div_lt_self (by omega) (by decide)

/-- The twister that a seed stands for; its sign does not matter. -/
def ofSeed (seed : Int) : Twister := ofKey (keyOf seed.natAbs).toArray

/-! ### Drawing -/

/-- One word of the next state: the leading bit of a word and the other bits
of the one after it, shifted, and a word further on. -/
def twisted (words : Array UInt32) (i : Nat) : UInt32 :=
  let y := (word words i &&& 0x80000000) ||| (word words (i + 1) &&& 0x7FFFFFFF)
  word words (i + 397) ^^^ (y >>> 1) ^^^ (if y &&& 1 = 0 then 0 else 0x9908B0DF)

/-- Twists the last `left` words, each of them in its place. -/
def twist : Nat → Array UInt32 → Array UInt32
  | 0, words => words
  | left + 1, words =>
    let i := count - (left + 1)
    twist left (words.setIfInBounds i (twisted words i))

/-- The bits of a word, stirred before it is handed out. -/
def tempered (y : UInt32) : UInt32 :=
  let y := y ^^^ (y >>> 11)
  let y := y ^^^ ((y <<< 7) &&& 0x9D2C5680)
  let y := y ^^^ ((y <<< 15) &&& 0xEFC60000)
  y ^^^ (y >>> 18)

/-- The next word. -/
def next (t : Twister) : UInt32 × Twister :=
  let ⟨words, used⟩ := t
  if used < count then (tempered (word words used), ⟨words, used + 1⟩)
  else
    let words := twist count words
    (tempered (word words 0), ⟨words, 1⟩)

/-- A scalar of the unit interval: 27 bits of one word and 26 of the next one,
divided by `2 ^ 53`. -/
def unit (t : Twister) : Float × Twister :=
  let (a, t) := t.next
  let (b, t) := t.next
  let whole := (a >>> 5).toUInt64 * (67108864 : UInt64) + (b >>> 6).toUInt64
  (whole.toFloat / 9007199254740992.0, t)

/-- A number of `k` bits: the leading bits of one word, or several words, the
least one first. -/
def bits (k : Nat) (t : Twister) : Nat × Twister :=
  let (w, t) := t.next
  if k ≤ 32 then ((w >>> UInt32.ofNat (32 - k)).toNat, t)
  else
    let (rest, t) := bits (k - 32) t
    (w.toNat + 2 ^ 32 * rest, t)
termination_by k
decreasing_by omega

/-- The first draw of `k` bits that is below `n`; none, if the draws never come
to one. -/
def firstBelow (n k : Nat) (t : Twister) : Option (Fin n × Twister) :=
  let (r, t) := t.bits k
  if h : r < n then some (⟨r, h⟩, t) else t |>.firstBelow n k
partial_fixpoint

/-- A number below `n`. At least every other number of as many bits as `n` has is
below it, and drawing goes on for as long as it takes; zero stands for a number
that would never come. -/
def below (n : Nat) (pos : 0 < n) (t : Twister) : Fin n × Twister :=
  (t.firstBelow n (n.log2 + 1)).getD (⟨0, pos⟩, t)

instance : Generator Twister Float where
  seeded := ofSeed
  unit := unit
  below := below

end Twister
end Arbor
