/-
# Numbers with a fixed count of places

`Places.fixed` writes a floating-point number with a given number of digits
after the point, `Places.scientific` with one digit before the point and a
power of ten, and `Places.grouped` writes a whole number with a comma before
every third digit. The exact value is rounded once, a half going to the even
neighbour.

Key definitions: `Places.fixed`, `Places.scientific`, `Places.grouped`.
-/
import Arbor.Number.Shortest

namespace Arbor
namespace Places

open scoped Power

/-- The digits of `n`, with zeros in front up to `count` digits. -/
def padded (count n : Nat) : List Char :=
  let ds := (Nat.repr n).toList
  List.replicate (count - ds.length) '0' ++ ds

/-- A number of `10 ^ -places` parts, with a point before the last `places`
digits. -/
def pointed (places n : Nat) : String :=
  let ds := padded (places + 1) n
  let cut := ds.length - places
  String.ofList (ds.take cut) ++
    if places = 0 then "" else "." ++ String.ofList (ds.drop cut)

/-- The text of a number that is not finite. -/
def unbounded (negative : Bool) : String := if negative then "-inf" else "inf"

/-- A number with `places` digits after the point. -/
def fixed (places : Nat) (x : Float) : String :=
  match Binary.ofFloat x with
  | .nan => "nan"
  | .infinite negative => unbounded negative
  | .finite negative m e =>
    (if negative then "-" else "") ++
      pointed places (roundEven (Binary.numerator m e * 10 ^ places) (Binary.denominator e))

/-- A number as one digit, a point, `places` more digits and a power of ten. -/
def scientific (places : Nat) (x : Float) : String :=
  match Binary.ofFloat x with
  | .nan => "nan"
  | .infinite negative => unbounded negative
  | .finite negative m e =>
    let sign := if negative then "-" else ""
    if m = 0 then sign ++ pointed places 0 ++ "e" ++ Shortest.exponentText 0
    else
      let num := Binary.numerator m e
      let den := Binary.denominator e
      let power := Shortest.point num den - 1
      let g := power - Int.ofNat places
      let c := roundEven (num * 10 ^ (-g).toNat) (den * 10 ^ g.toNat)
      if c = 10 ^ (places + 1) then
        sign ++ pointed places (10 ^ places) ++ "e" ++ Shortest.exponentText (power + 1)
      else sign ++ pointed places c ++ "e" ++ Shortest.exponentText power

/-- Digits, last one first, with a comma after every third. -/
def groupReversed : List Char → List Char
  | a :: b :: c :: d :: rest => a :: b :: c :: ',' :: groupReversed (d :: rest)
  | ds => ds

/-- A whole number with a comma before every group of three digits. -/
def grouped (n : Nat) : String :=
  String.ofList (groupReversed (Nat.repr n).toList.reverse).reverse

end Places
end Arbor
