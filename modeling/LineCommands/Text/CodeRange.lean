/-!
# Sets of code points

A class of characters is given by the ranges of code points that it covers. The ranges are kept as
one ascending array of bounds, `#[lo₀, hi₀, lo₁, hi₁, …]`, where `lo` is the first code point of a
range and `hi` the first one after it. A code point then lies in the set exactly when the number of
bounds at or below it is odd, and that number is found by halving.
-/

namespace LineCommands.Text

/-- A set of code points, as the ascending bounds of its ranges. -/
structure CodeRanges where
  /-- First code point of a range, first code point after it, and so on. -/
  bounds : Array Nat

namespace CodeRanges

/-- The number of bounds among `lo … hi - 1` that do not exceed `n`, added to `lo`, for ascending
bounds; `fuel` is the number of halvings allowed. -/
def rankIn (bounds : Array Nat) (n : Nat) : (fuel lo hi : Nat) → Nat
  | 0, lo, _ => lo
  | fuel + 1, lo, hi =>
    if lo < hi then
      let mid := (lo + hi) / 2
      if bounds.getD mid 0 ≤ n then rankIn bounds n fuel (mid + 1) hi
      else rankIn bounds n fuel lo mid
    else lo

/-- The number of bounds that do not exceed `n`. Every halving at least halves the interval, so one
more step than the binary length of the array is enough. -/
def rank (s : CodeRanges) (n : Nat) : Nat :=
  rankIn s.bounds n (s.bounds.size.log2 + 2) 0 s.bounds.size

/-- The set contains the code point `n`. -/
def contains (s : CodeRanges) (n : Nat) : Bool := s.rank n % 2 == 1

end CodeRanges

end LineCommands.Text
