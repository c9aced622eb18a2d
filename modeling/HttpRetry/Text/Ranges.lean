/-!
# Sets of characters as ranges of code points

Classes of characters are long and come in runs, so a class is given by the first
and the last of each run.
-/

namespace HttpRetry

/-- Runs of code points, each by its first and its last member, in ascending order. -/
abbrev CodeRanges := List (Nat × Nat)

def CodeRanges.has (ranges : CodeRanges) (c : Char) : Bool :=
  ranges.any fun (first, last) => first ≤ c.toNat && c.toNat ≤ last

end HttpRetry
