/-!
# Counts

A count is a natural number that a word of sixty-four bits holds.  Sums of counts are
exact; one that no word holds is not answered.
-/

namespace PoolHealth
namespace Count

/-- The first number that is too large for a count. -/
def limit : Nat := UInt64.size

def total (counts : List Nat) : Nat := counts.foldr (· + ·) 0

/-- The sum of counts, if it is a count. -/
def sum? (counts : List Nat) : Option Nat :=
  if total counts < limit then some (total counts) else none

end Count
end PoolHealth
