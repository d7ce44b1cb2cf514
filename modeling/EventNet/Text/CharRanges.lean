/-!
Classes of characters given as sorted ranges of code points.

A class of a published character database is written down as the list of its maximal ranges in
increasing order.  Membership walks the list and stops at the first range that lies beyond the
character, so a character of the ASCII block is settled by the first few ranges.
-/

namespace EventNet.Text

/-- Ranges of code points, both ends included, in increasing order. -/
abbrev CharRanges := List (Nat × Nat)

namespace CharRanges

/-- Whether a code point lies in one of the ranges. -/
def holds : CharRanges → Nat → Bool
  | [], _ => false
  | (low, high) :: rest, n => if n < low then false else n ≤ high || holds rest n

/-- Whether a character lies in one of the ranges. -/
def contains (ranges : CharRanges) (c : Char) : Bool :=
  ranges.holds c.toNat

end CharRanges

end EventNet.Text
