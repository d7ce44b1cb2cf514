import EventNet.Number.Double

/-!
The shortest decimal that reads back as a given double.

A double `m · 2 ^ e` is what every real number of a certain interval around it rounds to, the ends
of the interval included exactly when `m` is even.  On a grid of decimals `d · 10 ^ k` the points of
the interval nearest to the double are its two neighbours on the grid, so grids are tried from the
coarsest to finer ones and the first that has a neighbour inside the interval gives the fewest
digits.  Of two such neighbours the nearer is taken; an exact tie is the caller's decision.
-/

namespace EventNet.Shortest

/-- What happens when two decimals of the same length are equally near. -/
inductive Tie where
  /-- The greater in magnitude. -/
  | away
  /-- The one whose last digit is even. -/
  | toEven
  deriving DecidableEq, Repr

/-- A positive decimal `digits · 10 ^ exponent`. -/
structure Decimal where
  digits : Nat
  exponent : Int
  deriving DecidableEq, Repr

/-- The interval of reals that round to a double, in units of a quarter of its last place. -/
structure Interval where
  low : Nat
  middle : Nat
  high : Nat
  closed : Bool
  /-- The binary exponent of one unit. -/
  unit : Int

/-- The interval of `m · 2 ^ e`.  Below the first significand of a binade doubles are twice as
dense, so there the lower half is half as wide. -/
def Interval.of (m : Nat) (e : Int) : Interval where
  low := if m == Nat.pow 2 52 && e != -1074 then 4 * m - 1 else 4 * m - 2
  middle := 4 * m
  high := 4 * m + 2
  closed := m % 2 == 0
  unit := e - 2

/-- Positive powers go to the left of a comparison, negative ones to the right. -/
def powerPair (base : Nat) (k : Int) : Nat × Nat :=
  (Nat.pow base k.toNat, Nat.pow base (-k).toNat)

/-- The neighbour of the middle of an interval on the grid of multiples of `10 ^ k`, if one lies
inside. -/
def neighbour? (tie : Tie) (i : Interval) (k : Int) : Option Nat :=
  let (tenUp, tenDown) := powerPair 10 k
  let (twoUp, twoDown) := powerPair 2 i.unit
  let grid := tenUp * twoDown
  let scale := twoUp * tenDown
  let middle := i.middle * scale
  let inside (d : Nat) : Bool :=
    let x := d * grid
    if i.closed then i.low * scale ≤ x && x ≤ i.high * scale
    else i.low * scale < x && x < i.high * scale
  let below := middle / grid
  let above := below + 1
  match inside below, inside above with
  | true, true =>
    let down := middle - below * grid
    let up := above * grid - middle
    if down < up then some below
    else if up < down then some above
    else match tie with
      | .away => some above
      | .toEven => some (if below % 2 == 0 then below else above)
  | true, false => some below
  | false, true => some above
  | false, false => none

/-- The first of `fuel` grids, from `10 ^ k` downward, that has a neighbour inside. -/
def search (tie : Tie) (i : Interval) : (fuel : Nat) → (k : Int) → Decimal
  | 0, k => ⟨0, k⟩
  | fuel + 1, k =>
    match neighbour? tie i k with
    | some d => ⟨d, k⟩
    | none => search tie i fuel (k - 1)

/-- The shortest decimal that rounds to `m · 2 ^ e`.  Seventeen digits always suffice, and the first
grid tried is at most three powers of ten above the number. -/
def decimal (tie : Tie) (m : Nat) (e : Int) : Decimal :=
  let bits : Int := m.log2 + 1 + e
  search tie (.of m e) 24 (bits * 30103 / 100000 + 2)

end EventNet.Shortest
