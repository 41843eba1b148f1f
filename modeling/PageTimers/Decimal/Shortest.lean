/-
# The fewest digits that read back

`Binary64.shortest` gives the decimal `c · 10 ^ k` with the fewest digits
among those that round to a given double, and of those the nearest.  For
1, 2, … 17 digits it looks at the value's two neighbours on the grid of
decimals with that many digits, in exact arithmetic: if any point of a grid
rounds to the double, one of the two neighbours does, so the first grid with
a hit has the fewest digits.
-/
import PageTimers.Decimal.Binary64

namespace PageTimers

/-- The decimal `digits · 10 ^ exponent`. -/
structure Decimal where
  digits : Nat
  exponent : Int
deriving DecidableEq, Repr, Inhabited

namespace Decimal

/-- Compare `d` with `m · 2 ^ q`. -/
def compareBinary (d : Decimal) (m : Nat) (q : Int) : Ordering :=
  compare (d.digits * Nat.pow 10 d.exponent.toNat * Nat.pow 2 (-q).toNat)
    (m * Nat.pow 2 q.toNat * Nat.pow 10 (-d.exponent).toNat)

/-- Drop the trailing zeros of the digits, at most `fuel` of them. -/
def trim : Nat → Decimal → Decimal
  | 0, d => d
  | fuel + 1, d =>
    if d.digits % 10 = 0 ∧ d.digits ≠ 0 then trim fuel ⟨d.digits / 10, d.exponent + 1⟩ else d

/-- `⌊m · 2 ^ q / 10 ^ k⌋` -/
def floorAt (m : Nat) (q k : Int) : Nat :=
  (m * Nat.pow 2 q.toNat * Nat.pow 10 (-k).toNat) / (Nat.pow 2 (-q).toNat * Nat.pow 10 k.toNat)

/-- The decimal exponent `e` with `10 ^ e ≤ m · 2 ^ q < 10 ^ (e + 1)`, from an
estimate that is off by at most one in either direction. -/
def leadingExponent (m : Nat) (q : Int) : Int :=
  let estimate := ((m.log2 : Int) + q) * 30103 / 100000
  let adjust (e : Int) : Int :=
    if compareBinary ⟨1, e⟩ m q == .gt then e - 1
    else if compareBinary ⟨1, e + 1⟩ m q != .gt then e + 1
    else e
  adjust (adjust estimate)

end Decimal

namespace Binary64

/-- Whether `d` rounds to the finite double of mantissa `m` and exponent `q`:
between the midpoints to its neighbours, which themselves count iff the
mantissa is even.  Just above a power of two the lower neighbour is half as
far away. -/
def roundsTo (m : Nat) (q : Int) (d : Decimal) : Bool :=
  let even := m % 2 = 0
  let below :=
    if m = Nat.pow 2 52 ∧ -1074 < q then d.compareBinary (4 * m - 1) (q - 2)
    else d.compareBinary (2 * m - 1) (q - 1)
  let above := d.compareBinary (2 * m + 1) (q - 1)
  (below == .gt || (even && below == .eq)) && (above == .lt || (even && above == .eq))

/-- The better of the two grid neighbours of `m · 2 ^ q` with unit
`10 ^ k`, if one of them rounds to it. -/
def neighbour? (m : Nat) (q k : Int) : Option Decimal :=
  let c := Decimal.floorAt m q k
  let low : Decimal := ⟨c, k⟩
  let high : Decimal := ⟨c + 1, k⟩
  match roundsTo m q low, roundsTo m q high with
  | false, false => none
  | true, false => some low
  | false, true => some high
  | true, true =>
    -- the side of the midpoint of the two that the value lies on
    match Decimal.compareBinary ⟨2 * c + 1, k⟩ m (q + 1) with
    | .gt => some low
    | .lt => some high
    | .eq => some (if c % 2 = 0 then low else high)

/-- The first grid with a hit, from `n` digits on. -/
def shortestFrom (m : Nat) (q lead : Int) : (fuel n : Nat) → Decimal
  | 0, n => ⟨Decimal.floorAt m q (lead - n + 1), lead - n + 1⟩
  | fuel + 1, n =>
    match neighbour? m q (lead - n + 1) with
    | some d => d
    | none => shortestFrom m q lead fuel (n + 1)

/-- The shortest decimal that rounds to the magnitude of a finite double. -/
def shortest (x : Binary64) : Decimal :=
  if x.isZero then ⟨0, 0⟩
  else
    let lead := Decimal.leadingExponent x.mantissa x.exponent
    (shortestFrom x.mantissa x.exponent lead 17 1).trim 20

end Binary64

end PageTimers
