/-
# Doubles as bit patterns

A double is held as its 64 bits.  Equality is then equality of bits (so
`0.0` and `-0.0` differ, and a value carried through unchanged is equal to
itself), and no operation leaves the logic: rounding is done on exact
naturals, and every result can be computed by the kernel.

`ofRatio` is the one place where a value is rounded: nearest, ties to the
even mantissa, past the largest finite double to infinity.
-/

namespace PageTimers

/-- A double, as its sign, exponent and fraction fields in one word. -/
structure Binary64 where
  bits : UInt64
deriving DecidableEq, Repr, Inhabited

namespace Binary64

/-- The sign bit; `-0.0` is negative. -/
def isNegative (x : Binary64) : Bool :=
  x.bits.toNat / Nat.pow 2 63 == 1

/-- The biased exponent, 0 for zero and the subnormals, 2047 for infinities
and NaN. -/
def exponentField (x : Binary64) : Nat :=
  x.bits.toNat / Nat.pow 2 52 % Nat.pow 2 11

/-- The 52 stored bits of the mantissa. -/
def fractionField (x : Binary64) : Nat :=
  x.bits.toNat % Nat.pow 2 52

/-- Neither an infinity nor NaN. -/
def isFinite (x : Binary64) : Bool :=
  x.exponentField < 2047

def isNaN (x : Binary64) : Bool :=
  x.exponentField == 2047 && x.fractionField != 0

/-- Either zero. -/
def isZero (x : Binary64) : Bool :=
  x.exponentField == 0 && x.fractionField == 0

/-- The integer mantissa `m` of a finite double `± m · 2 ^ exponent`. -/
def mantissa (x : Binary64) : Nat :=
  if x.exponentField = 0 then x.fractionField else x.fractionField + Nat.pow 2 52

/-- The binary exponent that goes with `mantissa`. -/
def exponent (x : Binary64) : Int :=
  if x.exponentField = 0 then -1074 else (x.exponentField : Int) - 1075

/-- Put the three fields together. -/
def ofFields (negative : Bool) (exponentField fractionField : Nat) : Binary64 :=
  ⟨UInt64.ofNat
    ((if negative then Nat.pow 2 63 else 0) + exponentField * Nat.pow 2 52 + fractionField)⟩

/-- The zero of the given sign. -/
def zero (negative : Bool) : Binary64 := ofFields negative 0 0

def infinity (negative : Bool) : Binary64 := ofFields negative 2047 0

/-- The quiet NaN. -/
def nan : Binary64 := ofFields false 2047 (Nat.pow 2 51)

/-- A double is put together from its fields. -/
theorem eq_ofFields (x : Binary64) :
    x = ofFields x.isNegative x.exponentField x.fractionField := by
  obtain ⟨bits⟩ := x
  have hlt := bits.toNat_lt
  refine congrArg mk (UInt64.toNat_inj.mp ?_)
  rw [UInt64.toNat_ofNat']
  simp only [isNegative, exponentField, fractionField, beq_iff_eq, Nat.pow_eq, Nat.reducePow]
  split <;> omega

/-- There are two zeros. -/
theorem isZero_iff {x : Binary64} : x.isZero = true ↔ ∃ negative, x = zero negative := by
  constructor
  · intro h
    obtain ⟨hexponent, hfraction⟩ : x.exponentField = 0 ∧ x.fractionField = 0 := by
      simpa [isZero] using h
    refine ⟨x.isNegative, x.eq_ofFields.trans ?_⟩
    rw [hexponent, hfraction, zero]
  · rintro ⟨negative, rfl⟩
    cases negative <;> rfl

/-- A NaN is neither finite nor one of the two infinities. -/
theorem isNaN_iff {x : Binary64} :
    x.isNaN = true ↔ x.isFinite = false ∧ ∀ negative, x ≠ infinity negative := by
  have hexponent : x.isFinite = false ↔ x.exponentField = 2047 := by
    have hle : x.exponentField < 2048 := Nat.mod_lt _ (by decide)
    rw [isFinite, decide_eq_false_iff_not]
    omega
  rw [hexponent, isNaN, Bool.and_eq_true, beq_iff_eq, bne_iff_ne]
  refine and_congr_right fun hlast => ⟨?_, fun h hfraction => ?_⟩
  · rintro hfraction negative rfl
    cases negative <;> exact hfraction rfl
  · refine h x.isNegative (x.eq_ofFields.trans ?_)
    rw [hlast, hfraction, infinity]

/-- `a / b` rounded to the nearest integer, a half to the even neighbour. -/
def divNearestEven (a b : Nat) : Nat :=
  let q := a / b
  let twice := 2 * (a % b)
  if twice < b then q
  else if b < twice then q + 1
  else if q % 2 = 0 then q else q + 1

/-- The binary logarithm of `a / b`, rounded down. -/
def log2Ratio (a b : Nat) : Int :=
  let k : Int := (a.log2 : Int) - b.log2
  if a * Nat.pow 2 (-k).toNat < b * Nat.pow 2 k.toNat then k - 1 else k

/-- The double nearest to `± a / b`, ties to even; `a` and `b` are positive. -/
def ofRatio (negative : Bool) (a b : Nat) : Binary64 :=
  let e := max (log2Ratio a b - 52) (-1074)
  let m := divNearestEven (a * Nat.pow 2 (-e).toNat) (b * Nat.pow 2 e.toNat)
  -- rounding may carry into the next binade
  let (m, e) := if m = Nat.pow 2 53 then (Nat.pow 2 52, e + 1) else (m, e)
  if m < Nat.pow 2 52 then ofFields negative 0 m
  else if e + 1075 < 2047 then ofFields negative (e + 1075).toNat (m - Nat.pow 2 52)
  else infinity negative

/-- The double nearest to `± digits · 10 ^ exponent`.  Decimal exponents far
outside the range of doubles are settled without computing the power. -/
def ofDecimal (negative : Bool) (digits : Nat) (exponent : Int) : Binary64 :=
  if digits = 0 then zero negative
  else
    let magnitude := exponent + (digits.log2 : Int) * 30103 / 100000
    if magnitude < -400 then zero negative
    else if 400 < magnitude then infinity negative
    else ofRatio negative (digits * Nat.pow 10 exponent.toNat) (Nat.pow 10 (-exponent).toNat)

end Binary64

end PageTimers
