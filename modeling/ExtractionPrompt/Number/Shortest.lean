import ExtractionPrompt.Number.Binary64

/-!
The fewest decimal digits that read back as a given value, and of those the nearest to it.
-/

namespace ExtractionPrompt.Number

/-- How a value halfway between two candidates of the same length is settled. -/
inductive Tie where
  | toEven
  | upward
  deriving DecidableEq, Repr

/-- `0.d₁d₂…` scaled: the digits of a value without trailing zeros, and the decimal exponent of the
first of them. -/
structure Digits where
  digits : List Char
  exponent : Int
  deriving DecidableEq, Repr

/-- The values that round to a magnitude, as numerators over one denominator; the ends belong to the
interval exactly when the significand is even. -/
structure RoundingInterval where
  low : Nat
  value : Nat
  high : Nat
  denominator : Nat
  closed : Bool

namespace Binary64

/-- Below a power of two the neighbours are half as far apart as above it. -/
def roundingInterval (x : Binary64) : RoundingInterval :=
  let below := if x.significand = Nat.pow 2 52 ∧ 0 < x.scale then 1 else 2
  { low := (4 * x.significand - below) * Nat.pow 2 x.scale
    value := 4 * x.significand * Nat.pow 2 x.scale
    high := (4 * x.significand + 2) * Nat.pow 2 x.scale
    denominator := 4 * Nat.pow 2 1074
    closed := x.significand % 2 == 0 }

end Binary64

namespace RoundingInterval

/-- Whether `num / den` rounds to the value. -/
def contains (r : RoundingInterval) (num den : Nat) : Bool :=
  if r.closed then
    r.low * den ≤ num * r.denominator && num * r.denominator ≤ r.high * den
  else r.low * den < num * r.denominator && num * r.denominator < r.high * den

/-- The exponent `e` with `10 ^ e ≤ value < 10 ^ (e + 1)`, for a value above zero. -/
def decimalExponent (r : RoundingInterval) : Int :=
  let whole := r.value / r.denominator
  if 0 < whole then ((Nat.toDigits 10 whole).length : Int) - 1
  else
    let reciprocal := (r.denominator + r.value - 1) / r.value
    Int.negOfNat (Nat.toDigits 10 (reciprocal - 1)).length

/-- The better of the two multiples of `10 ^ power` around the value, if one rounds to it, as its
count of steps. -/
def onGrid? (r : RoundingInterval) (tie : Tie) (power : Int) : Option Nat :=
  let up := Nat.pow 10 power.toNat
  let down := Nat.pow 10 (-power).toNat
  let lower := r.value * down / (r.denominator * up)
  let remainder := r.value * down % (r.denominator * up)
  match r.contains (lower * up) down, r.contains ((lower + 1) * up) down with
  | true, true =>
    let twice := 2 * remainder
    let step := r.denominator * up
    if twice < step then some lower
    else if step < twice then some (lower + 1)
    else
      match tie with
      | .toEven => some (if lower % 2 = 0 then lower else lower + 1)
      | .upward => some (lower + 1)
  | true, false => some lower
  | false, true => some (lower + 1)
  | false, false => none

/-- The first grid with a hit, from the coarsest on; seventeen digits always suffice. -/
def search (r : RoundingInterval) (tie : Tie) (first : Int) : Nat → Nat → Nat × Int
  | 0, _ => (0, 0)
  | fuel + 1, count =>
    let power := first - (count : Int) + 1
    match r.onGrid? tie power with
    | some steps => (steps, power)
    | none => search r tie first fuel (count + 1)

end RoundingInterval

def dropTrailingZeros (ds : List Char) : List Char :=
  (ds.reverse.dropWhile (· == '0')).reverse

/-- Zero is the digit `0`. -/
def Binary64.shortest (x : Binary64) (tie : Tie) : Digits :=
  if x.isZero then ⟨['0'], 0⟩
  else
    let r := x.roundingInterval
    let (steps, power) := r.search tie r.decimalExponent 17 1
    let ds := Nat.toDigits 10 steps
    ⟨dropTrailingZeros ds, power + ((ds.length : Int) - 1)⟩

end ExtractionPrompt.Number
