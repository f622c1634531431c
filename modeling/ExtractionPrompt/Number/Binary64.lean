/-!
Finite binary64 values as exact dyadic rationals, rounding of a ratio to the nearest of them, and
reading of decimal numerals.  No machine float is involved: every step is arithmetic on natural
numbers.
-/

namespace ExtractionPrompt.Number

/-- A significand is below `2 ^ 53`, and fills its 53 bits unless the value is on the smallest
scale. -/
def Canonical (significand scale : Nat) : Prop :=
  significand < Nat.pow 2 53 ∧ (scale = 0 ∨ Nat.pow 2 52 ≤ significand) ∧ scale ≤ 2045

instance (significand scale : Nat) : Decidable (Canonical significand scale) := by
  unfold Canonical; infer_instance

/-- The value is `significand * 2 ^ scale / 2 ^ 1074`, with a sign that zero has too. -/
structure Binary64 where
  negative : Bool
  significand : Nat
  scale : Nat
  canonical : Canonical significand scale
  deriving DecidableEq

namespace Binary64

def zero : Binary64 := ⟨false, 0, 0, by decide⟩

def isZero (x : Binary64) : Bool := x.significand == 0

def negate (x : Binary64) : Binary64 := { x with negative := !x.negative }

/-- The magnitude in units of `2 ^ -1074`. -/
def units (x : Binary64) : Nat := x.significand * Nat.pow 2 x.scale

/-- The integer nearest to `num / den`; a half goes to the even neighbour. -/
def roundHalfEven (num den : Nat) : Nat :=
  let quotient := num / den
  let twice := 2 * (num % den)
  if twice < den ∨ (twice = den ∧ quotient % 2 = 0) then quotient else quotient + 1

/-- The nearest magnitude to `num / den`, ties to the even significand; none when it is beyond the
largest. -/
def nearest? (num den : Nat) : Option Binary64 :=
  let scale := Nat.log2 (num * Nat.pow 2 1074 / den) - 52
  let significand := roundHalfEven (num * Nat.pow 2 1074) (den * Nat.pow 2 scale)
  let (significand, scale) :=
    if significand = Nat.pow 2 53 then (Nat.pow 2 52, scale + 1) else (significand, scale)
  if h : Canonical significand scale then some ⟨false, significand, scale, h⟩ else none

def ofNat? (n : Nat) : Option Binary64 := nearest? n 1

def ofInt? (n : Int) : Option Binary64 :=
  let magnitude := ofNat? n.natAbs
  if n < 0 then magnitude.map negate else magnitude

def mul? (x y : Binary64) : Option Binary64 :=
  nearest? (x.units * y.units) (Nat.pow 2 1074 * Nat.pow 2 1074)

/-- The divisor is not zero. -/
def div? (x y : Binary64) : Option Binary64 := nearest? x.units y.units

/-- The largest exponent at which a power of ten has a nearest value. -/
def lastPower : Nat := 308

def powerOfTen? (exponent : Nat) : Option Binary64 := ofNat? (Nat.pow 10 exponent)

/-- Divides by a power of ten, in steps of the largest one, rounding after each. -/
def shrink? (x : Binary64) (exponent : Nat) : Option Binary64 :=
  if _small : exponent ≤ lastPower then do x.div? (← powerOfTen? exponent)
  else if x.isZero then some x
  else do
    let y ← x.div? (← powerOfTen? lastPower)
    shrink? y (exponent - lastPower)
termination_by exponent
decreasing_by unfold lastPower at *; omega

/-- The reading of `significand * 10 ^ exponent`.  The significand is rounded first and its product
or quotient with the power of ten once more, so the result may be a neighbour of the nearest
value. -/
def ofDecimal? (significand : Nat) (exponent : Int) : Option Binary64 := do
  let x ← ofNat? significand
  match exponent with
  | .ofNat e =>
    if e ≤ lastPower then x.mul? (← powerOfTen? e)
    else if x.isZero then some x
    else none
  | .negSucc e => x.shrink? (e + 1)

end Binary64

end ExtractionPrompt.Number
