import ExtractionPrompt.Number.Shortest

/-!
How the digits of a value are laid out: with the decimal point in place, or with an exponent.
-/

namespace ExtractionPrompt.Number

structure Layout where
  positional : Int → Bool
  pointZero : Bool
  tie : Tie

/-- Numbers in documents keep a fraction and take an exponent outside `1e-5` to `1e15`. -/
def Layout.document : Layout where
  positional := fun e => -5 ≤ e && e ≤ 15
  pointZero := true
  tie := .toEven

/-- Numbers in prose are written out, and whole ones without a fraction. -/
def Layout.prose : Layout where
  positional := fun _ => true
  pointZero := false
  tie := .upward

def zeros (n : Nat) : List Char := List.replicate n '0'

/-- The decimal point stands after the digit of exponent zero. -/
def positionalText (pointZero : Bool) (d : Digits) : List Char :=
  let fraction := if pointZero then ['.', '0'] else []
  match d.exponent with
  | .negSucc e => '0' :: '.' :: zeros e ++ d.digits
  | .ofNat e =>
    if d.digits.length ≤ e + 1 then d.digits ++ zeros (e + 1 - d.digits.length) ++ fraction
    else d.digits.take (e + 1) ++ '.' :: d.digits.drop (e + 1)

def exponentText (d : Digits) : List Char :=
  let sign := if d.exponent < 0 then '-' else '+'
  let power := 'e' :: sign :: Nat.toDigits 10 d.exponent.natAbs
  match d.digits with
  | [] => power
  | [lead] => lead :: power
  | lead :: rest => lead :: '.' :: rest ++ power

def Binary64.text (x : Binary64) (layout : Layout) : List Char :=
  let d := x.shortest layout.tie
  let magnitude :=
    if layout.positional d.exponent then positionalText layout.pointZero d else exponentText d
  if x.negative then '-' :: magnitude else magnitude

end ExtractionPrompt.Number
