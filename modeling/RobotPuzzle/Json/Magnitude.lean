import RobotPuzzle.Json.Value

/-! Numbers that are too large for a double. Their size is judged on the digits that fit a
64-bit word, scaled by a power of ten.
-/

namespace RobotPuzzle.Json

/-- A whole number times a power of ten. -/
structure Scaled where
  significand : Nat
  exponent : Int

/-- The significand with one more digit, if that fits a 64-bit word. -/
def withDigit? (significand : Nat) (digit : Char) : Option Nat :=
  let next := 10 * significand + (digit.toNat - '0'.toNat)
  if next < 0x10000000000000000 then some next else none

/-- The digits before the point: the first that does not fit and all behind it only raise
the exponent.
-/
def Scaled.ofWhole (significand : Nat) : List Char → Scaled
  | [] => ⟨significand, 0⟩
  | digit :: digits =>
      match withDigit? significand digit with
      | some next => .ofWhole next digits
      | none => ⟨significand, (digit :: digits).length⟩

/-- The digits behind the point are added up to the first that does not fit. -/
def Scaled.addFraction (number : Scaled) : List Char → Scaled
  | [] => number
  | digit :: digits =>
      match withDigit? number.significand digit with
      | some next => addFraction ⟨next, number.exponent - 1⟩ digits
      | none => number

def Exponent.value (exponent : Exponent) : Int :=
  let size := Text.digitsValue exponent.digits
  if exponent.negative then -size else size

/-- The number as significand and power of ten. -/
def Number.scaled (number : Number) : Scaled :=
  let mantissa := (Scaled.ofWhole 0 number.whole).addFraction (number.fraction.getD [])
  ⟨mantissa.significand,
    mantissa.exponent + (number.exponent.map Exponent.value).getD 0⟩

/-- The nearest number of at most 53 binary digits, of two the one with an even last digit. -/
def nearest53 (n : Nat) : Nat :=
  let unit := Nat.pow 2 (n.log2 - 52)
  let quotient := n / unit
  let excess := 2 * (n % unit)
  if unit < excess ∨ (excess = unit ∧ quotient % 2 = 1) then
    (quotient + 1) * unit
  else
    quotient * unit

/-- Scaling rounds to infinity: from half a unit above the largest double on. -/
def Scaled.isInfinite (number : Scaled) : Bool :=
  number.significand ≠ 0
    && (308 < number.exponent
      || (0 ≤ number.exponent
        && Nat.pow 2 1024 - Nat.pow 2 970
          ≤ nearest53 number.significand * nearest53 (Nat.pow 10 number.exponent.toNat)))

def Number.isTooLarge (number : Number) : Bool :=
  number.scaled.isInfinite

end RobotPuzzle.Json
