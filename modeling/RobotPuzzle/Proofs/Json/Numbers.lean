import RobotPuzzle.Proofs.Json.Grammar
import RobotPuzzle.Proofs.Text.Runs

/-! Numbers are scanned into their parts, where no character follows with which a number could go
on.
-/

namespace RobotPuzzle.Json

open Text (EndsRun endsRun_cons run?_run)

/-- A number could go on with this character. -/
def isNumeric (c : Char) : Bool :=
  c.isDigit || c == '.' || c == 'e' || c == 'E'

/-- What is before the point and behind it could go on with this character. -/
def isDecimal (c : Char) : Bool :=
  c.isDigit || c == '.'

variable {text rest : List Char}

theorem endsRun_isDecimal (h : EndsRun isNumeric rest) : EndsRun isDecimal rest := by
  intro c first
  have ends := h c first
  simp_all [isNumeric, isDecimal]

theorem endsRun_isDigit (h : EndsRun isDecimal rest) : EndsRun Char.isDigit rest := by
  intro c first
  have ends := h c first
  simp_all [isDecimal]

/-- Where a fraction begins, or where there is none, no digits go on. -/
theorem WritesFraction.endsRun {fraction : Option (List Char)}
    (h : WritesFraction text fraction)
    : EndsRun Char.isDigit text := by
  cases h with
  | absent => exact nofun
  | point => exact endsRun_cons (by decide) _

/-- An exponent begins with a letter, with which nothing before it could go on. -/
theorem WritesExponent.endsRun {exponent : Option Exponent}
    (h : WritesExponent text exponent)
    : EndsRun isDecimal text := by
  cases h with
  | absent => exact nofun
  | lower => exact endsRun_cons (by decide) _
  | upper => exact endsRun_cons (by decide) _

-----------------------------------------------------------------------------------------
-- Parts of a number
-----------------------------------------------------------------------------------------

theorem IsDigits.scanDigits (h : IsDigits text) (ends : EndsRun Char.isDigit rest)
    : scanDigits (text ++ rest) = some (text, rest) :=
  run?_run h.nonempty h.digits ends

theorem IsDigits.exists_cons (h : IsDigits text)
    : ∃ c digits, text = c :: digits ∧ c.isDigit = true := by
  obtain ⟨c, digits, rfl⟩ := List.exists_cons_of_ne_nil h.nonempty
  exact ⟨c, digits, rfl, h.digits c List.mem_cons_self⟩

/-- A whole number is scanned up to its last digit. A zero in front ends it at once, which is all
there is of it then.
-/
theorem IsWhole.scanWhole (h : IsWhole text) (ends : EndsRun Char.isDigit rest)
    : scanWhole (text ++ rest) = some (text, rest) := by
  by_cases zero : ∃ digits, text = '0' :: digits
  · obtain ⟨digits, rfl⟩ := zero
    obtain rfl := h.leading digits rfl
    rfl
  · rw [Json.scanWhole, h.toIsDigits.scanDigits ends]
    obtain ⟨c, digits, rfl, -⟩ := h.toIsDigits.exists_cons
    rintro _ same
    exact zero ⟨digits, by simp_all⟩

/-- A fraction is scanned behind its point, and none where no point follows. -/
theorem WritesFraction.scanFraction {fraction : Option (List Char)}
    (h : WritesFraction text fraction) (ends : EndsRun isDecimal rest)
    : scanFraction (text ++ rest) = some (fraction, rest) := by
  cases h with
  | absent =>
      rw [List.nil_append, Json.scanFraction]
      rintro behind rfl
      exact absurd (ends '.' rfl) (by decide)
  | point digits => simp [Json.scanFraction, digits.scanDigits (endsRun_isDigit ends)]

/-- A power without a sign begins with a digit, so no sign is taken off it. -/
theorem WritesPower.scanPower {power : Exponent} (h : WritesPower text power)
    (ends : EndsRun Char.isDigit rest)
    : scanPower (text ++ rest) = some (power, rest) := by
  cases h with
  | plain digits =>
      obtain ⟨c, behind, rfl, digit⟩ := digits.exists_cons
      rw [Json.scanPower, digits.scanDigits ends]
      · rfl
      all_goals
        rintro _ same
        obtain ⟨rfl, -⟩ := List.cons.inj same
        exact absurd digit (by decide)
  | plus digits => simp [Json.scanPower, digits.scanDigits ends]
  | minus digits => simp [Json.scanPower, digits.scanDigits ends]

/-- An exponent is scanned behind its letter, and none where neither letter follows. -/
theorem WritesExponent.scanExponent {exponent : Option Exponent}
    (h : WritesExponent text exponent) (ends : EndsRun isNumeric rest)
    : scanExponent (text ++ rest) = some (exponent, rest) := by
  have beyond := endsRun_isDigit (endsRun_isDecimal ends)
  cases h with
  | absent =>
      rw [List.nil_append, Json.scanExponent]
      all_goals
        rintro behind rfl
        exact absurd (ends _ rfl) (by decide)
  | lower power => simp [Json.scanExponent, power.scanPower beyond]
  | upper power => simp [Json.scanExponent, power.scanPower beyond]

-----------------------------------------------------------------------------------------
-- Whole numbers
-----------------------------------------------------------------------------------------

/-- A number begins with a minus sign or a digit. -/
theorem scanToken_number {c : Char} (h : c = '-' ∨ c.isDigit = true) (text : List Char)
    : scanToken (c :: text)
      = (scanNumber (c :: text)).map fun (number, rest) => (.scalar (.number number), rest) := by
  rw [scanToken]
  all_goals
    intro _ same
    obtain ⟨rfl, -⟩ := List.cons.inj same
    exact absurd h (by decide)

theorem scanNumber_digit {c : Char} (h : c.isDigit = true) (text : List Char)
    : scanNumber (c :: text) = scanMagnitude false (c :: text) := by
  rw [scanNumber]
  rintro _ same
  obtain ⟨rfl, -⟩ := List.cons.inj same
  exact absurd h (by decide)

/-- A number is scanned part by part. Each part ends where the next one or the text behind
begins.
-/
theorem WritesNumber.scanToken {number : Number} (h : WritesNumber text number)
    (ends : EndsRun isNumeric rest)
    : scanToken (text ++ rest) = some (.scalar (.number number), rest) := by
  obtain @⟨sign, whole, points, powers, negative, fraction, exponent, signed, digits, point,
    power⟩ := h
  have behindFraction : EndsRun isDecimal (powers ++ rest) :=
    power.endsRun.append (endsRun_isDecimal ends)
  have behindWhole : EndsRun Char.isDigit (points ++ (powers ++ rest)) :=
    point.endsRun.append (endsRun_isDigit behindFraction)
  have magnitude
      : scanMagnitude negative (whole ++ (points ++ (powers ++ rest)))
        = some (⟨negative, whole, fraction, exponent⟩, rest) := by
    simp [scanMagnitude, digits.scanWhole behindWhole, point.scanFraction behindFraction,
      power.scanExponent ends]
  simp only [List.append_assoc]
  cases signed with
  | minus =>
      rw [List.cons_append, scanToken_number (Or.inl rfl), scanNumber]
      simp [magnitude]
  | absent =>
      obtain ⟨c, behind, rfl, digit⟩ := digits.toIsDigits.exists_cons
      rw [List.nil_append, List.cons_append, scanToken_number (Or.inr digit),
        scanNumber_digit digit, ← List.cons_append, magnitude]
      rfl

end RobotPuzzle.Json
