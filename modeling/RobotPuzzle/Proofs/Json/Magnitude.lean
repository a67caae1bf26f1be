import RobotPuzzle.Json.Magnitude

/-! Whole numbers that a double holds exactly are not too large for one. -/

namespace RobotPuzzle.Json

/-- Further digits never make the value of what came before them smaller. -/
theorem le_ofDigitChars (digits : List Char) (init : Nat)
    : init ≤ Nat.ofDigitChars 10 digits init := by
  rw [Nat.ofDigitChars_eq_ofDigitChars_zero]
  exact Nat.le_add_right_of_le (Nat.le_mul_of_pos_left init (Nat.pow_pos (by decide)))

theorem Scaled.ofWhole_cons (significand : Nat) (digit : Char) (digits : List Char)
    : ofWhole significand (digit :: digits)
      = match withDigit? significand digit with
        | some next => ofWhole next digits
        | none => ⟨significand, (digit :: digits).length⟩ :=
  (rfl)

/-- Digits whose value fits a 64-bit word are all taken in, by induction over them. -/
theorem Scaled.ofWhole_eq {digits : List Char} {significand : Nat}
    (h : Nat.ofDigitChars 10 digits significand < 0x10000000000000000)
    : ofWhole significand digits = ⟨Nat.ofDigitChars 10 digits significand, 0⟩ := by
  induction digits generalizing significand with
  | nil => rfl
  | cons digit digits ih =>
      rw [Nat.ofDigitChars_cons] at h ⊢
      have fits := Nat.lt_of_le_of_lt (le_ofDigitChars digits _) h
      rw [ofWhole_cons, withDigit?, if_pos fits]
      exact ih h

/-- Up to 53 binary digits nothing is rounded off. -/
theorem nearest53_eq {n : Nat} (h : n < 0x20000000000000) : nearest53 n = n := by
  have short : n.log2 - 52 = 0 := by
    rcases Nat.eq_zero_or_pos n with rfl | positive
    · rw [Nat.log2_zero]
    · have : n.log2 < 53 := (Nat.log2_lt (Nat.pos_iff_ne_zero.mp positive)).mpr h
      omega
  simp [nearest53, short, Nat.mod_one]

/-- Nothing is rounded on the way to the bound, and that is far off. -/
theorem Scaled.isInfinite_eq_false {n : Nat} (h : n < 0x20000000000000)
    : isInfinite ⟨n, 0⟩ = false := by
  have far : 0x20000000000000 ≤ Nat.pow 2 1024 - Nat.pow 2 970 := by decide +kernel
  have one : nearest53 (Nat.pow 10 (Int.toNat 0)) = 1 := nearest53_eq (by decide)
  simp only [isInfinite, one, nearest53_eq h, Nat.mul_one]
  -- The bound is a number of three hundred digits, which nothing should compute with.
  generalize Nat.pow 2 1024 - Nat.pow 2 970 = bound at far
  have below : ¬bound ≤ n := by omega
  simp [below]

/-- The digits of a number below the bound write one that is not too large. -/
theorem isTooLarge_toDigits (negative : Bool) {n : Nat} (h : n < 0x20000000000000)
    : Number.isTooLarge ⟨negative, Nat.toDigits 10 n, none, none⟩ = false := by
  have digits : Nat.ofDigitChars 10 (Nat.toDigits 10 n) 0 = n :=
    Nat.ofDigitChars_ten_toDigits
  have whole : Scaled.ofWhole 0 (Nat.toDigits 10 n) = ⟨n, 0⟩ := by
    rw [Scaled.ofWhole_eq (by omega), digits]
  have scaled : (⟨negative, Nat.toDigits 10 n, none, none⟩ : Number).scaled = ⟨n, 0⟩ := by
    rw [Number.scaled, whole]
    rfl
  rw [Number.isTooLarge, scaled, Scaled.isInfinite_eq_false h]

end RobotPuzzle.Json
