import RobotPuzzle.Proofs.Text.Runs
import RobotPuzzle.Text.Alphanumeric

/-! Word characters within ASCII, and the names that begin with a letter. -/

namespace RobotPuzzle.Text

/-- The table of alphanumeric characters begins beyond ASCII. -/
theorem alphanumericRanges_beyond_ascii
    : alphanumericRanges.all (fun range => 0x80 ≤ range.1) = true := by
  decide +kernel

/-- An ASCII character is alphanumeric only if it is a letter or a digit. -/
theorem isAlphanumeric_of_ascii {c : Char} (h : c.toNat < 0x80)
    : isAlphanumeric c = c.isAlphanum := by
  have outside : inRanges alphanumericRanges c = false := by
    rw [inRanges, List.any_eq_false]
    intro range member
    have beyond := List.all_eq_true.mp alphanumericRanges_beyond_ascii range member
    simp only [decide_eq_true_eq] at beyond
    simp only [Bool.and_eq_true, decide_eq_true_eq, not_and]
    omega
  simp [isAlphanumeric, outside]

/-- Within ASCII, words are made of letters, digits and the underscore. -/
theorem isWordChar_of_ascii {c : Char} (h : c.toNat < 0x80)
    : isWordChar c = (c.isAlphanum || c == '_') := by
  rw [isWordChar, isAlphanumeric_of_ascii h]

theorem isWordChar_of_isDigit {c : Char} (h : c.isDigit = true) : isWordChar c = true := by
  simp [isWordChar, isAlphanumeric, Char.isAlphanum, h]

/-- Where no word goes on, no number does. -/
theorem EndsRun.digits {text : List Char} (h : EndsRun isWordChar text)
    : EndsRun Char.isDigit text := by
  intro c first
  have ends := h c first
  rw [Bool.eq_false_iff] at ends ⊢
  intro digit
  exact ends (isWordChar_of_isDigit digit)

/-- The text is a name: an ASCII letter, and word characters behind it. -/
def isName : List Char → Bool
  | [] => false
  | c :: text => c.isAlpha && text.all isWordChar

end RobotPuzzle.Text
