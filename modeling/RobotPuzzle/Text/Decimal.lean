/-! Decimal numbers within the range of a machine word. -/

namespace RobotPuzzle.Text

/-- The number that a run of decimal digits writes. -/
def digitsValue (digits : List Char) : Nat :=
  Nat.ofDigitChars 10 digits 0

def word32? (n : Nat) : Option UInt32 :=
  if h : n < UInt32.size then some (.ofNatLT n h) else none

/-- A number fits if it is the number of a word, and then it is that word. -/
theorem word32?_eq_some_iff {n : Nat} {word : UInt32}
    : word32? n = some word ↔ n = word.toNat := by
  unfold word32?
  constructor
  · intro h
    split at h
    · obtain rfl := Option.some.inj h
      exact (UInt32.toNat_ofNatLT ..).symm
    · simp at h
  · rintro rfl
    rw [dif_pos word.toNat_lt_size]
    simp

/-- The 32-bit word that the text writes: decimal digits, at least one, and nothing else. -/
def readWord32? (text : List Char) : Option UInt32 :=
  if text ≠ [] ∧ text.all Char.isDigit then word32? (digitsValue text) else none

def dropPlus : List Char → List Char
  | '+' :: text => text
  | text => text

end RobotPuzzle.Text
