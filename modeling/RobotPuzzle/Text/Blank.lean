import RobotPuzzle.Text.CharRange

/-! Blank characters, and the smaller class of layout characters that separate tokens. -/

namespace RobotPuzzle.Text

/-- The ranges of the characters with Unicode's White_Space property. -/
def blankRanges : List (Nat × Nat) :=
  [(0x9, 0xD), (0x20, 0x20), (0x85, 0x85), (0xA0, 0xA0), (0x1680, 0x1680), (0x2000, 0x200A),
    (0x2028, 0x2029), (0x202F, 0x202F), (0x205F, 0x205F), (0x3000, 0x3000)]

def isBlank (c : Char) : Bool :=
  inRanges blankRanges c

/-- A character that only separates tokens: space, tab, line feed or carriage return. -/
def isLayout (c : Char) : Bool :=
  c == ' ' || c == '\t' || c == '\n' || c == '\r'

theorem isBlank_of_isLayout {c : Char} (h : isLayout c = true) : isBlank c = true := by
  simp only [isLayout, Bool.or_eq_true, beq_iff_eq] at h
  rcases h with ((rfl | rfl) | rfl) | rfl <;> decide

def skipLayout (text : List Char) : List Char :=
  text.dropWhile isLayout

def trim (text : List Char) : List Char :=
  ((text.dropWhile isBlank).reverse.dropWhile isBlank).reverse

def squeeze (text : List Char) : List Char :=
  text.filter (!isBlank ·)

/-- The first maximal run of characters that are not blank. -/
def firstWord (text : List Char) : List Char :=
  (text.dropWhile isBlank).takeWhile (!isBlank ·)

end RobotPuzzle.Text
