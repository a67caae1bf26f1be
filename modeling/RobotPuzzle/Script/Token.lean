import RobotPuzzle.Text.Alphanumeric
import RobotPuzzle.Text.Match

/-! The tokens of a script: each as long as it can be, with nothing but layout between. -/

namespace RobotPuzzle.Script

/-- A word, a run of digits, or a single character. -/
inductive Token where
  | word (name : String)
  | number (digits : List Char)
  | openParen
  | closeParen
  | openBrace
  | closeBrace
  | greater
  | semicolon
  | other (c : Char)
deriving DecidableEq, Repr

/-- The token for a character that begins neither a word nor a number. -/
def Token.ofChar : Char → Token
  | '(' => .openParen
  | ')' => .closeParen
  | '\x7b' => .openBrace
  | '\x7d' => .closeBrace
  | '>' => .greater
  | ';' => .semicolon
  | c => .other c

/-- The token that begins with `c`, and the text behind it. Words begin with an ASCII letter
and numbers with an ASCII digit.
-/
def Token.scan (c : Char) (rest : List Char) : Token × List Char :=
  if c.isAlpha then
    (.word (String.ofList (c :: rest.takeWhile Text.isWordChar)),
      rest.dropWhile Text.isWordChar)
  else if c.isDigit then
    (.number (c :: rest.takeWhile Char.isDigit), rest.dropWhile Char.isDigit)
  else
    (.ofChar c, rest)

/-- A token together with the text that begins with it. -/
structure Lexeme where
  token : Token
  text : List Char
deriving DecidableEq, Repr

/-- What is behind a token is no longer than what is behind its first character. -/
theorem Token.length_scan (c : Char) (rest : List Char)
    : (Token.scan c rest).2.length ≤ rest.length := by
  unfold Token.scan
  split
  · exact (List.dropWhile_sublist _).length_le
  · split
    · exact (List.dropWhile_sublist _).length_le
    · exact Nat.le_refl _

def lexemes (text : List Char) : List Lexeme :=
  match _start : Text.skipLayout text with
  | [] => []
  | c :: rest => ⟨(Token.scan c rest).1, c :: rest⟩ :: lexemes (Token.scan c rest).2
termination_by text.length
decreasing_by
  have scanned := Token.length_scan c rest
  have skipped := Text.length_skipLayout text
  rw [‹Text.skipLayout text = _›] at skipped
  simp only [List.length_cons] at skipped
  omega

end RobotPuzzle.Script
