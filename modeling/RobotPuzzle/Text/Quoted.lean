import RobotPuzzle.Text.Printable

/-! Quoted text: what error messages show of a user's words. -/

namespace RobotPuzzle.Text

/-- The escape for a character by its code point, in lower-case hexadecimal. -/
def codePointEscape (c : Char) : List Char :=
  '\\' :: 'u' :: '\x7b' :: Nat.toDigits 16 c.toNat ++ ['\x7d']

/-- One character as it stands between two `quote` marks. -/
def quoteChar (quote c : Char) : List Char :=
  match c with
  | '\x00' => ['\\', '0']
  | '\t' => ['\\', 't']
  | '\r' => ['\\', 'r']
  | '\n' => ['\\', 'n']
  | '\\' => ['\\', '\\']
  | c =>
      if c = quote then
        ['\\', c]
      else if isShown c then
        [c]
      else
        codePointEscape c

/-- The text between double quotes; single quotes inside are left alone. -/
def quoted (text : String) : String :=
  String.ofList ('"' :: text.toList.flatMap (quoteChar '"') ++ ['"'])

/-- The character between single quotes; a double quote inside is left alone. -/
def quotedChar (c : Char) : String :=
  String.ofList ('\'' :: quoteChar '\'' c ++ ['\''])

end RobotPuzzle.Text
