import RobotPuzzle.Json.Token
import RobotPuzzle.Text.Blank

/-! The grammar of JSON texts, over characters. It says which value a text writes, and nothing
about how a reader would find out.
-/

namespace RobotPuzzle.Json

-----------------------------------------------------------------------------------------
-- Numbers
-----------------------------------------------------------------------------------------

/-- Decimal digits, at least one. -/
structure IsDigits (text : List Char) : Prop where
  nonempty : text ≠ []
  digits : ∀ c ∈ text, c.isDigit = true

/-- The digits before a point: no further one stands behind a leading zero. -/
structure IsWhole (text : List Char) : Prop extends IsDigits text where
  leading : ∀ digits, text = '0' :: digits → digits = []

inductive WritesFraction : List Char → Option (List Char) → Prop
  | absent : WritesFraction [] none
  | point {digits} (h : IsDigits digits) : WritesFraction ('.' :: digits) (some digits)

/-- The sign of an exponent may be left out if it is no minus. -/
inductive WritesPower : List Char → Exponent → Prop
  | plain {digits} (h : IsDigits digits) : WritesPower digits ⟨false, digits⟩
  | plus {digits} (h : IsDigits digits) : WritesPower ('+' :: digits) ⟨false, digits⟩
  | minus {digits} (h : IsDigits digits) : WritesPower ('-' :: digits) ⟨true, digits⟩

inductive WritesExponent : List Char → Option Exponent → Prop
  | absent : WritesExponent [] none
  | lower {text power} (h : WritesPower text power) : WritesExponent ('e' :: text) (some power)
  | upper {text power} (h : WritesPower text power) : WritesExponent ('E' :: text) (some power)

inductive WritesSign : List Char → Bool → Prop
  | absent : WritesSign [] false
  | minus : WritesSign ['-'] true

/-- A number in its parts, which stand one behind the other. -/
inductive WritesNumber : List Char → Number → Prop
  | parts {sign whole points powers negative fraction exponent}
    (signed : WritesSign sign negative) (digits : IsWhole whole)
    (point : WritesFraction points fraction) (power : WritesExponent powers exponent)
    : WritesNumber (sign ++ whole ++ points ++ powers) ⟨negative, whole, fraction, exponent⟩

/-- An integer in the one way that it can be written without a point or an exponent. -/
def Value.ofInt (n : Int) : Value :=
  .number ⟨decide (n < 0), Nat.toDigits 10 n.natAbs, none, none⟩

-----------------------------------------------------------------------------------------
-- Strings
-----------------------------------------------------------------------------------------

/-- What may stand in a string as it is. -/
structure IsUnescaped (c : Char) : Prop where
  notControl : ' '.toNat ≤ c.toNat
  notQuote : c ≠ '"'
  notBackslash : c ≠ '\\'

/-- The letter of an escape and the character that it stands for. -/
inductive Escapes : Char → Char → Prop
  | quote : Escapes '"' '"'
  | backslash : Escapes '\\' '\\'
  | slash : Escapes '/' '/'
  | backspace : Escapes 'b' '\x08'
  | formFeed : Escapes 'f' '\x0c'
  | lineFeed : Escapes 'n' '\n'
  | carriageReturn : Escapes 'r' '\r'
  | tab : Escapes 't' '\t'

/-- The character is the hexadecimal digit of the number, small or capital. -/
def IsHexDigit (c : Char) (n : Nat) : Prop :=
  n < 16 ∧ (c = n.digitChar ∨ c = n.digitChar.toUpper)

/-- The inside of a string, as pieces. A unit is written with four digits. -/
inductive WritesPieces : List Char → List Piece → Prop
  | nil : WritesPieces [] []
  | plain {c text pieces} (h : IsUnescaped c) (behind : WritesPieces text pieces)
    : WritesPieces (c :: text) (.char c :: pieces)
  | escape {letter c text pieces} (h : Escapes letter c) (behind : WritesPieces text pieces)
    : WritesPieces ('\\' :: letter :: text) (.char c :: pieces)
  | unit {a b c d code text pieces} (ha : IsHexDigit a (code / 0x1000))
    (hb : IsHexDigit b (code / 0x100 % 0x10)) (hc : IsHexDigit c (code / 0x10 % 0x10))
    (hd : IsHexDigit d (code % 0x10)) (behind : WritesPieces text pieces)
    : WritesPieces ('\\' :: 'u' :: a :: b :: c :: d :: text) (.unit code :: pieces)

/-- The pieces stand for the characters. A unit is a character of the basic plane, and a pair of
surrogates is one beyond that.
-/
inductive StandFor : List Piece → List Char → Prop
  | nil : StandFor [] []
  | char {pieces chars} (c : Char) (behind : StandFor pieces chars)
    : StandFor (.char c :: pieces) (c :: chars)
  | unit {pieces chars} (c : Char) (basic : c.toNat < 0x10000)
    (behind : StandFor pieces chars)
    : StandFor (.unit c.toNat :: pieces) (c :: chars)
  | pair {pieces chars} (c : Char) (beyond : 0x10000 ≤ c.toNat)
    (behind : StandFor pieces chars)
    : StandFor
        (.unit (0xD800 + (c.toNat - 0x10000) / 0x400)
          :: .unit (0xDC00 + (c.toNat - 0x10000) % 0x400) :: pieces)
        (c :: chars)

/-- A string, which is readable if its pieces stand for any characters. -/
inductive WritesString : List Char → Content → Prop
  | readable {text pieces chars} (inside : WritesPieces text pieces)
    (h : StandFor pieces chars)
    : WritesString ('"' :: text ++ ['"']) (some (String.ofList chars))
  | unreadable {text pieces} (inside : WritesPieces text pieces)
    (h : ∀ chars, ¬StandFor pieces chars)
    : WritesString ('"' :: text ++ ['"']) none

def Value.ofName (name : String) : Value :=
  .string (some name)

-----------------------------------------------------------------------------------------
-- Values
-----------------------------------------------------------------------------------------

/-- Spaces, tabs and line ends. -/
def IsLayout (text : List Char) : Prop :=
  ∀ c ∈ text, c = ' ' ∨ c = '\t' ∨ c = '\n' ∨ c = '\r'

mutual

/-- The text writes the value, with nothing before or behind it. -/
inductive Writes : List Char → Value → Prop
  | null : Writes ['n', 'u', 'l', 'l'] .null
  | true : Writes ['t', 'r', 'u', 'e'] (.bool true)
  | false : Writes ['f', 'a', 'l', 's', 'e'] (.bool false)
  | number {text number} (h : WritesNumber text number) : Writes text (.number number)
  | string {text content} (h : WritesString text content) : Writes text (.string content)
  | emptyArray {space} (h : IsLayout space) : Writes ('[' :: space ++ [']']) (.array [])
  | array {text items} (inside : WritesItems text items)
    : Writes ('[' :: text ++ [']']) (.array items)
  | emptyObject {space} (h : IsLayout space) : Writes ('\x7b' :: space ++ ['\x7d']) (.object [])
  | object {text members} (inside : WritesMembers text members)
    : Writes ('\x7b' :: text ++ ['\x7d']) (.object members)

/-- The text writes the value, with layout around it. -/
inductive WritesSpaced : List Char → Value → Prop
  | mk {front text back value} (before : IsLayout front) (h : Writes text value)
    (behind : IsLayout back)
    : WritesSpaced (front ++ text ++ back) value

/-- Values with commas between them. -/
inductive WritesItems : List Char → List Value → Prop
  | last {text item} (h : WritesSpaced text item) : WritesItems text [item]
  | more {text rest item items} (h : WritesSpaced text item) (behind : WritesItems rest items)
    : WritesItems (text ++ ',' :: rest) (item :: items)

/-- A key and a value with a colon between them. -/
inductive WritesMember : List Char → Content × Value → Prop
  | mk {front name back text key value} (before : IsLayout front)
    (named : WritesString name key) (behind : IsLayout back) (h : WritesSpaced text value)
    : WritesMember (front ++ name ++ back ++ ':' :: text) (key, value)

/-- Members with commas between them. -/
inductive WritesMembers : List Char → List (Content × Value) → Prop
  | last {text member} (h : WritesMember text member) : WritesMembers text [member]
  | more {text rest member members} (h : WritesMember text member)
    (behind : WritesMembers rest members)
    : WritesMembers (text ++ ',' :: rest) (member :: members)

end

end RobotPuzzle.Json
