import RobotPuzzle.Json.Value
import RobotPuzzle.Text.Match

/-! The tokens of a JSON text. -/

namespace RobotPuzzle.Json

/-- A bracket, a separator, or a value without parts. -/
inductive Token where
  | openArray
  | closeArray
  | openObject
  | closeObject
  | colon
  | comma
  | scalar (value : Value)

-----------------------------------------------------------------------------------------
-- Strings
-----------------------------------------------------------------------------------------

/-- A character of a string, or the 16-bit unit of a numeric escape. -/
inductive Piece where
  | char (c : Char)
  | unit (code : Nat)

def hexDigit? (c : Char) : Option Nat :=
  if c.isDigit then
    some (c.toNat - '0'.toNat)
  else if 'a' ≤ c ∧ c ≤ 'f' then
    some (c.toNat - 'a'.toNat + 10)
  else if 'A' ≤ c ∧ c ≤ 'F' then
    some (c.toNat - 'A'.toNat + 10)
  else
    none

def hexUnit? (a b c d : Char) : Option Nat := do
  let a ← hexDigit? a
  let b ← hexDigit? b
  let c ← hexDigit? c
  let d ← hexDigit? d
  return ((a * 16 + b) * 16 + c) * 16 + d

/-- The character that a one-letter escape stands for. -/
def shortEscape? : Char → Option Char
  | '"' => some '"'
  | '\\' => some '\\'
  | '/' => some '/'
  | 'b' => some '\x08'
  | 'f' => some '\x0c'
  | 'n' => some '\n'
  | 'r' => some '\r'
  | 't' => some '\t'
  | _ => none

/-- The pieces of a string up to its closing quote, and the text behind that. A control
character has to be escaped.
-/
def scanString : List Char → Option (List Piece × List Char)
  | [] => none
  | '"' :: rest => some ([], rest)
  | '\\' :: 'u' :: a :: b :: c :: d :: rest => do
      let code ← hexUnit? a b c d
      let (pieces, rest) ← scanString rest
      return (.unit code :: pieces, rest)
  | '\\' :: letter :: rest => do
      let c ← shortEscape? letter
      let (pieces, rest) ← scanString rest
      return (.char c :: pieces, rest)
  | c :: rest =>
      if c < ' ' ∨ c = '\\' then
        none
      else do
        let (pieces, rest) ← scanString rest
        return (.char c :: pieces, rest)

/-- The first unit of a surrogate pair. -/
def isHighSurrogate (code : Nat) : Bool :=
  0xD800 ≤ code && code < 0xDC00

def isLowSurrogate (code : Nat) : Bool :=
  0xDC00 ≤ code && code < 0xE000

/-- The characters of the pieces, with surrogates paired up; `none` if one is left alone. -/
def joinPieces : List Piece → Option (List Char)
  | [] => some []
  | .char c :: pieces => (joinPieces pieces).map (c :: ·)
  | .unit code :: pieces =>
      if isHighSurrogate code then
        match pieces with
        | .unit low :: pieces =>
            if isLowSurrogate low then
              (joinPieces pieces).map
                (Char.ofNat (0x10000 + (code - 0xD800) * 0x400 + (low - 0xDC00)) :: ·)
            else
              none
        | _ => none
      else if isLowSurrogate code then
        none
      else
        (joinPieces pieces).map (Char.ofNat code :: ·)

-----------------------------------------------------------------------------------------
-- Numbers
-----------------------------------------------------------------------------------------

def scanDigits : List Char → Option (List Char × List Char) :=
  Text.run? Char.isDigit

/-- The digits before the point: a zero stands alone. -/
def scanWhole : List Char → Option (List Char × List Char)
  | '0' :: rest => some (['0'], rest)
  | text => scanDigits text

/-- The digits behind a point, if there is a point. -/
def scanFraction : List Char → Option (Option (List Char) × List Char)
  | '.' :: rest => (scanDigits rest).map fun (digits, rest) => (some digits, rest)
  | text => some (none, text)

/-- The exponent's sign and digits behind its letter. -/
def scanPower : List Char → Option (Exponent × List Char)
  | '-' :: rest => (scanDigits rest).map fun (digits, rest) => (⟨true, digits⟩, rest)
  | '+' :: rest => (scanDigits rest).map fun (digits, rest) => (⟨false, digits⟩, rest)
  | text => (scanDigits text).map fun (digits, rest) => (⟨false, digits⟩, rest)

/-- The exponent, if there is one. -/
def scanExponent : List Char → Option (Option Exponent × List Char)
  | 'e' :: rest | 'E' :: rest => (scanPower rest).map fun (power, rest) => (some power, rest)
  | text => some (none, text)

/-- A number behind its sign. -/
def scanMagnitude (negative : Bool) (text : List Char) : Option (Number × List Char) := do
  let (whole, text) ← scanWhole text
  let (fraction, text) ← scanFraction text
  let (exponent, text) ← scanExponent text
  return (⟨negative, whole, fraction, exponent⟩, text)

def scanNumber : List Char → Option (Number × List Char)
  | '-' :: rest => scanMagnitude true rest
  | text => scanMagnitude false text

-----------------------------------------------------------------------------------------
-- Texts
-----------------------------------------------------------------------------------------

/-- The first token of a text that begins with one, and the text behind it. -/
def scanToken : List Char → Option (Token × List Char)
  | '[' :: rest => some (.openArray, rest)
  | ']' :: rest => some (.closeArray, rest)
  | '\x7b' :: rest => some (.openObject, rest)
  | '\x7d' :: rest => some (.closeObject, rest)
  | ':' :: rest => some (.colon, rest)
  | ',' :: rest => some (.comma, rest)
  | 'n' :: 'u' :: 'l' :: 'l' :: rest => some (.scalar .null, rest)
  | 't' :: 'r' :: 'u' :: 'e' :: rest => some (.scalar (.bool true), rest)
  | 'f' :: 'a' :: 'l' :: 's' :: 'e' :: rest => some (.scalar (.bool false), rest)
  | '"' :: rest =>
      (scanString rest).map fun (pieces, rest) =>
        (.scalar (.string ((joinPieces pieces).map String.ofList)), rest)
  | text => (scanNumber text).map fun (number, rest) => (.scalar (.number number), rest)

-----------------------------------------------------------------------------------------
-- Every scanner uses up text
-----------------------------------------------------------------------------------------

/-- A string ends behind where it began, by induction over its pieces. -/
theorem length_scanString {text rest : List Char} {pieces : List Piece}
    (h : scanString text = some (pieces, rest)) : rest.length < text.length := by
  fun_induction scanString text generalizing pieces rest with
  | case1 => simp at h
  | case2 => simp_all
  | case3 a b c d text ih =>
      simp only [Option.bind_eq_bind, Option.bind_eq_some_iff, Prod.exists] at h
      obtain ⟨_, _, _, _, found, same⟩ := h
      have := ih found
      simp_all
      omega
  | case4 letter text _ ih =>
      simp only [Option.bind_eq_bind, Option.bind_eq_some_iff, Prod.exists] at h
      obtain ⟨_, _, _, _, found, same⟩ := h
      have := ih found
      simp_all
      omega
  | case5 => simp at h
  | case6 c text _ _ _ _ ih =>
      simp only [Option.bind_eq_bind, Option.bind_eq_some_iff, Prod.exists] at h
      obtain ⟨_, _, found, same⟩ := h
      have := ih found
      simp_all
      omega

theorem length_scanWhole {text digits rest : List Char}
    (h : scanWhole text = some (digits, rest)) : rest.length < text.length := by
  unfold scanWhole at h
  split at h
  · simp at h
    simp [h.2]
  · exact Text.length_run? h

theorem length_scanFraction {text rest : List Char} {digits : Option (List Char)}
    (h : scanFraction text = some (digits, rest)) : rest.length ≤ text.length := by
  unfold scanFraction at h
  split at h
  · simp only [Option.map_eq_some_iff, Prod.exists] at h
    obtain ⟨_, _, found, same⟩ := h
    have := Text.length_run? found
    simp_all
    omega
  · simp_all

theorem length_scanPower {text rest : List Char} {power : Exponent}
    (h : scanPower text = some (power, rest)) : rest.length < text.length := by
  unfold scanPower at h
  split at h
  all_goals
    simp only [Option.map_eq_some_iff, Prod.exists] at h
    obtain ⟨_, _, found, same⟩ := h
    have := Text.length_run? found
    simp_all
    try omega

theorem length_scanExponent {text rest : List Char} {exponent : Option Exponent}
    (h : scanExponent text = some (exponent, rest)) : rest.length ≤ text.length := by
  unfold scanExponent at h
  split at h
  iterate 2
    simp only [Option.map_eq_some_iff, Prod.exists] at h
    obtain ⟨_, _, found, same⟩ := h
    have := length_scanPower found
    simp_all
    omega
  simp_all

theorem length_scanMagnitude {negative : Bool} {text rest : List Char} {number : Number}
    (h : scanMagnitude negative text = some (number, rest)) : rest.length < text.length := by
  simp only [scanMagnitude, Option.bind_eq_bind, Option.bind_eq_some_iff, Prod.exists] at h
  obtain ⟨_, _, whole, _, _, fraction, _, _, exponent, same⟩ := h
  have := length_scanWhole whole
  have := length_scanFraction fraction
  have := length_scanExponent exponent
  simp_all
  omega

theorem length_scanToken {text rest : List Char} {token : Token}
    (h : scanToken text = some (token, rest)) : rest.length < text.length := by
  unfold scanToken at h
  split at h
  case h_10 =>
    simp only [Option.map_eq_some_iff, Prod.exists] at h
    obtain ⟨_, _, found, same⟩ := h
    have := length_scanString found
    simp_all
    omega
  case h_11 =>
    simp only [Option.map_eq_some_iff, Prod.exists] at h
    obtain ⟨_, _, found, same⟩ := h
    obtain ⟨-, rfl⟩ : _ ∧ _ = rest := by simpa using same
    unfold scanNumber at found
    split at found
    · have := length_scanMagnitude found
      simp
      omega
    · exact length_scanMagnitude found
  all_goals
    simp at h
    simp [← h.2]
    try omega

/-- The tokens of the text, or `none` if some part of it is no token. -/
def tokens (text : List Char) : Option (List Token) :=
  match _start : Text.skipLayout text with
  | [] => some []
  | c :: cs =>
      match _found : scanToken (c :: cs) with
      | none => none
      | some (token, rest) => (tokens rest).map (token :: ·)
termination_by text.length
decreasing_by
  have := length_scanToken ‹_›
  have := Text.length_skipLayout text
  rw [‹Text.skipLayout text = _›] at this
  omega

end RobotPuzzle.Json
