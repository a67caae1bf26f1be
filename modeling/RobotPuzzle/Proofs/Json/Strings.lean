import RobotPuzzle.Proofs.Json.Grammar

/-! Strings are scanned into the pieces that they are written in, and pieces are joined to the
characters that they stand for.
-/

namespace RobotPuzzle.Json

-----------------------------------------------------------------------------------------
-- Pieces and characters
-----------------------------------------------------------------------------------------

theorem isSurrogate_eq_false {code : Nat} (h : code.isValidChar)
    : isHighSurrogate code = false ∧ isLowSurrogate code = false := by
  simp only [isHighSurrogate, isLowSurrogate, Bool.and_eq_false_iff, decide_eq_false_iff_not]
  unfold Nat.isValidChar at h
  omega

/-- A unit that is the number of a character stands for it alone: it is half of no pair. -/
theorem joinPieces_unit {code : Nat} (h : code.isValidChar) (pieces : List Piece)
    : joinPieces (.unit code :: pieces) = (joinPieces pieces).map (Char.ofNat code :: ·) := by
  obtain ⟨notHigh, notLow⟩ := isSurrogate_eq_false h
  rw [joinPieces.eq_def (.unit code :: pieces)]
  simp [notHigh, notLow]

/-- Two units that are the halves of a pair stand for one character. -/
theorem joinPieces_pair {high low : Nat} (h : isHighSurrogate high = true)
    (hl : isLowSurrogate low = true) (pieces : List Piece)
    : joinPieces (.unit high :: .unit low :: pieces)
      = (joinPieces pieces).map
          (Char.ofNat (0x10000 + (high - 0xD800) * 0x400 + (low - 0xDC00)) :: ·) := by
  simp [joinPieces, h, hl]

/-- Pieces are joined to the characters that they stand for, by induction over them. -/
theorem StandFor.joinPieces {pieces : List Piece} {chars : List Char}
    (h : StandFor pieces chars)
    : joinPieces pieces = some chars := by
  induction h with
  | nil => rfl
  | char c _ ih => simp [Json.joinPieces, ih]
  | unit c _ _ ih =>
      have valid : c.toNat.isValidChar := c.valid
      rw [joinPieces_unit valid, ih]
      simp
  | pair c beyond _ ih =>
      have valid : c.toNat.isValidChar := c.valid
      have whole
          : 0x10000 + (0xD800 + (c.toNat - 0x10000) / 0x400 - 0xD800) * 0x400
              + (0xDC00 + (c.toNat - 0x10000) % 0x400 - 0xDC00)
            = c.toNat := by
        omega
      rw [joinPieces_pair, whole, ih]
      · simp
      · simp only [Nat.isValidChar, isHighSurrogate, Bool.and_eq_true, decide_eq_true_eq]
          at valid ⊢
        omega
      · simp only [isLowSurrogate, Bool.and_eq_true, decide_eq_true_eq]
        omega

/-- A unit fits 16 bits. -/
def Piece.IsBasic : Piece → Prop
  | .char _ => True
  | .unit code => code < 0x10000

/-- Nothing else is joined, by induction over the recursion of joining. -/
theorem standFor_of_joinPieces {pieces : List Piece} {chars : List Char}
    (basic : ∀ piece ∈ pieces, piece.IsBasic) (h : joinPieces pieces = some chars)
    : StandFor pieces chars := by
  fun_induction joinPieces pieces generalizing chars with
  | case1 =>
      obtain rfl := Option.some.inj h
      exact .nil
  | case2 c pieces ih =>
      obtain ⟨behind, joined, rfl⟩ := Option.map_eq_some_iff.mp h
      exact .char c (ih (fun piece member => basic piece (by simp [member])) joined)
  | case3 high isHigh low pieces isLow ih =>
      obtain ⟨behind, joined, rfl⟩ := Option.map_eq_some_iff.mp h
      have inside := ih (fun piece member => basic piece (by simp [member])) joined
      simp only [isHighSurrogate, isLowSurrogate, Bool.and_eq_true, decide_eq_true_eq]
        at isHigh isLow
      generalize whole : 0x10000 + (high - 0xD800) * 0x400 + (low - 0xDC00) = code
      obtain ⟨c, rfl⟩ : ∃ c : Char, c.toNat = code := ⟨.ofNatAux code (Or.inr (by omega)), rfl⟩
      have upper : 0xD800 + (c.toNat - 0x10000) / 0x400 = high := by omega
      have lower : 0xDC00 + (c.toNat - 0x10000) % 0x400 = low := by omega
      have pair := StandFor.pair c (by omega) inside
      rw [Char.ofNat_toNat]
      rwa [upper, lower] at pair
  | case4 => cases h
  | case5 => cases h
  | case6 => cases h
  | case7 code pieces notHigh notLow ih =>
      obtain ⟨behind, joined, rfl⟩ := Option.map_eq_some_iff.mp h
      have small : code < 0x10000 := basic (.unit code) (by simp)
      have valid : code.isValidChar := by
        simp only [isHighSurrogate, isLowSurrogate, Bool.and_eq_true, decide_eq_true_eq]
          at notHigh notLow
        unfold Nat.isValidChar
        omega
      obtain ⟨c, rfl⟩ : ∃ c : Char, c.toNat = code := ⟨.ofNatAux code valid, rfl⟩
      rw [Char.ofNat_toNat]
      exact .unit c small (ih (fun piece member => basic piece (by simp [member])) joined)

-----------------------------------------------------------------------------------------
-- Scanning
-----------------------------------------------------------------------------------------

theorem hexDigit?_digitChar
    : ∀ n < 16,
        hexDigit? n.digitChar = some n ∧ hexDigit? n.digitChar.toUpper = some n := by
  decide

/-- A hexadecimal digit is read as its value, in either case. -/
theorem hexDigit?_of_isHexDigit {c : Char} {n : Nat} (h : IsHexDigit c n)
    : hexDigit? c = some n := by
  obtain ⟨small, rfl | rfl⟩ := h
  · exact (hexDigit?_digitChar n small).1
  · exact (hexDigit?_digitChar n small).2

theorem shortEscape?_of_escapes {letter c : Char} (h : Escapes letter c)
    : shortEscape? letter = some c := by
  cases h <;> rfl

/-- A character that may stand in a string as it is is scanned as itself. -/
theorem scanString_plain {c : Char} (h : IsUnescaped c) (text : List Char)
    : scanString (c :: text)
      = (scanString text).map fun (pieces, rest) => (.char c :: pieces, rest) := by
  have notControl : ¬(c < ' ' ∨ c = '\\') := by
    rintro (control | backslash)
    · have below : c.toNat < ' '.toNat := UInt32.lt_iff_toNat_lt.mp control
      exact Nat.not_le_of_lt below h.notControl
    · exact h.notBackslash backslash
  rw [scanString, if_neg notControl]
  · cases scanString text <;> rfl
  all_goals simp [h.notQuote, h.notBackslash]

theorem scanString_escape {letter c : Char} (h : Escapes letter c) (text : List Char)
    : scanString ('\\' :: letter :: text)
      = (scanString text).map fun (pieces, rest) => (.char c :: pieces, rest) := by
  have noUnit : letter ≠ 'u' := by cases h <;> decide
  rw [scanString, shortEscape?_of_escapes h]
  · cases scanString text <;> rfl
  · simp [noUnit]

/-- A string is scanned into its pieces, whatever stands behind it, by induction over them. -/
theorem WritesPieces.scanString {text : List Char} {pieces : List Piece}
    (h : WritesPieces text pieces) (rest : List Char)
    : scanString (text ++ '"' :: rest) = some (pieces, rest) := by
  induction h with
  | nil => rfl
  | plain h _ ih => rw [List.cons_append, scanString_plain h, ih, Option.map_some]
  | escape h _ ih =>
      rw [List.cons_append, List.cons_append, scanString_escape h, ih, Option.map_some]
  | @unit a b c d code text pieces ha hb hc hd _ ih =>
      have value
          : ((code / 0x1000 * 16 + code / 0x100 % 0x10) * 16 + code / 0x10 % 0x10) * 16
              + code % 0x10
            = code := by
        omega
      have found : hexUnit? a b c d = some code := by
        simp [hexUnit?, hexDigit?_of_isHexDigit ha, hexDigit?_of_isHexDigit hb,
          hexDigit?_of_isHexDigit hc, hexDigit?_of_isHexDigit hd, value]
      simp [Json.scanString, found, ih]

/-- A unit is written with four digits, so it fits 16 bits. -/
theorem WritesPieces.isBasic {text : List Char} {pieces : List Piece}
    (h : WritesPieces text pieces)
    : ∀ piece ∈ pieces, piece.IsBasic := by
  induction h with
  | nil => simp
  | plain _ _ ih => simpa [Piece.IsBasic] using ih
  | escape _ _ ih => simpa [Piece.IsBasic] using ih
  | unit ha _ _ _ _ ih =>
      have := ha.1
      refine List.forall_mem_cons.mpr ⟨?_, ih⟩
      simp only [Piece.IsBasic]
      omega

/-- The content of a string is what its pieces are joined to. -/
theorem WritesString.scanToken {text : List Char} {content : Content}
    (h : WritesString text content) (rest : List Char)
    : scanToken (text ++ rest) = some (.scalar (.string content), rest) := by
  cases h with
  | readable inside stand =>
      simp [Json.scanToken, inside.scanString rest, stand.joinPieces]
  | @unreadable text pieces inside none =>
      have apart : joinPieces pieces = .none := by
        rw [Option.eq_none_iff_forall_ne_some]
        intro chars joined
        exact none chars (standFor_of_joinPieces inside.isBasic joined)
      simp [Json.scanToken, inside.scanString rest, apart]

end RobotPuzzle.Json
