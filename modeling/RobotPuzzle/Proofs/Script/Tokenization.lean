import RobotPuzzle.Proofs.Text.Runs
import RobotPuzzle.Script.Token

/-! The tokens of a text, told apart by longest match. The relation says what they are, without
a way to find them; the scanner finds these and no others.
-/

namespace RobotPuzzle.Script

open Text (EndsRun endsRun_dropWhile takeWhile_run dropWhile_run)

/-- The text falls apart into the tokens: layout is dropped, words and numbers go on for as
long as they can, and any other character stands for itself.
-/
inductive Tokenized : List Char → List Token → Prop
  | nil : Tokenized [] []
  | layout {c text tokens} (layout : Text.isLayout c = true)
    (behind : Tokenized text tokens)
    : Tokenized (c :: text) tokens
  | word {c name text tokens} (letter : c.isAlpha = true)
    (name_chars : ∀ d ∈ name, Text.isWordChar d = true)
    (longest : EndsRun Text.isWordChar text) (behind : Tokenized text tokens)
    : Tokenized (c :: name ++ text) (.word (String.ofList (c :: name)) :: tokens)
  | number {c digits text tokens} (digit : c.isDigit = true)
    (digit_chars : ∀ d ∈ digits, d.isDigit = true)
    (longest : EndsRun Char.isDigit text) (behind : Tokenized text tokens)
    : Tokenized (c :: digits ++ text) (.number (c :: digits) :: tokens)
  | symbol {c text tokens} (not_layout : Text.isLayout c = false)
    (not_letter : c.isAlpha = false) (not_digit : c.isDigit = false)
    (behind : Tokenized text tokens)
    : Tokenized (c :: text) (.ofChar c :: tokens)

def tokens (text : List Char) : List Token :=
  (lexemes text).map Lexeme.token

-----------------------------------------------------------------------------------------
-- One token at the beginning of a text
-----------------------------------------------------------------------------------------

/-- Layout begins no token, by cases over the four layout characters. -/
theorem begins_no_token_of_isLayout {c : Char} (h : Text.isLayout c = true)
    : c.isAlpha = false ∧ c.isDigit = false := by
  simp only [Text.isLayout, Bool.or_eq_true, beq_iff_eq] at h
  rcases h with ((rfl | rfl) | rfl) | rfl <;> decide

theorem isLayout_of_isAlpha {c : Char} (h : c.isAlpha = true) : Text.isLayout c = false := by
  cases layout : Text.isLayout c with
  | false => rfl
  | true => simp [(begins_no_token_of_isLayout layout).1] at h

theorem isLayout_of_isDigit {c : Char} (h : c.isDigit = true) : Text.isLayout c = false := by
  cases layout : Text.isLayout c with
  | false => rfl
  | true => simp [(begins_no_token_of_isLayout layout).2] at h

theorem isAlpha_of_isDigit {c : Char} (h : c.isDigit = true) : c.isAlpha = false := by
  -- Both ranges of letters begin behind the last digit.
  have digit : c.toNat ≤ 57 := (Char.isDigit_iff_toNat.mp h).2
  have upper : c.isUpper = false := by
    refine decide_eq_false ?_
    rintro ⟨low, -⟩
    have : 65 ≤ c.toNat := UInt32.le_iff_toNat_le.mp low
    omega
  have lower : c.isLower = false := by
    refine Bool.and_eq_false_iff.mpr (Or.inl (decide_eq_false ?_))
    intro low
    have : 97 ≤ c.toNat := UInt32.le_iff_toNat_le.mp low
    omega
  exact Bool.or_eq_false_iff.mpr ⟨upper, lower⟩

theorem ofChar_ne_word (c : Char) (name : String) : Token.ofChar c ≠ .word name := by
  unfold Token.ofChar
  split <;> simp

theorem ofChar_ne_number (c : Char) (digits : List Char)
    : Token.ofChar c ≠ .number digits := by
  unfold Token.ofChar
  split <;> simp

/-- A token of one character says which it is. -/
theorem ofChar_inj {c d : Char} (h : Token.ofChar c = Token.ofChar d) : c = d := by
  unfold Token.ofChar at h
  split at h <;> split at h <;> simp_all

theorem lexemes_of_skipLayout_nil {text : List Char} (h : Text.skipLayout text = [])
    : lexemes text = [] := by
  rw [lexemes]
  split
  · rfl
  · simp_all

/-- The scanner takes its first lexeme where the layout ends, and goes on behind that. -/
theorem lexemes_of_skipLayout_cons {text rest : List Char} {c : Char}
    (h : Text.skipLayout text = c :: rest)
    : lexemes text
      = ⟨(Token.scan c rest).1, c :: rest⟩ :: lexemes (Token.scan c rest).2 := by
  rw [lexemes]
  split
  · simp_all
  next same =>
    obtain ⟨rfl, rfl⟩ := List.cons.inj (same.symm.trans h)
    rfl

theorem tokens_of_skipLayout_nil {text : List Char} (h : Text.skipLayout text = [])
    : tokens text = [] := by
  rw [tokens, lexemes_of_skipLayout_nil h, List.map_nil]

theorem tokens_nil : tokens [] = [] :=
  tokens_of_skipLayout_nil rfl

theorem tokens_of_skipLayout_cons {text rest : List Char} {c : Char}
    (h : Text.skipLayout text = c :: rest)
    : tokens text = (Token.scan c rest).1 :: tokens (Token.scan c rest).2 := by
  rw [tokens, lexemes_of_skipLayout_cons h, List.map_cons, tokens]

/-- Layout in front of a text changes none of its tokens. -/
theorem tokens_of_isLayout {c : Char} (h : Text.isLayout c = true) (text : List Char)
    : tokens (c :: text) = tokens text := by
  have same : Text.skipLayout (c :: text) = Text.skipLayout text := by
    simp [Text.skipLayout, h]
  cases behind : Text.skipLayout text with
  | nil => rw [tokens_of_skipLayout_nil behind, tokens_of_skipLayout_nil (same.trans behind)]
  | cons d rest =>
      rw [tokens_of_skipLayout_cons behind, tokens_of_skipLayout_cons (same.trans behind)]

theorem tokens_scan {c : Char} (h : Text.isLayout c = false) (rest : List Char)
    : tokens (c :: rest) = (Token.scan c rest).1 :: tokens (Token.scan c rest).2 :=
  tokens_of_skipLayout_cons (by simp [Text.skipLayout, h])

-----------------------------------------------------------------------------------------
-- The scanner finds the tokens, and there are no others
-----------------------------------------------------------------------------------------

/-- What the scanner takes off the text is one token, by cases over what begins it. -/
theorem Tokenized.scan {c : Char} {rest : List Char} {behind : List Token}
    (layout : Text.isLayout c = false) (h : Tokenized (Token.scan c rest).2 behind)
    : Tokenized (c :: rest) ((Token.scan c rest).1 :: behind) := by
  by_cases letter : c.isAlpha = true
  · rw [Token.scan, if_pos letter] at h ⊢
    have whole := Tokenized.word letter
      (fun d (member : d ∈ rest.takeWhile Text.isWordChar) => List.mem_takeWhile_imp member)
      (endsRun_dropWhile Text.isWordChar rest) h
    rwa [List.cons_append, List.takeWhile_append_dropWhile] at whole
  · by_cases digit : c.isDigit = true
    · rw [Token.scan, if_neg letter, if_pos digit] at h ⊢
      have whole := Tokenized.number digit
        (fun d (member : d ∈ rest.takeWhile Char.isDigit) => List.mem_takeWhile_imp member)
        (endsRun_dropWhile Char.isDigit rest) h
      rwa [List.cons_append, List.takeWhile_append_dropWhile] at whole
    · rw [Token.scan, if_neg letter, if_neg digit] at h ⊢
      exact .symbol layout (by simpa using letter) (by simpa using digit) h

/-- Every text falls apart into the tokens that the scanner finds, by recursion on what is
behind its first token or its first layout character.
-/
theorem tokenized_tokens (text : List Char) : Tokenized text (tokens text) := by
  cases text with
  | nil =>
      rw [tokens_of_skipLayout_nil rfl]
      exact .nil
  | cons c rest =>
      cases layout : Text.isLayout c with
      | true =>
          rw [tokens_of_isLayout layout]
          exact .layout layout (tokenized_tokens rest)
      | false =>
          rw [tokens_scan layout]
          exact .scan layout (tokenized_tokens (Token.scan c rest).2)
termination_by text.length
decreasing_by
  all_goals
    have scanned := Token.length_scan c rest
    simp only [List.length_cons]
    omega

/-- A text falls apart in one way only, by induction over how it does. -/
theorem Tokenized.tokens_eq {text : List Char} {found : List Token}
    (h : Tokenized text found)
    : tokens text = found := by
  induction h with
  | nil => exact tokens_of_skipLayout_nil rfl
  | layout layout _ ih => rw [tokens_of_isLayout layout, ih]
  | word letter name_chars longest _ ih =>
      rw [List.cons_append, tokens_scan (isLayout_of_isAlpha letter), Token.scan,
        if_pos letter, takeWhile_run name_chars longest, dropWhile_run name_chars longest, ih]
  | number digit digit_chars longest _ ih =>
      have notLetter := isAlpha_of_isDigit digit
      rw [List.cons_append, tokens_scan (isLayout_of_isDigit digit), Token.scan,
        if_neg (by simp [notLetter]), if_pos digit, takeWhile_run digit_chars longest,
        dropWhile_run digit_chars longest, ih]
  | symbol not_layout not_letter not_digit _ ih =>
      rw [tokens_scan not_layout, Token.scan, if_neg (by simp [not_letter]),
        if_neg (by simp [not_digit]), ih]

end RobotPuzzle.Script
