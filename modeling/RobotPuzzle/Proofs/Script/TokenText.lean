import Mathlib.Data.List.DropRight
import RobotPuzzle.Proofs.Script.Tokenization
import RobotPuzzle.Proofs.Text.Words

/-! What the tokens of a text say about its characters: how the text begins, where it can be cut
in two, and what can be taken off its ends.
-/

namespace RobotPuzzle.Script

open Text (EndsRun endsRun_dropWhile isLayout isWordChar skipLayout)

-----------------------------------------------------------------------------------------
-- The beginning of a text
-----------------------------------------------------------------------------------------

theorem skipLayout_idem (text : List Char) : skipLayout (skipLayout text) = skipLayout text :=
  List.dropWhile_idempotent isLayout text

theorem tokens_skipLayout (text : List Char) : tokens (skipLayout text) = tokens text := by
  have again := skipLayout_idem text
  cases begun : skipLayout text with
  | nil =>
      rw [begun] at again
      rw [tokens_of_skipLayout_nil begun, tokens_of_skipLayout_nil again]
  | cons c rest =>
      rw [begun] at again
      rw [tokens_of_skipLayout_cons begun, tokens_of_skipLayout_cons again]

/-- A text without tokens is nothing but layout. -/
theorem skipLayout_of_tokens_nil {text : List Char} (h : tokens text = [])
    : skipLayout text = [] := by
  cases begun : skipLayout text with
  | nil => rfl
  | cons c rest =>
      rw [tokens_of_skipLayout_cons begun] at h
      cases h

/-- The first token of a text was scanned from its first character that is not layout. -/
theorem scan_of_tokens_cons {text : List Char} {token : Token} {found : List Token}
    (h : tokens text = token :: found)
    : ∃ c rest,
        skipLayout text = c :: rest
        ∧ (Token.scan c rest).1 = token
        ∧ tokens (Token.scan c rest).2 = found := by
  cases begun : skipLayout text with
  | nil =>
      rw [tokens_of_skipLayout_nil begun] at h
      cases h
  | cons c rest =>
      rw [tokens_of_skipLayout_cons begun] at h
      obtain ⟨first, behind⟩ := List.cons.inj h
      exact ⟨c, rest, rfl, first, behind⟩

/-- A text whose first token is a word begins with that name, which ends there. -/
theorem begins_with_word {text : List Char} {name : String} {found : List Token}
    (h : tokens text = .word name :: found)
    : ∃ rest,
        skipLayout text = name.toList ++ rest
        ∧ name.toList ≠ []
        ∧ (∀ c ∈ name.toList, isWordChar c = true)
        ∧ EndsRun isWordChar rest
        ∧ tokens rest = found := by
  obtain ⟨c, rest, begun, first, behind⟩ := scan_of_tokens_cons h
  unfold Token.scan at first behind
  split at first
  next letter =>
    obtain rfl := Token.word.inj first
    rw [if_pos letter] at behind
    rw [String.toList_ofList]
    refine ⟨_, ?_, by simp, ?_, endsRun_dropWhile isWordChar rest, behind⟩
    · rw [List.cons_append, List.takeWhile_append_dropWhile, begun]
    · intro d member
      rcases List.mem_cons.mp member with rfl | later
      · exact Text.isWordChar_of_isAlpha letter
      · exact List.mem_takeWhile_imp later
  next =>
    split at first
    · cases first
    · exact absurd first (ofChar_ne_word c name)

/-- A text whose first token is a number begins with those digits, which end there. -/
theorem begins_with_number {text digits : List Char} {found : List Token}
    (h : tokens text = .number digits :: found)
    : ∃ rest,
        skipLayout text = digits ++ rest
        ∧ digits ≠ []
        ∧ (∀ d ∈ digits, d.isDigit = true)
        ∧ EndsRun Char.isDigit rest
        ∧ tokens rest = found := by
  obtain ⟨c, rest, begun, first, behind⟩ := scan_of_tokens_cons h
  unfold Token.scan at first behind
  split at first
  · cases first
  next letter =>
    split at first
    next digit =>
      obtain rfl := Token.number.inj first
      rw [if_neg letter, if_pos digit] at behind
      refine ⟨_, ?_, by simp, ?_, endsRun_dropWhile Char.isDigit rest, behind⟩
      · rw [List.cons_append, List.takeWhile_append_dropWhile, begun]
      · intro d member
        rcases List.mem_cons.mp member with rfl | later
        · exact digit
        · exact List.mem_takeWhile_imp later
    next => exact absurd first (ofChar_ne_number c digits)

/-- A text whose first token is a single character begins with that. -/
theorem begins_with_symbol {text : List Char} {c : Char} {found : List Token}
    (h : tokens text = .ofChar c :: found)
    : ∃ rest, skipLayout text = c :: rest ∧ tokens rest = found := by
  obtain ⟨d, rest, begun, first, behind⟩ := scan_of_tokens_cons h
  unfold Token.scan at first behind
  split at first
  · exact absurd first.symm (ofChar_ne_word c _)
  next letter =>
    split at first
    · exact absurd first.symm (ofChar_ne_number c _)
    next digit =>
      rw [if_neg letter, if_neg digit] at behind
      exact ⟨rest, ofChar_inj first ▸ begun, behind⟩

/-- A name is one token where no word character follows. -/
theorem tokens_word {name rest : List Char} (isName : Text.isName name = true)
    (ends : EndsRun isWordChar rest)
    : tokens (name ++ rest) = .word (String.ofList name) :: tokens rest := by
  cases name with
  | nil => cases isName
  | cons c name =>
      simp only [Text.isName, Bool.and_eq_true, List.all_eq_true] at isName
      exact (Tokenized.word isName.1 isName.2 ends (tokenized_tokens rest)).tokens_eq

/-- Digits are one token where no digit follows; a letter may. -/
theorem tokens_number {digits rest : List Char} (nonempty : digits ≠ [])
    (all : ∀ d ∈ digits, d.isDigit = true) (ends : EndsRun Char.isDigit rest)
    : tokens (digits ++ rest) = .number digits :: tokens rest := by
  cases digits with
  | nil => contradiction
  | cons d digits =>
      obtain ⟨digit, later⟩ := List.forall_mem_cons.mp all
      exact (Tokenized.number digit later ends (tokenized_tokens rest)).tokens_eq

/-- A character that is not blank and stands in no word is a token of its own. -/
theorem tokens_symbol {c : Char} (layout : isLayout c = false) (symbol : isWordChar c = false)
    (rest : List Char)
    : tokens (c :: rest) = .ofChar c :: tokens rest := by
  have letter : ¬ c.isAlpha = true := by
    intro letter
    simp [Text.isWordChar_of_isAlpha letter] at symbol
  have digit : ¬ c.isDigit = true := by
    intro digit
    simp [Text.isWordChar_of_isDigit digit] at symbol
  rw [tokens_scan layout, Token.scan, if_neg letter, if_neg digit]

-----------------------------------------------------------------------------------------
-- Cutting a text in two
-----------------------------------------------------------------------------------------

/-- Texts that follow each other have the tokens of both, where the second does not go on with
a word of the first. By induction over the tokens of the first.
-/
theorem Tokenized.append {text tail : List Char} {found more : List Token}
    (h : Tokenized text found) (ends : EndsRun isWordChar tail) (behind : Tokenized tail more)
    : Tokenized (text ++ tail) (found ++ more) := by
  induction h with
  | nil => exact behind
  | layout layout _ ih => exact .layout layout ih
  | word letter name_chars longest _ ih =>
      rw [List.append_assoc]
      exact .word letter name_chars (longest.append ends) ih
  | number digit digit_chars longest _ ih =>
      rw [List.append_assoc]
      exact .number digit digit_chars (longest.append ends.digits) ih
  | symbol not_layout not_letter not_digit _ ih =>
      exact .symbol not_layout not_letter not_digit ih

/-- Two texts have the tokens of both together, unless a word runs on from one into the other. -/
theorem tokens_append (text : List Char) {tail : List Char} (ends : EndsRun isWordChar tail)
    : tokens (text ++ tail) = tokens text ++ tokens tail :=
  ((tokenized_tokens text).append ends (tokenized_tokens tail)).tokens_eq

/-- No word goes on into a closing brace. -/
theorem tokens_append_closeBrace (text rest : List Char)
    : tokens (text ++ '\x7d' :: rest) = tokens text ++ .closeBrace :: tokens rest := by
  have brace : tokens ('\x7d' :: rest) = .closeBrace :: tokens rest := tokens_scan rfl rest
  rw [tokens_append text (Text.endsRun_cons (by decide +kernel) rest), brace]

/-- A token of one character comes from that character. -/
theorem mem_of_ofChar_mem_tokens {text : List Char} {c : Char}
    (h : Token.ofChar c ∈ tokens text)
    : c ∈ text := by
  have tokenized := tokenized_tokens text
  generalize tokens text = found at h tokenized
  induction tokenized with
  | nil => simp at h
  | layout _ _ ih => exact List.mem_cons_of_mem _ (ih h)
  | word _ _ _ _ ih =>
      rcases List.mem_cons.mp h with same | later
      · exact absurd same (ofChar_ne_word c _)
      · exact List.mem_append_right _ (ih later)
  | number _ _ _ _ ih =>
      rcases List.mem_cons.mp h with same | later
      · exact absurd same (ofChar_ne_number c _)
      · exact List.mem_append_right _ (ih later)
  | symbol _ _ _ _ ih =>
      rcases List.mem_cons.mp h with same | later
      · exact ofChar_inj same ▸ List.mem_cons_self
      · exact List.mem_cons_of_mem _ (ih later)

/-- There is one first place of a token among others. By induction over what stands before
it.
-/
theorem append_cons_inj {token : Token} {before first : List Token} {behind rest : List Token}
    (h : before ++ token :: behind = first ++ token :: rest)
    (not_before : token ∉ before) (not_first : token ∉ first)
    : before = first ∧ behind = rest := by
  induction before generalizing first with
  | nil =>
      cases first with
      | nil => exact ⟨rfl, (List.cons.inj h).2⟩
      | cons other first => exact absurd ((List.cons.inj h).1 ▸ List.mem_cons_self) not_first
  | cons other before ih =>
      cases first with
      | nil => exact absurd ((List.cons.inj h).1 ▸ List.mem_cons_self) not_before
      | cons another first =>
          obtain ⟨rfl, behind_eq⟩ := List.cons.inj h
          obtain ⟨rfl, rfl⟩ := ih behind_eq (List.not_mem_of_not_mem_cons not_before)
            (List.not_mem_of_not_mem_cons not_first)
          exact ⟨rfl, rfl⟩

/-- Where the first closing brace is among the tokens, it is in the text: what stands before it
has the tokens before it, and what stands behind has the others.
-/
theorem tokens_of_closeBrace {text : List Char} {inner found : List Token}
    (h : tokens text = inner ++ .closeBrace :: found) (first : .closeBrace ∉ inner)
    : ∃ rest,
        text.dropWhile (· != '\x7d') = '\x7d' :: rest
        ∧ tokens (text.takeWhile (· != '\x7d')) = inner
        ∧ tokens rest = found := by
  have noBrace : Token.closeBrace ∉ tokens (text.takeWhile (· != '\x7d')) := by
    intro member
    have brace := List.mem_takeWhile_imp (mem_of_ofChar_mem_tokens (c := '\x7d') member)
    simp at brace
  have whole := List.takeWhile_append_dropWhile (p := (· != '\x7d')) (l := text)
  cases behind : text.dropWhile (· != '\x7d') with
  | nil =>
      rw [behind, List.append_nil] at whole
      rw [whole, h] at noBrace
      simp at noBrace
  | cons c rest =>
      have ends : c = '\x7d' := by
        have stopped := List.head?_dropWhile_not (· != '\x7d') text
        simpa [behind] using stopped
      subst ends
      rw [← whole, behind, tokens_append_closeBrace] at h
      obtain ⟨before, after⟩ := append_cons_inj h noBrace first
      exact ⟨rest, rfl, before, after⟩

-----------------------------------------------------------------------------------------
-- The ends of a text
-----------------------------------------------------------------------------------------

/-- No symbol of a script is blank. -/
theorem ofChar_of_isBlank {c : Char} (h : Text.isBlank c = true)
    : Token.ofChar c = .other c := by
  unfold Token.ofChar
  split
  case h_7 => rfl
  all_goals exact absurd h (by decide)

/-- A blank character is layout or a token of its own that no script has. -/
theorem tokens_of_isBlank {c : Char} (h : Text.isBlank c = true) (rest : List Char)
    : tokens (c :: rest) = tokens rest ∨ tokens (c :: rest) = .other c :: tokens rest := by
  cases layout : isLayout c with
  | true => exact Or.inl (tokens_of_isLayout layout rest)
  | false =>
      refine Or.inr ?_
      rw [tokens_symbol layout (Text.isWordChar_of_isBlank h), ofChar_of_isBlank h]

/-- There is nothing in these tokens that no script has. -/
def Known (found : List Token) : Prop :=
  ∀ c, .other c ∉ found

theorem Known.of_append {first second : List Token} (h : Known (first ++ second))
    : Known first ∧ Known second :=
  ⟨fun c member => h c (List.mem_append_left _ member),
    fun c member => h c (List.mem_append_right _ member)⟩

/-- Blank characters in front of a text are layout, if all its tokens are known. By induction
over them.
-/
theorem tokens_of_blanks {blanks rest : List Char}
    (h : ∀ c ∈ blanks, Text.isBlank c = true) (known : Known (tokens (blanks ++ rest)))
    : tokens (blanks ++ rest) = tokens rest := by
  induction blanks with
  | nil => rfl
  | cons c blanks ih =>
      obtain ⟨blank, later⟩ := List.forall_mem_cons.mp h
      rw [List.cons_append] at known ⊢
      rcases tokens_of_isBlank blank (blanks ++ rest) with layout | other
      · rw [layout] at known ⊢
        exact ih later known
      · rw [other] at known
        exact absurd List.mem_cons_self (known c)

/-- In front of known tokens there is no blank but layout, so dropping all blanks drops layout only.
-/
theorem tokens_dropWhile_isBlank {text : List Char} (known : Known (tokens text))
    : tokens (text.dropWhile Text.isBlank) = tokens text := by
  have whole := List.takeWhile_append_dropWhile (p := Text.isBlank) (l := text)
  rw [← whole] at known
  have front := tokens_of_blanks (fun c member => List.mem_takeWhile_imp member) known
  rw [whole] at front
  exact front.symm

/-- Neither a word nor a number goes on into the blank characters at the end of a text. -/
theorem tokens_rdropWhile_isBlank {text : List Char} (known : Known (tokens text))
    : tokens (text.rdropWhile Text.isBlank) = tokens text := by
  have whole := List.rdropWhile_append_rtakeWhile (p := Text.isBlank) (l := text)
  have blank
      : ∀ c ∈ text.rtakeWhile Text.isBlank, Text.isBlank c = true :=
    fun c member => List.mem_rtakeWhile_imp member
  have ends : EndsRun isWordChar (text.rtakeWhile Text.isBlank) := by
    intro c first
    exact Text.isWordChar_of_isBlank (blank c (List.mem_of_mem_head? first))
  have parts := tokens_append (text.rdropWhile Text.isBlank) ends
  rw [whole] at parts
  have knownTail := (parts ▸ known).of_append.2
  have nothing : tokens (text.rtakeWhile Text.isBlank) = [] := by
    rw [← List.append_nil (text.rtakeWhile Text.isBlank)] at knownTail ⊢
    exact (tokens_of_blanks blank knownTail).trans (tokens_of_skipLayout_nil rfl)
  rw [parts, nothing, List.append_nil]

/-- Trimming takes only layout away from a text whose tokens are all known. -/
theorem tokens_trim {text : List Char} (known : Known (tokens text))
    : tokens (Text.trim text) = tokens text := by
  have front := tokens_dropWhile_isBlank known
  rw [← front] at known ⊢
  exact tokens_rdropWhile_isBlank known

end RobotPuzzle.Script
