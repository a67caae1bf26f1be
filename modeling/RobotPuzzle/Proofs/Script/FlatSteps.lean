import RobotPuzzle.Proofs.Script.Grammar
import RobotPuzzle.Proofs.Script.TokenText
import RobotPuzzle.Proofs.Text.Matches
import RobotPuzzle.Script.Excerpt

/-! What the flat reader matches at the beginning of a text, by the tokens of that text: the
pieces of a statement, whole statements, and the first statement behind some layout.
-/

namespace RobotPuzzle.Script

open Text (dropChar? dropSpaced? dropText? isLayout isWordChar run? skipLayout)

-----------------------------------------------------------------------------------------
-- Pieces of statements
-----------------------------------------------------------------------------------------

section

variable {text : List Char} {found : List Token}

/-- Behind no layout, the first token being a symbol means that the character itself comes first. -/
theorem dropChar?_symbol {c : Char} (start : skipLayout text = text)
    (h : tokens text = .ofChar c :: found)
    : ∃ rest, dropChar? c text = some rest ∧ tokens rest = found := by
  obtain ⟨rest, begun, behind⟩ := begins_with_symbol h
  refine ⟨rest, ?_, behind⟩
  rw [← start, begun, Text.dropChar?_cons]

/-- A character is found behind layout, and the layout behind it is dropped. -/
theorem dropSpaced?_symbol {c : Char} (h : tokens text = .ofChar c :: found)
    : ∃ rest,
        dropSpaced? c text = some rest
        ∧ skipLayout rest = rest
        ∧ tokens rest = found := by
  rw [← tokens_skipLayout] at h
  obtain ⟨rest, dropped, behind⟩ := dropChar?_symbol (skipLayout_idem text) h
  refine ⟨skipLayout rest, ?_, skipLayout_idem rest, ?_⟩
  · rw [dropSpaced?, dropped, Option.map_some]
  · rw [tokens_skipLayout, behind]

/-- A character that is a token of its own is found only where that token is. -/
theorem dropSpaced?_eq_none {c : Char} (letter : c.isAlpha = false) (digit : c.isDigit = false)
    (h : (tokens text).head? ≠ some (.ofChar c))
    : dropSpaced? c text = none := by
  cases begun : skipLayout text with
  | nil => simp [dropSpaced?, begun, dropChar?]
  | cons d rest =>
      have other : d ≠ c := by
        rintro rfl
        apply h
        rw [tokens_of_skipLayout_cons begun, Token.scan, if_neg (by simp [letter]),
          if_neg (by simp [digit]), List.head?_cons]
      simp [dropSpaced?, begun, dropChar?, other]

/-- A word token is the longest run of word characters, so it is the run that is taken. -/
theorem run?_word {name : String} (start : skipLayout text = text)
    (h : tokens text = .word name :: found)
    : ∃ rest, run? isWordChar text = some (name.toList, rest) ∧ tokens rest = found := by
  obtain ⟨rest, begun, nonempty, name_chars, ends, behind⟩ := begins_with_word h
  refine ⟨rest, ?_, behind⟩
  rw [← start, begun, Text.run?_run nonempty name_chars ends]

/-- A number token is taken in the same way, and the run is nothing but its digits. -/
theorem run?_number {digits : List Char} (start : skipLayout text = text)
    (h : tokens text = .number digits :: found)
    : ∃ rest,
        run? Char.isDigit text = some (digits, rest)
        ∧ (digits ≠ [] ∧ ∀ d ∈ digits, d.isDigit = true)
        ∧ tokens rest = found := by
  obtain ⟨rest, begun, nonempty, digit_chars, ends, behind⟩ := begins_with_number h
  refine ⟨rest, ?_, ⟨nonempty, digit_chars⟩, behind⟩
  rw [← start, begun, Text.run?_run nonempty digit_chars ends]

theorem dropText?_word {name : String} (start : skipLayout text = text)
    (h : tokens text = .word name :: found)
    : ∃ rest, dropText? name.toList text = some rest ∧ tokens rest = found := by
  obtain ⟨rest, begun, -, -, -, behind⟩ := begins_with_word h
  refine ⟨rest, ?_, behind⟩
  rw [← start, begun, Text.dropText?_append]

/-- Up to the first closing brace, a body without one is as it was written. -/
theorem braced?_block {inner : List Token} (start : skipLayout text = text)
    (h : tokens text = .openBrace :: inner ++ .closeBrace :: found)
    (first : .closeBrace ∉ inner)
    : ∃ body rest,
        Shape.braced? text = some (body, rest) ∧ tokens body = inner ∧ tokens rest = found := by
  obtain ⟨inside, opened, within⟩ := dropChar?_symbol (c := '\x7b') start h
  obtain ⟨rest, closed, body, behind⟩ := tokens_of_closeBrace within first
  refine ⟨_, rest, ?_, body, behind⟩
  simp [Shape.braced?, opened, closed]

end

-----------------------------------------------------------------------------------------
-- Statements
-----------------------------------------------------------------------------------------

/-- The tokens do not go on with an action that stands before them. -/
structure EndsAction (found : List Token) : Prop where
  not_called : found.head? ≠ some .openParen
  not_stopped : found.head? ≠ some .semicolon

namespace Shape

section

variable {text rest : List Char} {shape : Shape}

/-- A counted block, step by step: each step begins where the one before it has stopped. -/
theorem times?_eq_some_iff
    : times? text = some (shape, rest)
      ↔ ∃ digits body,
          shape = ⟨.times, digits, some body⟩
          ∧ ∃ keyed, dropText? "repeat".toList text = some keyed
            ∧ ∃ opened, dropSpaced? '(' keyed = some opened
              ∧ ∃ counted, run? Char.isDigit opened = some (digits, counted)
                ∧ ∃ closed, dropSpaced? ')' counted = some closed
                  ∧ braced? closed = some (body, rest) := by
  simp only [times?, Option.bind_eq_bind, Option.bind_eq_some_iff, Prod.exists,
    Option.pure_def, Option.some.injEq, Prod.mk.injEq]
  constructor
  · rintro ⟨_, keyword, _, opened, digits, _, count, _, closed, body, _, braced, rfl, rfl⟩
    exact ⟨digits, body, rfl, _, keyword, _, opened, _, count, _, closed, braced⟩
  · rintro ⟨digits, body, rfl, _, keyword, _, opened, _, count, _, closed, braced⟩
    exact ⟨_, keyword, _, opened, digits, _, count, _, closed, body, _, braced, rfl, rfl⟩

/-- A guarded block, step by step. Keyword and kind are free, so this is one statement for both
guards.
-/
theorem guarded?_eq_some_iff {keyword : List Char} {kind : StatementKind}
    : guarded? keyword kind text = some (shape, rest)
      ↔ ∃ name body,
          shape = ⟨kind, name, some body⟩
          ∧ ∃ keyed, dropText? keyword text = some keyed
            ∧ ∃ opened, dropSpaced? '(' keyed = some opened
              ∧ ∃ named, run? isWordChar opened = some (name, named)
                ∧ ∃ asked, dropSpaced? '(' named = some asked
                  ∧ ∃ answered, dropChar? ')' asked = some answered
                    ∧ ∃ closed, dropSpaced? ')' answered = some closed
                      ∧ braced? closed = some (body, rest) := by
  simp only [guarded?, Option.bind_eq_bind, Option.bind_eq_some_iff, Prod.exists,
    Option.pure_def, Option.some.injEq, Prod.mk.injEq]
  constructor
  · rintro ⟨_, keyed, _, opened, name, _, condition, _, asked, _, answered, _, closed, body, _,
      braced, rfl, rfl⟩
    exact ⟨name, body, rfl, _, keyed, _, opened, _, condition, _, asked, _, answered, _, closed,
      braced⟩
  · rintro ⟨name, body, rfl, _, keyed, _, opened, _, condition, _, asked, _, answered, _, closed,
      braced⟩
    exact ⟨_, keyed, _, opened, name, _, condition, _, asked, _, answered, _, closed, body, _,
      braced, rfl, rfl⟩

/-- An action is a word that names one. What is dropped behind it may be nothing at all. -/
theorem act?_eq_some_iff
    : act? text = some (shape, rest)
      ↔ ∃ action : Action,
          shape = ⟨.act, action.name.toList, none⟩
          ∧ ∃ named, run? isWordChar text = some (action.name.toList, named)
            ∧ dropSemicolon (dropCall named) = rest := by
  simp only [act?, Option.bind_eq_bind, Option.bind_eq_some_iff, Prod.exists]
  constructor
  · rintro ⟨name, behind, named, same⟩
    split at same
    next known =>
      obtain ⟨action, called⟩ := Option.isSome_iff_exists.mp known
      have spelled : action.name.toList = name := by
        rw [Action.ofName?_eq_some_iff.mp called, String.toList_ofList]
      obtain ⟨rfl, rfl⟩ := Prod.mk.inj (Option.some.inj same)
      exact ⟨action, by rw [spelled], behind, by rw [spelled, named], rfl⟩
    next => cases same
  · rintro ⟨action, rfl, behind, named, rfl⟩
    have known : Action.ofName? action.name = some action := Action.ofName?_eq_some_iff.mpr rfl
    exact ⟨_, behind, named, by simp [known]⟩

/-- Statements are tried in this order, and one is matched only where those before it are not. -/
theorem match?_eq_some_iff {matched : Shape × List Char}
    : match? text = some matched
      ↔ times? text = some matched
        ∨ times? text = none
          ∧ (guarded? "if".toList .when text = some matched
            ∨ guarded? "if".toList .when text = none
              ∧ (guarded? "while".toList .loop text = some matched
                ∨ guarded? "while".toList .loop text = none ∧ act? text = some matched)) := by
  simp only [match?, Option.orElse_eq_orElse, Option.orElse_eq_or, Option.or_eq_some_iff]

/-- The first statement begins here or, if none does, is the first one from the next character on.
-/
theorem find?_cons_eq_some_iff {c : Char} {matched : Shape × List Char}
    : find? (c :: text) = some matched
      ↔ match? (c :: text) = some matched
        ∨ match? (c :: text) = none ∧ find? text = some matched := by
  simp only [find?, Option.orElse_eq_orElse, Option.orElse_eq_or, Option.or_eq_some_iff]

end

variable {text : List Char} {found : List Token}

/-- A counted block is matched along its tokens. Its body goes up to the first closing brace in
them.
-/
theorem times?_block {digits : List Char} {inner : List Token}
    (start : skipLayout text = text)
    (h : tokens text
      = [.word "repeat", .openParen, .number digits, .closeParen, .openBrace] ++ inner
        ++ .closeBrace :: found)
    (first : .closeBrace ∉ inner)
    : ∃ body rest,
        times? text = some (⟨.times, digits, some body⟩, rest)
        ∧ (digits ≠ [] ∧ ∀ d ∈ digits, d.isDigit = true)
        ∧ tokens body = inner
        ∧ tokens rest = found := by
  obtain ⟨_, keyword, h⟩ := dropText?_word start h
  obtain ⟨_, opened, start, h⟩ := dropSpaced?_symbol (c := '(') h
  obtain ⟨_, count, numeral, h⟩ := run?_number start h
  obtain ⟨_, closed, start, h⟩ := dropSpaced?_symbol (c := ')') h
  obtain ⟨body, rest, braced, inside, behind⟩ := braced?_block start h first
  refine ⟨body, rest, ?_, numeral, inside, behind⟩
  exact times?_eq_some_iff.mpr
    ⟨digits, body, rfl, _, keyword, _, opened, _, count, _, closed, braced⟩

/-- A guarded block is matched along its tokens, in the same way. -/
theorem guarded?_block {keyword name : String} {inner : List Token} (kind : StatementKind)
    (start : skipLayout text = text)
    (h : tokens text
      = [.word keyword, .openParen, .word name, .openParen, .closeParen, .closeParen,
          .openBrace] ++ inner ++ .closeBrace :: found)
    (first : .closeBrace ∉ inner)
    : ∃ body rest,
        guarded? keyword.toList kind text = some (⟨kind, name.toList, some body⟩, rest)
        ∧ tokens body = inner
        ∧ tokens rest = found := by
  obtain ⟨_, keyed, h⟩ := dropText?_word start h
  obtain ⟨_, opened, start, h⟩ := dropSpaced?_symbol (c := '(') h
  obtain ⟨_, condition, h⟩ := run?_word start h
  obtain ⟨_, asked, start, h⟩ := dropSpaced?_symbol (c := '(') h
  obtain ⟨_, answered, h⟩ := dropChar?_symbol (c := ')') start h
  obtain ⟨_, closed, start, h⟩ := dropSpaced?_symbol (c := ')') h
  obtain ⟨body, rest, braced, inside, behind⟩ := braced?_block start h first
  refine ⟨body, rest, ?_, inside, behind⟩
  exact guarded?_eq_some_iff.mpr
    ⟨_, body, rfl, _, keyed, _, opened, _, condition, _, asked, _, answered, _, closed, braced⟩

/-- Parentheses behind an action are dropped; where none are, the text stays as it is. -/
theorem tokens_dropCall {call : List Token} (parens : Optionally [.openParen, .closeParen] call)
    (h : tokens text = call ++ found) (behind : found.head? ≠ some .openParen)
    : tokens (dropCall text) = found := by
  unfold dropCall
  cases parens with
  | absent =>
      have none_open : dropSpaced? '(' text = none :=
        dropSpaced?_eq_none (by decide) (by decide) (h ▸ behind)
      rw [none_open]
      exact h
  | present =>
      obtain ⟨_, opened, start, h⟩ := dropSpaced?_symbol (c := '(') h
      obtain ⟨_, closed, h⟩ := dropChar?_symbol (c := ')') start h
      simpa [opened, closed] using h

/-- So is a semicolon dropped, or the text left as it is. -/
theorem tokens_dropSemicolon {stop : List Token} (semicolon : Optionally [.semicolon] stop)
    (h : tokens text = stop ++ found) (behind : found.head? ≠ some .semicolon)
    : tokens (dropSemicolon text) = found := by
  unfold dropSemicolon
  cases semicolon with
  | absent =>
      have none_stop : dropSpaced? ';' text = none :=
        dropSpaced?_eq_none (by decide) (by decide) (h ▸ behind)
      rw [none_stop]
      exact h
  | present =>
      obtain ⟨_, stopped, -, h⟩ := dropSpaced?_symbol (c := ';') h
      simpa [stopped] using h

/-- An action is matched with the parentheses and the semicolon that belong to it, because what
comes behind cannot be taken for these.
-/
theorem act?_action {call stop : List Token} (action : Action) (start : skipLayout text = text)
    (h : tokens text = .word action.name :: call ++ stop ++ found)
    (parens : Optionally [.openParen, .closeParen] call)
    (semicolon : Optionally [.semicolon] stop) (behind : EndsAction found)
    : ∃ rest,
        act? text = some (⟨.act, action.name.toList, none⟩, rest) ∧ tokens rest = found := by
  obtain ⟨tail, named, h⟩ := run?_word start h
  have no_call : (stop ++ found).head? ≠ some .openParen := by
    cases semicolon with
    | absent => exact behind.not_called
    | present => simp
  have after_call := tokens_dropCall parens (by simpa using h) no_call
  have after_stop := tokens_dropSemicolon semicolon after_call behind.not_stopped
  exact ⟨_, act?_eq_some_iff.mpr ⟨action, rfl, _, named, rfl⟩, after_stop⟩

-----------------------------------------------------------------------------------------
-- The first statement
-----------------------------------------------------------------------------------------

theorem head?_word {name : String} (start : skipLayout text = text)
    (h : tokens text = .word name :: found)
    : text.head? = name.toList.head? := by
  obtain ⟨rest, begun, nonempty, -⟩ := begins_with_word h
  rw [← start, begun, List.head?_append_of_ne_nil _ nonempty]

theorem match?_of_times? {matched : Shape × List Char} (h : times? text = some matched)
    : match? text = some matched := by
  simp [match?, h]

/-- The letter in front rules out counted blocks, which are tried before. -/
theorem match?_of_when? {matched : Shape × List Char} (first : text.head? = some 'i')
    (h : guarded? "if".toList .when text = some matched)
    : match? text = some matched := by
  have no_times : times? text = none := times?_eq_none (by simp [first])
  rw [match?, no_times, h]
  rfl

/-- The letter in front rules out both kinds of blocks that are tried before. -/
theorem match?_of_loop? {matched : Shape × List Char} (first : text.head? = some 'w')
    (h : guarded? "while".toList .loop text = some matched)
    : match? text = some matched := by
  have no_times : times? text = none := times?_eq_none (by simp [first])
  have no_when : guarded? "if".toList .when text = none :=
    guarded?_eq_none (c := 'i') .when (by simp [first])
  rw [match?, no_times, no_when, h]
  rfl

/-- Layout in front of a text makes no difference to what is found in it. -/
theorem find?_skipLayout (text : List Char) : find? (skipLayout text) = find? text :=
  find?_dropWhile (fun _ layout => Text.isWordChar_of_isBlank (Text.isBlank_of_isLayout layout))
    text

theorem find?_of_match?_eq {matched : Shape × List Char} (h : match? text = some matched)
    : find? text = some matched := by
  cases text with
  | nil => cases h
  | cons c text => simp [find?, h]

/-- A statement that stands behind layout only is the first one. -/
theorem find?_of_match? {matched : Shape × List Char}
    (h : match? (skipLayout text) = some matched)
    : find? text = some matched := by
  rw [← find?_skipLayout]
  exact find?_of_match?_eq h

/-- A text without tokens is all layout, and nothing is found in it. -/
theorem find?_eq_none (h : tokens text = []) : find? text = none := by
  rw [← find?_skipLayout, skipLayout_of_tokens_nil h]
  rfl

end Shape

end RobotPuzzle.Script
