import RobotPuzzle.Proofs.Script.FlatShapes

/-! What the flat reader skips on its way to a statement. It skips one character after the
other, so it looks for statements in the middle of words too. There it can find the name of an
action that the word ends with, and a keyword only where a block goes on behind the word.
-/

namespace RobotPuzzle.Script

open Text (EndsRun dropSpaced? dropText? isLayout isWordChar skipLayout)

-----------------------------------------------------------------------------------------
-- The tokens of a block that is matched
-----------------------------------------------------------------------------------------

/-- The tokens can stand behind the keyword of a block that is matched. What is asked there is
a run of word characters, which need not be the characters of one word.
-/
inductive BehindKeyword : List Token → Prop
  | times (digits : List Char) {more : List Token} (closed : .closeBrace ∈ more)
    : BehindKeyword (.openParen :: .number digits :: more)
  | guarded {asked more : List Token}
    (inWords : ∀ c, isWordChar c = false → .ofChar c ∉ asked)
    (closed : .closeBrace ∈ more)
    : BehindKeyword (.openParen :: (asked ++ .openParen :: more))

section

variable {found : List Token}

/-- A block has to be closed: without a closing brace further on, no keyword is matched. -/
theorem not_behindKeyword_of_not_closed (h : .closeBrace ∉ found) : ¬ BehindKeyword found := by
  rintro (⟨digits, closed⟩ | ⟨-, closed⟩)
  · exact h (List.mem_cons_of_mem _ (List.mem_cons_of_mem _ closed))
  · exact h (List.mem_cons_of_mem _ (List.mem_append_right _ (List.mem_cons_of_mem _ closed)))

theorem not_behindKeyword_of_head?_ne (h : found.head? ≠ some .openParen)
    : ¬ BehindKeyword found := by
  rintro (_ | _) <;> exact h rfl

/-- Empty parentheses ask nothing. -/
theorem not_behindKeyword_of_call : ¬ BehindKeyword (.openParen :: .closeParen :: found) := by
  intro h
  generalize same : Token.openParen :: .closeParen :: found = behind at h
  cases h with
  | times digits closed => simp at same
  | @guarded asked more inWords closed =>
      cases asked with
      | nil => simp at same
      | cons token asked =>
          obtain rfl : Token.ofChar ')' = token := (List.cons.inj (List.cons.inj same).2).1
          exact inWords ')' (by decide +kernel) List.mem_cons_self

/-- A greater sign stands in no word, so a comparison asks nothing either. -/
theorem not_behindKeyword_of_comparison (name : String)
    : ¬ BehindKeyword (.openParen :: .word name :: .greater :: found) := by
  intro h
  generalize same : Token.openParen :: .word name :: .greater :: found = behind at h
  cases h with
  | times digits closed => simp at same
  | @guarded asked more inWords closed =>
      rcases asked with _ | ⟨token, _ | ⟨another, asked⟩⟩
      · simp at same
      · simp at same
      · obtain ⟨-, second⟩ := List.cons.inj (List.cons.inj same).2
        obtain rfl : Token.ofChar '>' = another := (List.cons.inj second).1
        exact inWords '>' (by decide +kernel) (by simp)

end

/-- A symbol ends a run of word characters, with layout in front of it or without. -/
theorem endsRun_of_skipLayout_cons {text rest : List Char} {c : Char}
    (begun : skipLayout text = c :: rest) (symbol : isWordChar c = false)
    : EndsRun isWordChar text := by
  cases text with
  | nil => exact Text.endsRun_nil _
  | cons d text =>
      cases layout : isLayout d with
      | true =>
          have no_word := Text.isWordChar_of_isBlank (Text.isBlank_of_isLayout layout)
          exact Text.endsRun_cons no_word text
      | false =>
          rw [Text.skipLayout_of_endsRun (Text.endsRun_cons layout text)] at begun
          rw [begun]
          exact Text.endsRun_cons symbol rest

/-- A symbol that is dropped with the layout around it was one token. -/
theorem tokens_of_dropSpaced? {text rest : List Char} {c : Char}
    (layout : isLayout c = false) (symbol : isWordChar c = false)
    (h : dropSpaced? c text = some rest)
    : tokens text = .ofChar c :: tokens rest := by
  obtain ⟨behind, begun, rfl⟩ := Text.dropSpaced?_eq_some_iff.mp h
  rw [← tokens_skipLayout text, begun, tokens_symbol layout symbol, tokens_skipLayout]

/-- A keyword in front of an opening parenthesis is a word of its own there. -/
theorem tokens_of_keyword {keyword text behind rest : List Char}
    (isName : Text.isName keyword = true) (keyed : dropText? keyword text = some behind)
    (opened : dropSpaced? '(' behind = some rest)
    : tokens text = .word (String.ofList keyword) :: .openParen :: tokens rest := by
  obtain rfl := Text.dropText?_eq_some_iff.mp keyed
  obtain ⟨_, begun, -⟩ := Text.dropSpaced?_eq_some_iff.mp opened
  have ends := endsRun_of_skipLayout_cons begun (by decide +kernel)
  rw [tokens_word isName ends, tokens_of_dropSpaced? rfl (by decide +kernel) opened]
  rfl

namespace Shape

variable {text rest : List Char} {shape : Shape}

theorem closeBrace_mem_of_braced? {body : List Char} (h : braced? text = some (body, rest))
    : .closeBrace ∈ tokens text := by
  obtain ⟨rfl, -⟩ := braced?_eq_some_iff.mp h
  rw [tokens_append_closeBrace]
  exact List.mem_append_right _ List.mem_cons_self

/-- What was matched as a counted block has the tokens of one, as far as its keyword can tell. -/
theorem tokens_of_times? (h : times? text = some (shape, rest))
    : ∃ found, tokens text = .word "repeat" :: found ∧ BehindKeyword found := by
  obtain ⟨digits, _, -, _, keyed, _, opened, behind, count, block, closed, braced⟩ :=
    times?_eq_some_iff.mp h
  obtain ⟨rfl, nonempty, all, ends⟩ := Text.run?_eq_some_iff.mp count
  refine ⟨_, tokens_of_keyword rfl keyed opened, ?_⟩
  rw [tokens_number nonempty all ends, tokens_of_dropSpaced? rfl (by decide +kernel) closed]
  exact .times digits (List.mem_cons_of_mem _ (closeBrace_mem_of_braced? braced))

/-- So has a guarded block. Its condition may be several tokens, all of them from word characters.
-/
theorem tokens_of_guarded? {keyword : List Char} {kind : StatementKind}
    (isName : Text.isName keyword = true) (h : guarded? keyword kind text = some (shape, rest))
    : ∃ found, tokens text = .word (String.ofList keyword) :: found ∧ BehindKeyword found := by
  obtain ⟨name, _, -, _, keyed, _, opened, behind, condition, _, asked, _, answered, _, closed,
    braced⟩ := guarded?_eq_some_iff.mp h
  obtain ⟨rfl, nonempty, all, ends⟩ := Text.run?_eq_some_iff.mp condition
  refine ⟨_, tokens_of_keyword isName keyed opened, ?_⟩
  obtain rfl := Text.dropChar?_eq_some_iff.mp answered
  have inWords : ∀ c, isWordChar c = false → .ofChar c ∉ tokens name := by
    intro c symbol member
    simp [all c (mem_of_ofChar_mem_tokens member)] at symbol
  rw [tokens_append name ends, tokens_of_dropSpaced? rfl (by decide +kernel) asked,
    tokens_symbol rfl (by decide +kernel), tokens_of_dropSpaced? rfl (by decide +kernel) closed]
  have brace := closeBrace_mem_of_braced? braced
  exact .guarded inWords (List.mem_cons_of_mem _ (List.mem_cons_of_mem _ brace))

end Shape

-----------------------------------------------------------------------------------------
-- Words without a statement in them
-----------------------------------------------------------------------------------------

/-- No action could be read at the end of the text. -/
def EndsInNoAction (text : List Char) : Prop :=
  ∀ action : Action, ¬ action.name.toList <:+ text

instance : DecidablePred EndsInNoAction := fun text =>
  decidable_of_iff (∀ action ∈ Action.all, ¬ action.name.toList <:+ text)
    ⟨fun h action => h action action.mem_all, fun h action _ => h action⟩

/-- The end of a text that ends in no action is such a text again. -/
theorem EndsInNoAction.of_cons {c : Char} {text : List Char} (h : EndsInNoAction (c :: text))
    : EndsInNoAction text := by
  intro action ends
  exact h action (ends.trans (List.suffix_cons c text))

/-- Every name of an action has a letter in it. -/
theorem endsInNoAction_of_digits {digits : List Char} (all : ∀ d ∈ digits, d.isDigit = true)
    : EndsInNoAction digits := by
  intro action ends
  obtain ⟨c, member, no_digit⟩ : ∃ c ∈ action.name.toList, c.isDigit = false := by
    cases action <;> exact ⟨_, List.mem_cons_self, rfl⟩
  simp [all c (ends.subset member)] at no_digit

/-- A run of word characters in front of a text, and tokens from where it begins: if the first of
these is a word, it is the whole run.
-/
theorem tokens_behind_run {run rest : List Char} {name : String} {found : List Token}
    (nonempty : run ≠ []) (all : ∀ c ∈ run, isWordChar c = true)
    (ends : EndsRun isWordChar rest) (h : tokens (run ++ rest) = .word name :: found)
    : tokens rest = found := by
  obtain ⟨behind, begun, -, name_chars, name_ends, left⟩ := begins_with_word h
  have start : EndsRun isLayout (run ++ rest) :=
    endsRun_isLayout (Text.isWord_iff.mpr ⟨nonempty, all⟩) rest
  rw [Text.skipLayout_of_endsRun start] at begun
  have same := congrArg (List.dropWhile isWordChar) begun
  rw [Text.dropWhile_run all ends, Text.dropWhile_run name_chars name_ends] at same
  rw [same, left]

namespace Shape

variable {run rest : List Char}

/-- An action is matched as a whole run only, and this run is none. -/
theorem act?_run_eq_none (nonempty : run ≠ []) (all : ∀ c ∈ run, isWordChar c = true)
    (ends : EndsRun isWordChar rest) (unlike : EndsInNoAction run)
    : act? (run ++ rest) = none := by
  rw [Option.eq_none_iff_forall_ne_some]
  intro matched found
  obtain ⟨action, -, _, named, -⟩ := act?_eq_some_iff.mp found
  rw [Text.run?_run nonempty all ends] at named
  obtain ⟨rfl, -⟩ := Prod.mk.inj (Option.some.inj named)
  exact unlike action List.suffix_rfl

/-- Nothing is matched where a run of word characters begins, if it does not end in an action and
no block can go on behind it. By cases over what might be matched.
-/
theorem match?_run_eq_none (nonempty : run ≠ []) (all : ∀ c ∈ run, isWordChar c = true)
    (ends : EndsRun isWordChar rest) (unlike : EndsInNoAction run)
    (h : ¬ BehindKeyword (tokens rest))
    : match? (run ++ rest) = none := by
  have no_block {name : String}
      : ¬ ∃ found, tokens (run ++ rest) = .word name :: found ∧ BehindKeyword found := by
    rintro ⟨found, same, behind⟩
    rw [← tokens_behind_run nonempty all ends same] at behind
    exact h behind
  cases matched : match? (run ++ rest) with
  | none => rfl
  | some shape =>
      rcases match?_eq_some_iff.mp matched with times | ⟨-, when_ | ⟨-, loop | ⟨-, act⟩⟩⟩
      · exact absurd (tokens_of_times? times) no_block
      · exact absurd (tokens_of_guarded? rfl when_) no_block
      · exact absurd (tokens_of_guarded? rfl loop) no_block
      · rw [act?_run_eq_none nonempty all ends unlike] at act
        cases act

/-- Such a run is skipped, by induction over its characters: each end of it is such a run
again.
-/
theorem find?_run (all : ∀ c ∈ run, isWordChar c = true) (ends : EndsRun isWordChar rest)
    (unlike : EndsInNoAction run) (h : ¬ BehindKeyword (tokens rest))
    : find? (run ++ rest) = find? rest := by
  induction run with
  | nil => rfl
  | cons c run ih =>
      have nothing := match?_run_eq_none (List.cons_ne_nil c run) all ends unlike h
      rw [List.cons_append] at nothing ⊢
      rw [find?, nothing, ← ih (List.forall_mem_cons.mp all).2 unlike.of_cons]
      rfl

end Shape

-----------------------------------------------------------------------------------------
-- Tokens that are skipped
-----------------------------------------------------------------------------------------

/-- The flat reader finds nothing in these tokens, with others behind them, and looks on where
they end.
-/
def Skips (front found : List Token) : Prop :=
  ∀ text,
    tokens text = front ++ found
    → ∃ rest, Shape.find? text = Shape.find? rest ∧ tokens rest = found

section

variable {front found : List Token}

/-- Tokens are skipped one after the other; what stands behind each may decide whether it is. -/
theorem Skips.cons {token : Token} (head : Skips [token] (front ++ found))
    (tail : Skips front found)
    : Skips (token :: front) found := by
  intro text h
  obtain ⟨between, first, left⟩ := head text h
  obtain ⟨rest, later, behind⟩ := tail between left
  exact ⟨rest, first.trans later, behind⟩

theorem skips_symbol {c : Char} (symbol : isWordChar c = false) : Skips [.ofChar c] found := by
  intro text h
  obtain ⟨rest, begun, left⟩ := begins_with_symbol h
  refine ⟨rest, ?_, left⟩
  rw [← Shape.find?_skipLayout text, begun, Shape.find?_of_isWordChar_eq_false symbol]

/-- A word is skipped if it ends in no action and, in case it ends in a keyword, no block goes on
behind it.
-/
theorem skips_word {name : String} (unlike : EndsInNoAction name.toList)
    (h : ¬ BehindKeyword found)
    : Skips [.word name] found := by
  intro text same
  obtain ⟨rest, begun, -, all, ends, left⟩ := begins_with_word same
  refine ⟨rest, ?_, left⟩
  rw [← Shape.find?_skipLayout text, begun, Shape.find?_run all ends unlike (left ▸ h)]

/-- A number that ends at a parenthesis is skipped like a word. -/
theorem skips_number (digits : List Char) : Skips [.number digits] (.closeParen :: found) := by
  intro text same
  obtain ⟨rest, begun, -, all, -, left⟩ := begins_with_number same
  obtain ⟨_, closed, -⟩ := begins_with_symbol (c := ')') left
  have ends := endsRun_of_skipLayout_cons closed (by decide +kernel)
  have word_chars : ∀ c ∈ digits, isWordChar c = true :=
    fun c member => Text.isWordChar_of_isDigit (all c member)
  have behind : ¬ BehindKeyword (tokens rest) := by
    rw [left]
    exact not_behindKeyword_of_head?_ne (by simp)
  refine ⟨rest, ?_, left⟩
  rw [← Shape.find?_skipLayout text, begun,
    Shape.find?_run word_chars ends (endsInNoAction_of_digits all) behind]

end

-----------------------------------------------------------------------------------------
-- Headers that are skipped
-----------------------------------------------------------------------------------------

theorem endsInNoAction_guard (guard : Guard) : EndsInNoAction guard.word.toList := by
  cases guard <;> decide

/-- A header is skipped, with the brace that it opens, if it makes a comparison or if no brace is
closed any more. By cases over the header, one token after the other.
-/
theorem DerivesHeader.skips {head found : List Token} {header : Header}
    (headed : DerivesHeader head header)
    (unlike : ∀ condition ∈ header.conditions, EndsInNoAction condition.toList)
    (h : .greater ∈ head ∨ .closeBrace ∉ found)
    : Skips (head ++ [.openBrace]) found := by
  have openParen {found} : Skips [.openParen] found :=
    skips_symbol (c := '(') (by decide +kernel)
  have closeParen {found} : Skips [.closeParen] found :=
    skips_symbol (c := ')') (by decide +kernel)
  have greater {found} : Skips [.greater] found := skips_symbol (c := '>') (by decide +kernel)
  have openBrace : Skips [.openBrace] found := skips_symbol (c := '\x7b') (by decide +kernel)
  cases headed with
  | times value =>
      have not_closed : .closeBrace ∉ found := by simpa using h
      refine Skips.cons (skips_word (by decide) ?_) ?_
      · exact not_behindKeyword_of_not_closed (by simpa using not_closed)
      · exact openParen.cons ((skips_number _).cons (closeParen.cons openBrace))
  | @guarded _ condition guard holds =>
      cases holds with
      | call =>
          have not_closed : .closeBrace ∉ found := by simpa using h
          have named := unlike condition (List.mem_singleton_self condition)
          refine Skips.cons (skips_word (endsInNoAction_guard guard) ?_) ?_
          · exact not_behindKeyword_of_not_closed (by simpa using not_closed)
          · refine openParen.cons (Skips.cons (skips_word named not_behindKeyword_of_call) ?_)
            exact openParen.cons (closeParen.cons (closeParen.cons openBrace))
      | energy =>
          refine Skips.cons (skips_word (endsInNoAction_guard guard) ?_) ?_
          · exact not_behindKeyword_of_comparison "energy"
          · refine openParen.cons (Skips.cons (skips_word (by decide) ?_) ?_)
            · exact not_behindKeyword_of_head?_ne (by simp)
            · exact greater.cons ((skips_number ['0']).cons (closeParen.cons openBrace))

end RobotPuzzle.Script
