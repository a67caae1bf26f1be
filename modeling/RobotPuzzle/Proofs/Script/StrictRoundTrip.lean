import RobotPuzzle.Proofs.Script.Conditions
import RobotPuzzle.Proofs.Script.PrintedTokens
import RobotPuzzle.Proofs.Script.StrictReader
import RobotPuzzle.Script.Printer

/-! Which scripts the strict reader gets back from their text: those whose conditions are
spelled as it would spell them.
-/

namespace RobotPuzzle.Script

/-- The condition is one that the strict reader can have read: the comparison of energy, or a
name.
-/
def isStrictCondition (condition : String) : Bool :=
  condition == "energy>0" || Text.isName condition.toList

-----------------------------------------------------------------------------------------
-- The tokens of a printed script
-----------------------------------------------------------------------------------------

theorem writes_openParen : Writes ['('] [.openParen] :=
  .symbol rfl rfl rfl

theorem writes_closeParen : Writes [')'] [.closeParen] :=
  .symbol rfl rfl rfl

theorem writes_space : Writes [' '] [] :=
  .layout rfl

/-- A name with empty parentheses behind it is a call, whatever follows. -/
theorem writes_call {name : List Char} (isName : Text.isName name = true)
    : Writes (name ++ ['(', ')']) [.word (String.ofList name), .openParen, .closeParen] :=
  .word isName (Text.isWordChar_of_ascii (by decide))
    (writes_openParen.append writes_closeParen)

theorem isName_actionName (action : Action) : Text.isName action.name.toList = true := by
  cases action <;> decide +kernel

/-- A condition and the parenthesis behind it stand for tokens that derive the condition. -/
theorem writes_condition {condition : String} (h : isStrictCondition condition = true)
    : ∃ asked,
        DerivesCondition asked condition
        ∧ Writes (conditionText condition ++ [')']) (asked ++ [.closeParen]) := by
  by_cases energy : condition = "energy>0"
  · subst energy
    -- The word ends at the space behind it, and the number at the parenthesis.
    have zero : Writes (['0'] ++ ')' :: []) (.number ['0'] :: [.closeParen]) :=
      .number (by simp) (by simp) rfl writes_closeParen
    have greater : Writes ['>'] [.greater] := .symbol rfl rfl rfl
    have comparison := writes_space.append (greater.append (writes_space.append zero))
    have isName : Text.isName "energy".toList = true := by decide +kernel
    exact ⟨_, .energy, .word isName (Text.isWordChar_of_ascii (by decide)) comparison⟩
  · have isName : Text.isName condition.toList = true := by
      simpa [isStrictCondition, energy] using h
    have called := (writes_call isName).append writes_closeParen
    rw [String.ofList_toList] at called
    exact ⟨_, .call condition, by simpa only [conditionText, if_neg energy] using called⟩

/-- A word, a parenthesis, what stands up to the other parenthesis, and a body stand for the
tokens of a block.
-/
theorem writes_block {word inside body : List Char} {head tail : List Token}
    (isName : Text.isName word = true)
    (header : Writes (inside ++ [')']) (head ++ [.closeParen]))
    (block : Writes body (tail ++ [.closeBrace]))
    : Writes (word ++ '(' :: inside ++ [')', ' '] ++ '\x7b' :: body)
        ([.word (String.ofList word), .openParen] ++ head ++ [.closeParen]
          ++ (.openBrace :: tail ++ [.closeBrace])) := by
  have brace : Writes ['\x7b'] [.openBrace] := .symbol rfl rfl rfl
  have behind := header.append (writes_space.append (brace.append block))
  have whole := Writes.word isName (Text.isWordChar_of_ascii (by decide))
    (writes_openParen.append behind)
  simpa using whole

/-- A count is printed as digits that have its value. -/
theorem writes_count (count : UInt32)
    : ∃ digits,
        Text.digitsValue digits = count.toNat
        ∧ Writes (Nat.toDigits 10 count.toNat ++ [')']) ([.number digits] ++ [.closeParen]) :=
  ⟨_, Nat.ofDigitChars_ten_toDigits,
    .number Nat.toDigits_ne_nil
      (fun _ member => Nat.isDigit_of_mem_toDigits (by decide) (by decide) member) rfl
      writes_closeParen⟩

mutual

/-- The text of a statement stands for tokens that derive it, by recursion on the statement. -/
theorem writes_statement (statement : Statement)
    (h : ∀ condition ∈ statement.conditions, isStrictCondition condition = true)
    : ∃ found, DerivesStatement found statement ∧ Writes statement.chars found := by
  match statement with
  | .act action =>
      have called := writes_call (isName_actionName action)
      rw [String.ofList_toList] at called
      exact ⟨_, .act action .present .absent, called⟩
  | .times count body =>
      obtain ⟨found, derives, block⟩ := writes_body body h
      obtain ⟨digits, value, header⟩ := writes_count count
      have isName : Text.isName "repeat".toList = true := by decide +kernel
      exact ⟨_, .times value (.braces derives), writes_block isName header block⟩
  | .when condition body =>
      simp only [Statement.conditions, List.forall_mem_cons] at h
      obtain ⟨found, derives, block⟩ := writes_body body h.2
      obtain ⟨asked, guard, header⟩ := writes_condition h.1
      have isName : Text.isName "if".toList = true := by decide +kernel
      exact ⟨_, .when guard (.braces derives), writes_block isName header block⟩
  | .loop condition body =>
      simp only [Statement.conditions, List.forall_mem_cons] at h
      obtain ⟨found, derives, block⟩ := writes_body body h.2
      obtain ⟨asked, guard, header⟩ := writes_condition h.1
      have isName : Text.isName "while".toList = true := by decide +kernel
      exact ⟨_, .loop guard (.braces derives), writes_block isName header block⟩

/-- A body is printed as the tokens of its statements and the brace that closes it. -/
theorem writes_body (body : List Statement)
    (h : ∀ condition ∈ Script.conditions body, isStrictCondition condition = true)
    : ∃ found, DerivesScript found body ∧ Writes (bodyChars body) (found ++ [.closeBrace]) := by
  match body with
  | [] =>
      have brace : Writes ['\x7d'] [.closeBrace] := .symbol rfl rfl rfl
      exact ⟨[], .nil, writes_space.append brace⟩
  | statement :: body =>
      simp only [Script.conditions, List.forall_mem_append] at h
      obtain ⟨first, head, written⟩ := writes_statement statement h.1
      obtain ⟨rest, tail, behind⟩ := writes_body body h.2
      refine ⟨_, .cons head tail, ?_⟩
      rw [List.append_assoc]
      exact writes_space.append (written.append behind)

end

/-- The text of a script stands for tokens that derive it, by recursion on its lines. -/
theorem writes_script (script : Script)
    (h : ∀ condition ∈ script.conditions, isStrictCondition condition = true)
    : ∃ found, DerivesScript found script ∧ Writes script.chars found := by
  fun_induction Script.chars script with
  | case1 => exact ⟨[], .nil, .nil⟩
  | case2 statement =>
      simp only [Script.conditions, List.forall_mem_append] at h
      obtain ⟨found, derives, written⟩ := writes_statement statement h.1
      exact ⟨found, derives.script, written⟩
  | case3 statement script _ ih =>
      simp only [Script.conditions, List.forall_mem_append] at h
      obtain ⟨first, head, written⟩ := writes_statement statement h.1
      obtain ⟨rest, tail, behind⟩ := ih h.2
      have newline : Writes ['\n'] [] := .layout rfl
      exact ⟨_, .cons head tail, written.append (newline.append behind)⟩

/-- A script whose conditions are spelled as the strict reader spells them is read back. -/
theorem readStrict_chars {script : Script}
    (h : ∀ condition ∈ script.conditions, isStrictCondition condition = true)
    : readStrict script.chars = .ok script := by
  obtain ⟨found, derives, written⟩ := writes_script script h
  rw [readStrict_eq_ok_iff, written.tokenized.tokens_eq]
  exact derives

-----------------------------------------------------------------------------------------
-- The conditions of a script that was read
-----------------------------------------------------------------------------------------

/-- The words of a text are names, by induction over its tokens. -/
theorem Tokenized.isName_of_word {text : List Char} {found : List Token}
    (h : Tokenized text found) {name : String} (member : .word name ∈ found)
    : Text.isName name.toList = true := by
  induction h with
  | nil => simp at member
  | layout _ _ ih => exact ih member
  | word letter name_chars _ _ ih =>
      rcases List.mem_cons.mp member with same | later
      · obtain rfl := Token.word.inj same
        simpa [Text.isName, letter] using name_chars
      · exact ih later
  | number _ _ _ _ ih =>
      rcases List.mem_cons.mp member with same | later
      · cases same
      · exact ih later
  | symbol _ _ _ _ ih =>
      rcases List.mem_cons.mp member with same | later
      · exact absurd same.symm (ofChar_ne_word _ _)
      · exact ih later

/-- A condition is the comparison or one of the words that were read. -/
theorem DerivesCondition.word {asked : List Token} {condition : String}
    (h : DerivesCondition asked condition)
    : condition = "energy>0" ∨ .word condition ∈ asked := by
  cases h with
  | call => exact Or.inr (by simp)
  | energy => exact Or.inl rfl

mutual

/-- The conditions of a derived statement are words of it, by recursion on the derivation. -/
theorem DerivesStatement.conditions {found : List Token} {statement : Statement}
    (h : DerivesStatement found statement) {condition : String}
    (member : condition ∈ statement.conditions)
    : condition = "energy>0" ∨ .word condition ∈ found := by
  match h with
  | .act .. => simp [Statement.conditions] at member
  | .times value inside =>
      exact (inside.conditions member).imp_right (List.mem_append_right _)
  | .when guard inside =>
      rcases List.mem_cons.mp member with rfl | later
      · exact guard.word.imp_right (by simp +contextual)
      · exact (inside.conditions later).imp_right (List.mem_append_right _)
  | .loop guard inside =>
      rcases List.mem_cons.mp member with rfl | later
      · exact guard.word.imp_right (by simp +contextual)
      · exact (inside.conditions later).imp_right (List.mem_append_right _)

theorem DerivesBlock.conditions {found : List Token} {body : List Statement}
    (h : DerivesBlock found body) {condition : String}
    (member : condition ∈ Script.conditions body)
    : condition = "energy>0" ∨ .word condition ∈ found := by
  match h with
  | .braces inside => exact (inside.conditions member).imp_right (by simp +contextual)

/-- So it is for every condition of a script, by recursion over how it is derived. -/
theorem DerivesScript.conditions {found : List Token} {script : Script}
    (h : DerivesScript found script) {condition : String}
    (member : condition ∈ script.conditions)
    : condition = "energy>0" ∨ .word condition ∈ found := by
  match h with
  | .nil => simp [Script.conditions] at member
  | .cons head tail =>
      rcases List.mem_append.mp member with first | later
      · exact (head.conditions first).imp_right (List.mem_append_left _)
      · exact (tail.conditions later).imp_right (List.mem_append_right _)

end

/-- Whatever text a script is read from, its conditions are the comparison of energy and names.
-/
theorem isStrictCondition_of_readStrict {text : List Char} {script : Script}
    (h : readStrict text = .ok script) {condition : String}
    (member : condition ∈ script.conditions)
    : isStrictCondition condition = true := by
  have derives := (readStrict_eq_ok_iff text script).mp h
  -- A condition that is a word of the text is a name, since the scanner made it.
  rcases derives.conditions member with rfl | word
  · simp [isStrictCondition]
  · simp [isStrictCondition, (tokenized_tokens text).isName_of_word word]

/-- The strict reader gets a script back from its text exactly if every condition in it, at
any depth, is the comparison of energy or a name.
-/
theorem readStrict_text_iff (script : Script)
    : readStrict script.text.toList = .ok script
      ↔ ∀ condition ∈ script.conditions, isStrictCondition condition = true := by
  rw [Script.text, String.toList_ofList]
  constructor
  · intro read condition member
    exact isStrictCondition_of_readStrict read member
  · exact readStrict_chars

end RobotPuzzle.Script
