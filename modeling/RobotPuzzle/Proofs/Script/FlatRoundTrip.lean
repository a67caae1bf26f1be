import RobotPuzzle.Proofs.Script.FlatShapes
import RobotPuzzle.Proofs.Script.StrictRoundTrip

/-! Which scripts the flat reader gets back from their text, and that it reads no others from
whatever text: those in which blocks have only actions in them, and conditions are words.
-/

namespace RobotPuzzle.Script

open Text (dropSpaced? skipLayout)

/-- No block stands in another, and the conditions are words, letters or not in front. -/
structure HasFlatForm (script : Script) : Prop where
  blocks : ∀ statement ∈ script, statement.isFlat = true
  conditions : ∀ condition ∈ script.conditions, Text.isWord condition.toList = true

theorem hasFlatForm_nil : HasFlatForm [] :=
  ⟨nofun, nofun⟩

/-- Flat form is checked one statement at a time. -/
theorem hasFlatForm_cons_iff {statement : Statement} {script : Script}
    : HasFlatForm (statement :: script)
      ↔ (statement.isFlat = true
          ∧ ∀ condition ∈ statement.conditions, Text.isWord condition.toList = true)
        ∧ script.HasFlatForm := by
  constructor
  · rintro ⟨blocks, asked⟩
    simp only [Script.conditions, List.forall_mem_append] at asked
    obtain ⟨first, later⟩ := List.forall_mem_cons.mp blocks
    exact ⟨⟨first, asked.1⟩, later, asked.2⟩
  · rintro ⟨⟨first, asked⟩, later⟩
    refine ⟨List.forall_mem_cons.mpr ⟨first, later.blocks⟩, ?_⟩
    simp only [Script.conditions, List.forall_mem_append]
    exact ⟨asked, later.conditions⟩

theorem conditions_of_acts {script : Script} (acts : script.all Statement.isAct = true)
    : script.conditions = [] := by
  induction script with
  | nil => rfl
  | cons statement script ih =>
      obtain ⟨act, acts⟩ := Bool.and_eq_true_iff.mp acts
      cases statement with
      | act action => exact ih acts
      | _ => simp [Statement.isAct] at act

-----------------------------------------------------------------------------------------
-- What is read from any text
-----------------------------------------------------------------------------------------

/-- No body that was matched holds a closing brace, for it stops at the first one. -/
theorem Shape.Formed.not_mem_body {shape : Shape} (formed : shape.Formed) {body : List Char}
    (h : shape.body = some body)
    : '\x7d' ∉ body := by
  cases formed with
  | act action => cases h
  | times _ inside => exact Option.some.inj h ▸ inside
  | guarded _ _ inside => exact Option.some.inj h ▸ inside

/-- The condition of a guarded shape was matched as a run of word characters. -/
theorem Shape.Formed.isWord_param {shape : Shape} (formed : shape.Formed) {guard : Guard}
    (h : shape.kind = guard.kind)
    : Text.isWord shape.param = true := by
  cases formed with
  | act action => cases guard <;> cases h
  | times => cases guard <;> cases h
  | guarded _ word => exact word

/-- Only actions are read from a text without a closing brace, as every block would need one. By
induction over the statements.
-/
theorem ReadsFlat.acts {text : List Char} {script : Script} (h : ReadsFlat text script)
    (no_brace : '\x7d' ∉ text)
    : script.all Statement.isAct = true := by
  induction h with
  | nil => rfl
  | cons found spells _ ih =>
      have place := Shape.find?_foundIn found
      have act := ih (fun member => no_brace (place.suffix.subset member))
      cases spells with
      | act action => exact act
      | times => exact absurd (place.closed (by simp)) no_brace
      | guarded => exact absurd (place.closed (by simp)) no_brace

/-- A body has only actions in it: it has been cut off at the first closing brace. -/
theorem acts_of_readFlat_trim {body : List Char} {script : Script}
    (read : readFlat (Text.trim body) = .ok script) (inside : '\x7d' ∉ body)
    : script.all Statement.isAct = true := by
  apply (readFlat_eq_ok_iff.mp read).acts
  exact fun member => inside (Text.trim_subset body member)

/-- What is read from whatever text has flat form, by induction over the statements and by cases
over the shapes that they were read from.
-/
theorem ReadsFlat.hasFlatForm {text : List Char} {script : Script} (h : ReadsFlat text script)
    : script.HasFlatForm := by
  induction h with
  | nil => exact hasFlatForm_nil
  | cons found spells _ ih =>
      have formed := (Shape.find?_foundIn found).formed
      refine hasFlatForm_cons_iff.mpr ⟨?_, ih⟩
      cases spells with
      | act action => exact ⟨rfl, nofun⟩
      | times _ read =>
          have acts := acts_of_readFlat_trim read (formed.not_mem_body rfl)
          refine ⟨acts, ?_⟩
          simp [Statement.conditions, conditions_of_acts acts]
      | guarded guard read =>
          have acts := acts_of_readFlat_trim read (formed.not_mem_body rfl)
          have word := formed.isWord_param rfl
          cases guard with
          | when | loop =>
              refine ⟨acts, ?_⟩
              simpa [Header.close, Statement.conditions, conditions_of_acts acts] using word

-----------------------------------------------------------------------------------------
-- What is read from the text of a statement
-----------------------------------------------------------------------------------------

theorem chars_act (action : Action)
    : (Statement.act action).chars = action.name.toList ++ ['(', ')'] :=
  rfl

theorem chars_times (count : UInt32) (body : Script)
    : (Statement.times count body).chars
      = "repeat".toList
        ++ '(' :: (Nat.toDigits 10 count.toNat ++ ')' :: ' ' :: '\x7b' :: bodyChars body) := by
  change "repeat(".toList ++ Nat.toDigits 10 count.toNat ++ [')', ' '] ++ '\x7b' :: bodyChars body
    = _
  simp

/-- A guarded block is printed with its condition called, unless that is the comparison. -/
theorem chars_guarded (guard : Guard) {condition : String} (call : condition ≠ "energy>0")
    (body : Script)
    : ((Header.guarded guard condition).close body).chars
      = guard.word.toList
        ++ '(' :: (condition.toList
          ++ '(' :: ')' :: ')' :: ' ' :: '\x7b' :: bodyChars body) := by
  have asked : conditionText condition = condition.toList ++ ['(', ')'] := if_neg call
  cases guard with
  | when =>
      change "if(".toList ++ conditionText condition ++ [')', ' '] ++ '\x7b' :: bodyChars body = _
      simp [asked, Guard.word]
  | loop =>
      change "while(".toList ++ conditionText condition ++ [')', ' '] ++ '\x7b' :: bodyChars body
        = _
      simp [asked, Guard.word]

/-- The text of a body with only actions in it goes up to its first closing brace. -/
theorem bodyChars_of_acts {body : Script} (acts : body.all Statement.isAct = true)
    : ∃ inside, bodyChars body = inside ++ ['\x7d'] ∧ '\x7d' ∉ inside := by
  induction body with
  | nil => exact ⟨[' '], rfl, by simp⟩
  | cons statement body ih =>
      obtain ⟨act, acts⟩ := Bool.and_eq_true_iff.mp acts
      obtain ⟨inside, same, no_brace⟩ := ih acts
      cases statement with
      | act action =>
          refine ⟨' ' :: action.name.toList ++ ['(', ')'] ++ inside, ?_, ?_⟩
          · rw [bodyChars, chars_act, same, ← List.append_assoc]
            rfl
          · cases action <;> simpa [Action.name] using no_brace
      | _ => simp [Statement.isAct] at act

/-- A body with only actions in it is cut out of a text as it was written there, and is read as
what it was: it has the tokens of the body, which derive the actions.
-/
theorem readFlat_printed_body {body : Script} (acts : body.all Statement.isAct = true)
    : ∃ inside,
        (∀ rest, Shape.braced? ('\x7b' :: (bodyChars body ++ rest)) = some (inside, rest))
        ∧ readFlat (Text.trim inside) = .ok body := by
  obtain ⟨inside, same, no_brace⟩ := bodyChars_of_acts acts
  obtain ⟨found, derives, written⟩ := writes_body body (by simp [conditions_of_acts acts])
  refine ⟨inside, ?_, readFlat_trim_of_acts ?_ acts⟩
  · intro rest
    exact Shape.braced?_eq_some_iff.mpr ⟨by simp [same], no_brace⟩
  · have whole := written.tokenized.tokens_eq
    rw [same, tokens_append_closeBrace, tokens_nil] at whole
    rw [List.append_cancel_right whole]
    exact derives

/-- A header is closed and its block opened, with a space between. -/
theorem dropSpaced?_closed (block : List Char)
    : dropSpaced? ')' (')' :: ' ' :: '\x7b' :: block) = some ('\x7b' :: block) :=
  Text.dropSpaced?_cons rfl _

/-- What is in parentheses is found behind the opening one, if it does not begin with layout. -/
theorem dropSpaced?_opened {text : List Char} (start : Text.EndsRun Text.isLayout text)
    : dropSpaced? '(' ('(' :: text) = some text := by
  rw [Text.dropSpaced?_cons rfl, Text.skipLayout_of_endsRun start]

theorem isWord_actionName (action : Action) : Text.isWord action.name.toList = true := by
  cases action <;> decide +kernel

theorem endsRun_openParen (rest : List Char) : Text.EndsRun Text.isWordChar ('(' :: rest) :=
  Text.endsRun_cons (by decide +kernel) rest

namespace Shape

variable {block inside rest : List Char}

/-- A printed counted block is matched step by step up to its brace; how its body ends is a
hypothesis.
-/
theorem times?_printed {digits : List Char}
    (numeral : digits ≠ [] ∧ ∀ d ∈ digits, d.isDigit = true)
    (braced : braced? ('\x7b' :: block) = some (inside, rest))
    : times? ("repeat".toList ++ '(' :: (digits ++ ')' :: ' ' :: '\x7b' :: block))
      = some (⟨.times, digits, some inside⟩, rest) := by
  have word : Text.isWord digits = true :=
    Text.isWord_iff.mpr
      ⟨numeral.1, fun d member => Text.isWordChar_of_isDigit (numeral.2 d member)⟩
  have opened := dropSpaced?_opened (endsRun_isLayout word (')' :: ' ' :: '\x7b' :: block))
  have counted := Text.run?_run numeral.1 numeral.2
    (Text.endsRun_cons (c := ')') rfl (' ' :: '\x7b' :: block))
  exact times?_eq_some_iff.mpr
    ⟨digits, inside, rfl, _, Text.dropText?_append _ _, _, opened, _, counted, _,
      dropSpaced?_closed block, braced⟩

/-- A printed guarded block is matched in the same way, by any keyword. -/
theorem guarded?_printed {keyword name : List Char} (kind : StatementKind)
    (word : Text.isWord name = true)
    (braced : braced? ('\x7b' :: block) = some (inside, rest))
    : guarded? keyword kind
        (keyword ++ '(' :: (name ++ '(' :: ')' :: ')' :: ' ' :: '\x7b' :: block))
      = some (⟨kind, name, some inside⟩, rest) := by
  obtain ⟨nonempty, all⟩ := Text.isWord_iff.mp word
  have opened := dropSpaced?_opened
    (endsRun_isLayout word ('(' :: ')' :: ')' :: ' ' :: '\x7b' :: block))
  have condition := Text.run?_run nonempty all
    (endsRun_openParen (')' :: ')' :: ' ' :: '\x7b' :: block))
  have asked := dropSpaced?_opened
    (Text.endsRun_cons (c := ')') rfl (')' :: ' ' :: '\x7b' :: block))
  exact guarded?_eq_some_iff.mpr
    ⟨name, inside, rfl, _, Text.dropText?_append _ _, _, opened, _, condition, _, asked, _,
      Text.dropChar?_cons _ _, _, dropSpaced?_closed block, braced⟩

/-- A printed action is matched with its parentheses, if no semicolon comes next. -/
theorem act?_printed (action : Action) (ends : dropSpaced? ';' rest = none)
    : act? (action.name.toList ++ '(' :: ')' :: rest)
      = some (⟨.act, action.name.toList, none⟩, rest) := by
  obtain ⟨nonempty, all⟩ := Text.isWord_iff.mp (isWord_actionName action)
  have named := Text.run?_run nonempty all (endsRun_openParen (')' :: rest))
  have opened := dropSpaced?_opened (Text.endsRun_cons (c := ')') rfl rest)
  refine act?_eq_some_iff.mpr ⟨action, rfl, _, named, ?_⟩
  simp [dropCall, opened, dropSemicolon, ends]

end Shape

/-- The text of a guarded block of actions is matched as a shape that stands for it. No word is the
comparison, so the condition is printed as a call.
-/
theorem match?_guarded_chars (guard : Guard) {condition : String}
    (word : Text.isWord condition.toList = true) {body : Script}
    (acts : body.all Statement.isAct = true) (rest : List Char)
    : ∃ shape,
        Shape.match? (((Header.guarded guard condition).close body).chars ++ rest)
          = some (shape, rest)
        ∧ shape.Spells ((Header.guarded guard condition).close body) := by
  obtain ⟨inside, braced, read⟩ := readFlat_printed_body acts
  have call : condition ≠ "energy>0" := by
    rintro rfl
    exact absurd word (by decide +kernel)
  have spells := @Shape.Spells.guarded guard condition.toList inside body read
  rw [String.ofList_toList] at spells
  refine ⟨_, ?_, spells⟩
  rw [chars_guarded guard call, List.append_assoc, List.cons_append, List.append_assoc]
  cases guard with
  | when => exact Shape.match?_of_when? rfl (Shape.guarded?_printed .when word (braced rest))
  | loop => exact Shape.match?_of_loop? rfl (Shape.guarded?_printed .loop word (braced rest))

/-- The text of a statement of flat form is matched as a shape that stands for the statement,
whatever is behind it that does not go on with it. By cases over the statement.
-/
theorem match?_chars {statement : Statement} (flat : statement.isFlat = true)
    (words : ∀ condition ∈ statement.conditions, Text.isWord condition.toList = true)
    {rest : List Char} (ends : dropSpaced? ';' rest = none)
    : ∃ shape,
        Shape.match? (statement.chars ++ rest) = some (shape, rest) ∧ shape.Spells statement := by
  cases statement with
  | act action =>
      refine ⟨_, ?_, .act action⟩
      rw [chars_act, List.append_assoc, Shape.match?_eq_act?]
      · exact Shape.act?_printed action ends
      all_goals cases action <;> simp [Action.name]
  | times count body =>
      obtain ⟨inside, braced, read⟩ := readFlat_printed_body flat
      have numeral
          : Nat.toDigits 10 count.toNat ≠ []
            ∧ ∀ d ∈ Nat.toDigits 10 count.toNat, d.isDigit = true :=
        ⟨Nat.toDigits_ne_nil,
          fun _ member => Nat.isDigit_of_mem_toDigits (by decide) (by decide) member⟩
      have counted := readCount_digits numeral Nat.ofDigitChars_ten_toDigits
      refine ⟨_, ?_, .times counted read⟩
      rw [chars_times, List.append_assoc, List.cons_append, List.append_assoc]
      exact Shape.match?_of_times? (Shape.times?_printed numeral (braced rest))
  | when condition body =>
      exact match?_guarded_chars .when (words condition List.mem_cons_self) flat rest
  | loop condition body =>
      exact match?_guarded_chars .loop (words condition List.mem_cons_self) flat rest

-----------------------------------------------------------------------------------------
-- What is read from the text of a script
-----------------------------------------------------------------------------------------

/-- A line end in front is skipped like any character that stands in no word. -/
theorem ReadsFlat.newline {text : List Char} {script : Script} (h : ReadsFlat text script)
    : ReadsFlat ('\n' :: text) script :=
  h.of_find?_eq (Shape.find?_of_isWordChar_eq_false (Text.isWordChar_of_isBlank rfl) text)

/-- Every statement is printed with a letter in front. -/
theorem chars_begin (statement : Statement)
    : ∃ c rest, statement.chars = c :: rest ∧ c.isAlpha = true := by
  cases statement with
  | act action => cases action <;> exact ⟨_, _, rfl, rfl⟩
  | times => exact ⟨'r', _, rfl, rfl⟩
  | when => exact ⟨'i', _, rfl, rfl⟩
  | loop => exact ⟨'w', _, rfl, rfl⟩

/-- No line begins with what could still belong to the statement on the line before it. -/
theorem dropSpaced?_newline_chars (script : Script)
    : dropSpaced? ';' ('\n' :: script.chars) = none := by
  cases script with
  | nil => rfl
  | cons statement script =>
      obtain ⟨c, rest, begun, letter⟩ := chars_begin statement
      obtain ⟨tail, same⟩ : ∃ tail, Script.chars (statement :: script) = c :: tail := by
        cases script with
        | nil => exact ⟨rest, begun⟩
        | cons next script =>
            refine ⟨rest ++ '\n' :: Script.chars (next :: script), ?_⟩
            rw [Script.chars, begun, List.cons_append]
            simp
      have skipped : skipLayout ('\n' :: c :: tail) = c :: tail :=
        Text.skipLayout_of_endsRun (Text.endsRun_cons (isLayout_of_isAlpha letter) tail)
      have other : c ≠ ';' := by
        rintro rfl
        cases letter
      rw [same, dropSpaced?, skipped]
      simp [Text.dropChar?, other]

/-- A script of flat form is read from its text, by recursion on its lines. -/
theorem readsFlat_chars {script : Script} (form : script.HasFlatForm)
    : ReadsFlat script.chars script := by
  fun_induction Script.chars script with
  | case1 => exact .nil rfl
  | case2 statement =>
      obtain ⟨⟨flat, words⟩, -⟩ := hasFlatForm_cons_iff.mp form
      obtain ⟨shape, matched, spells⟩ :=
        match?_chars flat words (show dropSpaced? ';' [] = none from rfl)
      rw [List.append_nil] at matched
      exact .cons (Shape.find?_of_match?_eq matched) spells (.nil rfl)
  | case3 statement script _ ih =>
      obtain ⟨⟨flat, words⟩, form⟩ := hasFlatForm_cons_iff.mp form
      obtain ⟨shape, matched, spells⟩ :=
        match?_chars flat words (dropSpaced?_newline_chars script)
      exact .cons (Shape.find?_of_match?_eq matched) spells (ih form).newline

/-- The flat reader gets a script back from its text exactly if that has flat form: its blocks
have only actions in them, and its conditions are words. And it reads no other scripts, from
whatever text.
-/
theorem readFlat_text_iff (script : Script)
    : (readFlat script.text.toList = .ok script ↔ script.HasFlatForm)
      ∧ ∀ text,
          readFlat text = .ok script
          → script.HasFlatForm ∧ readFlat script.text.toList = .ok script := by
  have form {text} (read : readFlat text = .ok script) : script.HasFlatForm :=
    (readFlat_eq_ok_iff.mp read).hasFlatForm
  have back (form : script.HasFlatForm) : readFlat script.text.toList = .ok script := by
    rw [Script.text, String.toList_ofList]
    exact readFlat_eq_ok_iff.mpr (readsFlat_chars form)
  exact ⟨⟨form, back⟩, fun text read => ⟨form read, back (form read)⟩⟩

/-- Junk around a block and in it, and a condition that cannot be the name of a function. -/
def strayText : List Char :=
  "?? if (9é ( )) \x7b move, 2 turnLeft \x7d \x7d repeat".toList

def strayScript : Script :=
  [.when "9é" [.act .move, .act .turnLeft]]

theorem readFlat_text_iff_amid_junk
    : readFlat strayText = .ok strayScript
      ∧ strayScript.HasFlatForm
      ∧ readFlat strayScript.text.toList = .ok strayScript := by
  have read : readFlat strayText = .ok strayScript := by decide +kernel
  exact ⟨read, (readFlat_text_iff strayScript).2 strayText read⟩

end RobotPuzzle.Script
