import RobotPuzzle.Proofs.Script.Conditions
import RobotPuzzle.Proofs.Script.FlatSteps
import RobotPuzzle.Proofs.Script.StrictReader
import RobotPuzzle.Script.Flat

/-! Where blocks do not nest, the flat reader reads a text as the strict one does. It looks at
characters and the other one at tokens, so a text is followed by the tokens that it has: every
statement that they derive is the next one to be found in the text.
-/

namespace RobotPuzzle

def Statement.isAct : Statement → Bool
  | .act _ => true
  | .times _ _ | .when _ _ | .loop _ _ => false

/-- A block has only actions in it. -/
def Statement.isFlat : Statement → Bool
  | .act _ => true
  | .times _ body | .when _ body | .loop _ body => body.all Statement.isAct

namespace Script

open Text (skipLayout)

/-- The condition that a header asks, if it does. -/
def Header.conditions : Header → List String
  | .times _ => []
  | .guarded _ condition => [condition]

theorem Header.conditions_close (header : Header) (body : Script)
    : (header.close body).conditions = header.conditions ++ Script.conditions body := by
  cases header with
  | times count => rfl
  | guarded guard condition => cases guard <;> rfl

theorem Header.conditions_subset (header : Header) (body : Script)
    : header.conditions ⊆ (header.close body).conditions := by
  rw [header.conditions_close body]
  exact List.subset_append_left _ _

-----------------------------------------------------------------------------------------
-- The tokens of scripts
-----------------------------------------------------------------------------------------

/-- A script begins with a word, if there is anything in it. -/
theorem DerivesScript.endsAction {found : List Token} {script : Script}
    (h : DerivesScript found script)
    : EndsAction found := by
  cases h with
  | nil => exact ⟨by simp, by simp⟩
  | cons head tail => cases head <;> exact ⟨by simp, by simp⟩

/-- Actions have neither a brace in them nor anything that is no token of scripts. By
induction over the actions.
-/
theorem DerivesScript.plain_of_acts {found : List Token} {script : Script}
    (h : DerivesScript found script) (acts : script.all Statement.isAct = true)
    : .closeBrace ∉ found ∧ Known found := by
  induction script generalizing found with
  | nil =>
      cases h
      exact ⟨List.not_mem_nil, fun _ => List.not_mem_nil⟩
  | cons statement script ih =>
      obtain ⟨act, acts⟩ := Bool.and_eq_true_iff.mp acts
      cases h with
      | cons head tail =>
          obtain ⟨no_brace, known⟩ := ih tail acts
          cases head with
          | act action parens semicolon =>
              cases parens <;> cases semicolon <;> simp_all [Known]
          | _ => simp [Statement.isAct] at act

-----------------------------------------------------------------------------------------
-- The statement of an excerpt
-----------------------------------------------------------------------------------------

theorem statement_act (action : Action) (text rest : List Char)
    : (Shape.excerpt ⟨.act, action.name.toList, none⟩ text rest).statement
      = .ok (.act action) := by
  have known : Action.ofName? action.name = some action := Action.ofName?_eq_some_iff.mpr rfl
  simp only [Excerpt.statement, Shape.excerpt, Excerpt.param, List.headD_cons,
    String.ofList_toList, known]
  rfl

/-- The body of an excerpt is read behind its count only: where the count is bad, no body is. -/
theorem statement_times_eq (digits body text rest : List Char)
    : (Shape.excerpt ⟨.times, digits, some body⟩ text rest).statement
      = (do
          let count ← readCount (String.ofList digits)
          return .times count (← readFlat (Text.trim body))) := by
  simp only [Excerpt.statement, Shape.excerpt, Excerpt.param, Excerpt.bodyText,
    List.headD_cons, Option.map_some, Option.getD_some, Function.comp_apply,
    String.toList_ofList]

theorem statement_times {digits body : List Char} {count : UInt32} {script : Script}
    (counted : readCount (String.ofList digits) = .ok count)
    (body_read : readFlat (Text.trim body) = .ok script) (text rest : List Char)
    : (Shape.excerpt ⟨.times, digits, some body⟩ text rest).statement
      = .ok (.times count script) := by
  rw [statement_times_eq, counted, body_read]
  rfl

/-- The kind of the excerpts that a guard introduces. -/
def Guard.kind : Guard → StatementKind
  | when => .when
  | loop => .loop

/-- The two guards differ in the kind of the excerpt only, so both are read by one equation. -/
theorem statement_guarded_eq (guard : Guard) (name body text rest : List Char)
    : (Shape.excerpt ⟨guard.kind, name, some body⟩ text rest).statement
      = (do
          let script ← readFlat (Text.trim body)
          return (Header.guarded guard (String.ofList name)).close script) := by
  cases guard with
  | when | loop =>
      simp only [Excerpt.statement, Shape.excerpt, Excerpt.param, Excerpt.bodyText, Guard.kind,
        List.headD_cons, Option.map_some, Option.getD_some, Function.comp_apply,
        String.toList_ofList]
      rfl

theorem statement_guarded {body : List Char} {script : Script} (guard : Guard) (name : String)
    (body_read : readFlat (Text.trim body) = .ok script) (text rest : List Char)
    : (Shape.excerpt ⟨guard.kind, name.toList, some body⟩ text rest).statement
      = .ok ((Header.guarded guard name).close script) := by
  rw [statement_guarded_eq, String.ofList_toList, body_read]
  rfl

/-- Digits without a sign are read as the number that they write. -/
theorem readWord32?_digits {digits : List Char}
    (numeral : digits ≠ [] ∧ ∀ d ∈ digits, d.isDigit = true)
    : Text.readWord32? (Text.dropPlus digits) = Text.word32? (Text.digitsValue digits) := by
  have no_plus : Text.dropPlus digits = digits := by
    unfold Text.dropPlus
    split
    · exact absurd (numeral.2 '+' List.mem_cons_self) (by decide)
    · rfl
  rw [no_plus, Text.readWord32?, if_pos (numeral.imp_right List.all_eq_true.mpr)]

/-- Digits without a sign are read as the word that is their value. -/
theorem readCount_digits {digits : List Char} {count : UInt32}
    (numeral : digits ≠ [] ∧ ∀ d ∈ digits, d.isDigit = true)
    (value : Text.digitsValue digits = count.toNat)
    : readCount (String.ofList digits) = .ok count := by
  rw [readCount, String.toList_ofList, readWord32?_digits numeral,
    Text.word32?_eq_some_iff.mpr value]

-----------------------------------------------------------------------------------------
-- One statement
-----------------------------------------------------------------------------------------

/-- The flat reader finds the statement as the first one in the text, with these tokens left
behind it.
-/
def Finds (text : List Char) (statement : Statement) (behind : List Token) : Prop :=
  ∃ shape rest,
    Shape.find? text = some (shape, rest)
    ∧ (shape.excerpt text rest).statement = .ok statement
    ∧ tokens rest = behind

/-- An action is found whole in front of tokens that cannot go on with it: no keyword begins there,
and its parentheses and its semicolon are used up.
-/
theorem finds_act {text : List Char} {call stop behind : List Token} (action : Action)
    (h : tokens text = .word action.name :: call ++ stop ++ behind)
    (parens : Optionally [.openParen, .closeParen] call)
    (semicolon : Optionally [.semicolon] stop) (next : EndsAction behind)
    : Finds text (.act action) behind := by
  rw [← tokens_skipLayout] at h
  have start := skipLayout_idem text
  obtain ⟨rest, acted, left⟩ := Shape.act?_action action start h parens semicolon next
  have first := Shape.head?_word start h
  -- No action begins like a keyword.
  have matched
      : Shape.match? (skipLayout text) = some (⟨.act, action.name.toList, none⟩, rest) := by
    rw [Shape.match?_eq_act?, acted]
    all_goals
      rw [first]
      cases action <;> decide
  exact ⟨_, rest, Shape.find?_of_match? matched, statement_act action text rest, left⟩

/-- A condition that is no comparison is a call. -/
theorem DerivesCondition.eq_call {asked : List Token} {condition : String}
    (h : DerivesCondition asked condition) (call : .greater ∉ asked)
    : asked = [.word condition, .openParen, .closeParen] := by
  cases h with
  | call name => rfl
  | energy => simp at call

/-- A greater sign comes with a comparison, and only with that. -/
theorem DerivesHeader.greater_not_mem {head : List Token} {header : Header}
    (h : DerivesHeader head header) (calls : "energy>0" ∉ header.conditions)
    : .greater ∉ head := by
  cases h with
  | times value => simp
  | guarded guard holds =>
      cases holds with
      | call name => simp
      | energy => simp [Header.conditions] at calls

/-- A block is found where its header stands, up to the first closing brace: the statement is
what it would be if that brace closed it.
-/
theorem find?_of_header {text : List Char} {head inner behind : List Token} {header : Header}
    (headed : DerivesHeader head header) (calls : .greater ∉ head)
    (h : tokens text = head ++ .openBrace :: (inner ++ .closeBrace :: behind))
    (first : .closeBrace ∉ inner)
    : ∃ shape block rest,
        Shape.find? text = some (shape, rest)
        ∧ tokens block = inner
        ∧ tokens rest = behind
        ∧ ∀ body,
            readFlat (Text.trim block) = .ok body
            → (shape.excerpt text rest).statement = .ok (header.close body) := by
  rw [← tokens_skipLayout] at h
  have start := skipLayout_idem text
  cases headed with
  | times value =>
      obtain ⟨block, rest, matched, numeral, inside, left⟩ :=
        Shape.times?_block start (by simpa using h) first
      refine ⟨_, block, rest, Shape.find?_of_match? (Shape.match?_of_times? matched), inside,
        left, ?_⟩
      intro body body_read
      exact statement_times (readCount_digits numeral value) body_read text rest
  | @guarded asked name guard holds =>
      obtain rfl := holds.eq_call (by simp_all)
      obtain ⟨block, rest, guarded, inside, left⟩ :=
        Shape.guarded?_block guard.kind start (by simpa using h) first
      have initial := Shape.head?_word start (by simpa using h)
      have matched
          : Shape.match? (skipLayout text)
            = some (⟨guard.kind, name.toList, some block⟩, rest) := by
        cases guard with
        | when => exact Shape.match?_of_when? initial guarded
        | loop => exact Shape.match?_of_loop? initial guarded
      refine ⟨_, block, rest, Shape.find?_of_match? matched, inside, left, ?_⟩
      intro body body_read
      exact statement_guarded guard name body_read text rest

-----------------------------------------------------------------------------------------
-- Statements one after the other
-----------------------------------------------------------------------------------------

theorem nextExcerpt?_of_find?_none {text : List Char} (h : Shape.find? text = none)
    : nextExcerpt? text = none := by
  rw [nextExcerpt?, h]
  rfl

theorem nextExcerpt?_of_find?_some {text rest : List Char} {shape : Shape}
    (h : Shape.find? text = some (shape, rest))
    : nextExcerpt? text = some (shape.excerpt text rest, rest) := by
  rw [nextExcerpt?, h]
  rfl

theorem readFlat_of_find?_none {text : List Char} (h : Shape.find? text = none)
    : readFlat text = .ok [] := by
  have nothing := nextExcerpt?_of_find?_none h
  rw [readFlat]
  split
  · rfl
  · simp_all

/-- Once the first statement has been read, reading goes on behind it. -/
theorem readFlat_of_find?_some {text rest : List Char} {shape : Shape}
    (h : Shape.find? text = some (shape, rest))
    : readFlat text
      = (do
          let statement ← (shape.excerpt text rest).statement
          return statement :: (← readFlat rest)) := by
  have next := nextExcerpt?_of_find?_some h
  rw [readFlat]
  split
  · simp_all
  next excerpt tail same =>
    obtain ⟨rfl, rfl⟩ := Prod.mk.inj (Option.some.inj (next.symm.trans same))
    rfl

/-- If any text with these tokens left is read on in one way, it does not matter where in the layout
the first statement stopped.
-/
theorem readFlat_cons {text : List Char} {statement : Statement} {behind : List Token}
    {script : Script} (first : Finds text statement behind)
    (later : ∀ rest, tokens rest = behind → readFlat rest = .ok script)
    : readFlat text = .ok (statement :: script) := by
  obtain ⟨shape, rest, found, read, left⟩ := first
  rw [readFlat_of_find?_some found, read, later rest left]
  rfl

/-- A script is read if each of its statements is found where it comes next. By induction
over the statements.
-/
theorem readFlat_of_finds {text : List Char} {script : Script}
    (h : DerivesScript (tokens text) script)
    (each : ∀ statement ∈ script, ∀ text first behind,
      DerivesStatement first statement → EndsAction behind
      → tokens text = first ++ behind → Finds text statement behind)
    : readFlat text = .ok script := by
  induction script generalizing text with
  | nil =>
      generalize same : tokens text = found at h
      cases h
      exact readFlat_of_find?_none (Shape.find?_eq_none same)
  | cons statement script ih =>
      generalize same : tokens text = found at h
      obtain ⟨here, there⟩ := List.forall_mem_cons.mp each
      cases h with
      | cons head tail =>
          refine readFlat_cons (here text _ _ head tail.endsAction same) ?_
          rintro rest rfl
          exact ih tail there

/-- Tokens that derive actions only are read as these, wherever they stand. -/
theorem readFlat_of_acts {text : List Char} {script : Script}
    (h : DerivesScript (tokens text) script) (acts : script.all Statement.isAct = true)
    : readFlat text = .ok script := by
  apply readFlat_of_finds h
  intro statement member text first behind derives next same
  have act := List.all_eq_true.mp acts statement member
  cases derives with
  | act action parens semicolon => exact finds_act action same parens semicolon next
  | _ => simp [Statement.isAct] at act

-----------------------------------------------------------------------------------------
-- Blocks with only actions in them
-----------------------------------------------------------------------------------------

/-- Trimming the text of a body keeps its tokens, so it is read just the same. -/
theorem readFlat_trim_of_acts {text : List Char} {script : Script}
    (h : DerivesScript (tokens text) script) (acts : script.all Statement.isAct = true)
    : readFlat (Text.trim text) = .ok script := by
  have known := (h.plain_of_acts acts).2
  exact readFlat_of_acts (tokens_trim known ▸ h) acts

/-- A block of actions is found whole, as the first closing brace behind its header is its own. -/
theorem finds_block {text : List Char} {head inner behind : List Token} {header : Header}
    {body : Script} (headed : DerivesHeader head header)
    (calls : "energy>0" ∉ header.conditions)
    (h : tokens text = head ++ .openBrace :: (inner ++ .closeBrace :: behind))
    (inside : DerivesScript inner body) (acts : body.all Statement.isAct = true)
    : Finds text (header.close body) behind := by
  have no_brace := (inside.plain_of_acts acts).1
  obtain ⟨shape, block, rest, found, rfl, left, spelled⟩ :=
    find?_of_header headed (headed.greater_not_mem calls) h no_brace
  have body_read := readFlat_trim_of_acts inside acts
  exact ⟨shape, rest, found, spelled body body_read, left⟩

-----------------------------------------------------------------------------------------
-- The two readers
-----------------------------------------------------------------------------------------

/-- A statement without blocks in its block is found where its tokens stand. By cases over how
they derive it.
-/
theorem finds_statement {text : List Char} {first behind : List Token}
    {statement : Statement} (derives : DerivesStatement first statement)
    (flat : statement.isFlat = true) (calls : "energy>0" ∉ statement.conditions)
    (next : EndsAction behind) (h : tokens text = first ++ behind)
    : Finds text statement behind := by
  cases derives with
  | act action parens semicolon => exact finds_act action h parens semicolon next
  | times value block =>
      cases block with
      | braces inside =>
          exact finds_block (.times value) List.not_mem_nil (by simpa using h) inside flat
  | @when _ condition _ body guard block =>
      cases block with
      | braces inside =>
          have call := mt (Header.conditions_subset (.guarded .when condition) body ·) calls
          have headed := DerivesHeader.guarded .when guard
          exact finds_block headed call (by simpa [Guard.word] using h) inside flat
  | @loop _ condition _ body guard block =>
      cases block with
      | braces inside =>
          have call := mt (Header.conditions_subset (.guarded .loop condition) body ·) calls
          have headed := DerivesHeader.guarded .loop guard
          exact finds_block headed call (by simpa [Guard.word] using h) inside flat

/-- What the strict reader reads as a script in which no block stands in another and energy is
not compared, the flat reader reads as the same script.
-/
theorem readFlat_of_readStrict {text : List Char} {script : Script}
    (read : readStrict text = .ok script) (flat : ∀ statement ∈ script, statement.isFlat = true)
    (calls : "energy>0" ∉ Script.conditions script)
    : readFlat text = .ok script := by
  have derives := (readStrict_eq_ok_iff text script).mp read
  apply readFlat_of_finds derives
  intro statement member text first behind derives next h
  have calls_here : "energy>0" ∉ statement.conditions := by
    intro compared
    exact calls (Script.conditions_subset member compared)
  exact finds_statement derives (flat statement member) calls_here next h

/-- Layout where it may stand, and parts of statements that may be left out. -/
def spaciousText : List Char :=
  ("repeat ( 03 ) \x7b move ; pickUp ( ) \x7d\n\tif(gemAhead())\x7bturnLeft;\x7d"
    ++ "while (a_1 ( ) ) \x7b \x7d").toList

def spaciousScript : Script :=
  [.times 3 [.act .move, .act .pickUp], .when "gemAhead" [.act .turnLeft], .loop "a_1" []]

theorem readFlat_of_readStrict_spacious
    : readStrict spaciousText = .ok spaciousScript
      ∧ readFlat spaciousText = .ok spaciousScript := by
  have read : readStrict spaciousText = .ok spaciousScript := by
    have result : (readStrict spaciousText).toOption = some spaciousScript := by
      decide +kernel
    cases h : readStrict spaciousText with
    | ok script => simpa [h, Except.toOption] using result
    | error fault => simp [h, Except.toOption] at result
  exact ⟨read, readFlat_of_readStrict read (by decide) (by decide)⟩

end Script

end RobotPuzzle
