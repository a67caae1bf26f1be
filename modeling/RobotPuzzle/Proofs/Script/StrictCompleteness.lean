import RobotPuzzle.Proofs.Script.StrictSoundness

/-! What is in the grammar is accepted by the strict reader. The induction is on the derivation,
for a reading in the middle of anything.
-/

namespace RobotPuzzle.Script

/-- Whatever text the tokens stand in, the reader gets past them to a reading of this kind. -/
def Reading.Gets (start : Reading) (tokens : List Token) (kind : Reading → Prop) : Prop :=
  ∀ lexemes : List Lexeme,
    lexemes.map Lexeme.token = tokens
    → ∃ last, lexemes.foldlM Reading.step start = .ok last ∧ kind last

theorem Reading.Gets.nil {start : Reading} {kind : Reading → Prop} (h : kind start)
    : start.Gets [] kind := by
  intro lexemes same
  obtain rfl := List.map_eq_nil_iff.mp same
  exact ⟨start, rfl, h⟩

/-- A token that is understood leads to where the rest is read from. -/
theorem Reading.Gets.cons {start : Reading} {token : Token} {tokens : List Token}
    {kind : Reading → Prop}
    (h : ∀ text, ∃ next, start.Goes ⟨token, text⟩ next ∧ next.Gets tokens kind)
    : start.Gets (token :: tokens) kind := by
  intro lexemes same
  obtain ⟨⟨_, text⟩, rest, rfl, rfl, behind⟩ := List.map_eq_cons_iff.mp same
  obtain ⟨next, goes, gets⟩ := h text
  obtain ⟨last, stepped, reached⟩ := gets rest behind
  refine ⟨last, ?_, reached⟩
  rw [List.foldlM_cons, Reading.step_of_goes goes]
  exact stepped

/-- Tokens are read one part after the other, the second from wherever the first has led to. -/
theorem Reading.Gets.append {start : Reading} {left right : List Token}
    {middle kind : Reading → Prop} (hl : start.Gets left middle)
    (hr : ∀ next, middle next → next.Gets right kind)
    : start.Gets (left ++ right) kind := by
  intro lexemes same
  obtain ⟨first, second, rfl, hfirst, hsecond⟩ := List.map_eq_append_iff.mp same
  obtain ⟨next, stepped, between⟩ := hl first hfirst
  obtain ⟨last, finished, reached⟩ := hr next between second hsecond
  refine ⟨last, ?_, reached⟩
  rw [List.foldlM_append, stepped]
  exact finished

theorem Reading.enter_phase (reading : Reading) (phase : Phase)
    : (reading.enter phase).phase = phase :=
  rfl

/-- The reading has the statements of a script more than another one, all of them whole, in
the same open blocks.
-/
def Reading.Extends (start : Reading) (script : Script) (last : Reading) : Prop :=
  last.phase.isSettled = true
  ∧ last.outer = start.outer
  ∧ last.done = script.reverse ++ start.done

/-- The name of an action begins one, as no keyword is spelled like it. -/
theorem Reading.begin_act (reading : Reading) (action : Action)
    : reading.begin (.word action.name)
      = some { reading with done := .act action :: reading.done, phase := .acted } := by
  have known := Action.ofName?_eq_some_iff.mpr (Eq.refl action.name)
  cases action <;> simp_all [Reading.begin, Reading.beginStatement, Action.name]

theorem Reading.begin_guard (reading : Reading) (guard : Guard)
    : reading.begin (.word guard.word) = some (reading.enter (.guarded guard)) := by
  cases guard <;> simp [Reading.begin, Reading.beginStatement, Guard.word]

theorem Reading.begin_times (reading : Reading)
    : reading.begin (.word "repeat") = some (reading.enter .counted) := by
  simp [Reading.begin, Reading.beginStatement]

/-- A condition is read behind the parenthesis of a guard. -/
theorem DerivesCondition.gets {asked : List Token} {condition : String} {start : Reading}
    {guard : Guard} (h : DerivesCondition asked condition)
    (phase : start.phase = .condition guard)
    : start.Gets asked (· = start.enter (.conditionRead guard condition)) := by
  obtain ⟨outer, done, _⟩ := start
  subst phase
  cases h with
  | call =>
      refine .cons fun _ => ⟨_, .enter (.name guard condition), ?_⟩
      refine .cons fun _ => ⟨_, .enter (.ask guard condition), ?_⟩
      refine .cons fun _ => ⟨_, .enter (.asked guard condition), ?_⟩
      exact .nil rfl
  | energy =>
      refine .cons fun _ => ⟨_, .enter (.name guard "energy"), ?_⟩
      refine .cons fun text => ⟨_, .enter (.compare text guard), ?_⟩
      refine .cons fun _ => ⟨_, .enter (.zero guard text), ?_⟩
      exact .nil rfl

/-- A header is read from where a statement may begin, one token at a time. -/
theorem DerivesHeader.gets {tokens : List Token} {header : Header} {start : Reading}
    (h : DerivesHeader tokens header) (settled : start.phase.isSettled = true)
    : start.Gets tokens (· = start.enter (.headed header)) := by
  cases h with
  | times value =>
      refine .cons fun _ => ⟨_, .begin settled start.begin_times, ?_⟩
      refine .cons fun _ => ⟨_, .enter .openCount, ?_⟩
      refine .cons fun _ => ⟨_, .enter (.count value), ?_⟩
      refine .cons fun _ => ⟨_, .enter (.closeCount _), ?_⟩
      exact .nil rfl
  | @guarded asked condition guard holds =>
      have opened
          : start.Gets [.word guard.word, .openParen]
              (· = start.enter (.condition guard)) := by
        refine .cons fun _ => ⟨_, .begin settled (start.begin_guard guard), ?_⟩
        refine .cons fun _ => ⟨_, .enter (.openGuard guard), ?_⟩
        exact .nil rfl
      have read
          : start.Gets ([.word guard.word, .openParen] ++ asked)
              (· = start.enter (.conditionRead guard condition)) := by
        refine opened.append ?_
        rintro _ rfl
        exact holds.gets (start.enter_phase _)
      refine read.append ?_
      rintro _ rfl
      exact .cons fun _ => ⟨_, .enter (.closeGuard guard condition), .nil rfl⟩

/-- Parentheses behind an action may be read, and a semicolon behind them. -/
theorem gets_act_end {call stop : List Token} (outer : List OpenBlock)
    (done : List Statement) (parens : Optionally [.openParen, .closeParen] call)
    (semicolon : Optionally [.semicolon] stop)
    : Reading.Gets ⟨outer, done, .acted⟩ (call ++ stop)
        (Reading.Extends ⟨outer, done, .acted⟩ []) := by
  cases parens with
  | absent =>
      cases semicolon with
      | absent => exact .nil ⟨rfl, rfl, rfl⟩
      | present => exact .cons fun _ => ⟨_, .enter .stop, .nil ⟨rfl, rfl, rfl⟩⟩
  | present =>
      have called : Reading.Gets ⟨outer, done, .acted⟩ [.openParen, .closeParen]
          (· = ⟨outer, done, .called⟩) := by
        refine .cons fun text => ⟨_, .enter (.call text), ?_⟩
        refine .cons fun _ => ⟨_, .enter (.called text), ?_⟩
        exact .nil rfl
      refine called.append ?_
      rintro _ rfl
      cases semicolon with
      | absent => exact .nil ⟨rfl, rfl, rfl⟩
      | present => exact .cons fun _ => ⟨_, .enter .stopCall, .nil ⟨rfl, rfl, rfl⟩⟩

mutual

/-- A statement is read behind whole statements, by recursion on its derivation. -/
theorem DerivesStatement.gets {tokens : List Token} {statement : Statement}
    {start : Reading} (h : DerivesStatement tokens statement)
    (settled : start.phase.isSettled = true)
    : start.Gets tokens (start.Extends [statement]) := by
  match h with
  | .act action parens semicolon =>
      have acted := gets_act_end start.outer (.act action :: start.done) parens semicolon
      exact .cons fun _ => ⟨_, .begin settled (start.begin_act action), acted⟩
  | .times value inside =>
      refine ((DerivesHeader.times value).gets settled).append ?_
      rintro _ rfl
      exact inside.gets (start.enter_phase _)
  | .when guard inside =>
      refine ((DerivesHeader.guarded .when guard).gets settled).append ?_
      rintro _ rfl
      exact inside.gets (start.enter_phase _)
  | .loop guard inside =>
      refine ((DerivesHeader.guarded .loop guard).gets settled).append ?_
      rintro _ rfl
      exact inside.gets (start.enter_phase _)

/-- A block is read behind a header, as the body of the statement that it ends. -/
theorem DerivesBlock.gets {tokens : List Token} {body : List Statement} {header : Header}
    {start : Reading} (h : DerivesBlock tokens body) (headed : start.phase = .headed header)
    : start.Gets tokens (start.Extends [header.close body]) := by
  match h with
  | .braces inside =>
      refine .cons fun _ => ⟨_, .openBlock headed, ?_⟩
      -- A block that was just opened is settled, and the body extends it from nothing.
      refine (inside.gets rfl).append ?_
      rintro next ⟨settled, outer, done⟩
      have closed : next.begin .closeBrace
          = some { outer := start.outer, done := header.close body :: start.done } := by
        simp [Reading.begin, Reading.closeBlock, outer, done, Reading.openBlock]
      exact .cons fun _ => ⟨_, .begin settled closed, .nil ⟨rfl, rfl, rfl⟩⟩

/-- A script is read as more statements in the block where it stands. -/
theorem DerivesScript.gets {tokens : List Token} {script : Script} {start : Reading}
    (h : DerivesScript tokens script) (settled : start.phase.isSettled = true)
    : start.Gets tokens (start.Extends script) := by
  match h with
  | .nil => exact .nil ⟨settled, rfl, rfl⟩
  | .cons head tail =>
      refine (head.gets settled).append ?_
      rintro next ⟨whole, outer, done⟩
      intro lexemes same
      obtain ⟨last, stepped, ended, outside, behind⟩ := tail.gets whole lexemes same
      refine ⟨last, stepped, ended, outside.trans outer, ?_⟩
      simp [behind, done]

end

/-- Whatever is derived is read, from the beginning of the text to its end. -/
theorem ofLexemes_of_derives {lexemes : List Lexeme} {script : Script}
    (h : DerivesScript (lexemes.map Lexeme.token) script)
    : ofLexemes lexemes = .ok script := by
  have ready : ({} : Reading).phase.isSettled = true := rfl
  obtain ⟨last, stepped, settled, outer, done⟩ := h.gets ready lexemes rfl
  unfold ofLexemes
  rw [stepped]
  exact Reading.finish_eq_ok_iff.mpr ⟨settled, outer, by simp [done]⟩

end RobotPuzzle.Script
