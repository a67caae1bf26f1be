import RobotPuzzle.Proofs.Script.Grammar
import RobotPuzzle.Proofs.Script.StrictSteps

/-! What the strict reader accepts is in the grammar. The invariant says what the tokens read
so far are, for the open blocks, the statements before the current one, and its beginning.
-/

namespace RobotPuzzle.Script

-----------------------------------------------------------------------------------------
-- Headers and the blocks that they open
-----------------------------------------------------------------------------------------

def Guard.word : Guard → String
  | when => "if"
  | loop => "while"

/-- The tokens in front of the brace of a block. -/
inductive DerivesHeader : List Token → Header → Prop
  | times {digits} {count : UInt32} (value : Text.digitsValue digits = count.toNat)
    : DerivesHeader [.word "repeat", .openParen, .number digits, .closeParen] (.times count)
  | guarded {asked condition} (guard : Guard) (holds : DerivesCondition asked condition)
    : DerivesHeader ([.word guard.word, .openParen] ++ asked ++ [.closeParen])
        (.guarded guard condition)

/-- A header and a script in braces are a statement, by cases over the header. -/
theorem DerivesHeader.close {before inner : List Token} {header : Header}
    {body : List Statement} (hh : DerivesHeader before header)
    (hb : DerivesScript inner body)
    : DerivesStatement (before ++ (.openBrace :: inner ++ [.closeBrace]))
        (header.close body) := by
  cases hh with
  | times value => exact .times value (.braces hb)
  | guarded guard holds =>
      cases guard with
      | when => exact .when holds (.braces hb)
      | loop => exact .loop holds (.braces hb)

/-- The tokens up to the brace of the innermost open block. -/
inductive OpensBlocks : List Token → List OpenBlock → Prop
  | nil : OpensBlocks [] []
  | cons {tokens outer before done head header} (outside : OpensBlocks tokens outer)
    (earlier : DerivesScript before (List.reverse done))
    (headed : DerivesHeader head header)
    : OpensBlocks (tokens ++ before ++ head ++ [.openBrace]) (⟨header, done⟩ :: outer)

/-- The tokens from which a header has been begun. -/
inductive BeginsHeader : List Token → Phase → Prop
  | counted : BeginsHeader [.word "repeat"] .counted
  | count : BeginsHeader [.word "repeat", .openParen] .count
  | countRead {digits} {count : UInt32} (value : Text.digitsValue digits = count.toNat)
    : BeginsHeader [.word "repeat", .openParen, .number digits] (.countRead count)
  | guarded (guard : Guard) : BeginsHeader [.word guard.word] (.guarded guard)
  | condition (guard : Guard)
    : BeginsHeader [.word guard.word, .openParen] (.condition guard)
  | named (guard : Guard) (name : String)
    : BeginsHeader [.word guard.word, .openParen, .word name] (.named guard name)
  | asked (guard : Guard) (name : String)
    : BeginsHeader [.word guard.word, .openParen, .word name, .openParen]
        (.asked guard name)
  | compared (guard : Guard) (mark : List Char)
    : BeginsHeader [.word guard.word, .openParen, .word "energy", .greater]
        (.compared guard mark)
  | conditionRead {asked condition} (guard : Guard)
    (holds : DerivesCondition asked condition)
    : BeginsHeader ([.word guard.word, .openParen] ++ asked)
        (.conditionRead guard condition)
  | headed {tokens header} (headed : DerivesHeader tokens header)
    : BeginsHeader tokens (.headed header)

/-- The reading is what the tokens come to: open blocks, whole statements in the innermost
one, and an action that may still be extended or the beginning of a header.
-/
inductive HasRead : List Token → Reading → Prop
  | ready {opened before outer done} (outside : OpensBlocks opened outer)
    (whole : DerivesScript before (List.reverse done))
    : HasRead (opened ++ before) ⟨outer, done, .ready⟩
  | acted {opened before outer done} (outside : OpensBlocks opened outer)
    (earlier : DerivesScript before (List.reverse done)) (action : Action)
    : HasRead (opened ++ before ++ [.word action.name]) ⟨outer, .act action :: done, .acted⟩
  | calling {opened before outer done} (outside : OpensBlocks opened outer)
    (earlier : DerivesScript before (List.reverse done)) (action : Action)
    (mark : List Char)
    : HasRead (opened ++ before ++ [.word action.name, .openParen])
        ⟨outer, .act action :: done, .calling mark⟩
  | called {opened before outer done} (outside : OpensBlocks opened outer)
    (earlier : DerivesScript before (List.reverse done)) (action : Action)
    : HasRead (opened ++ before ++ [.word action.name, .openParen, .closeParen])
        ⟨outer, .act action :: done, .called⟩
  | begun {opened before begun outer done phase} (outside : OpensBlocks opened outer)
    (earlier : DerivesScript before (List.reverse done)) (begins : BeginsHeader begun phase)
    : HasRead (opened ++ before ++ begun) ⟨outer, done, phase⟩

-----------------------------------------------------------------------------------------
-- One token keeps the invariant
-----------------------------------------------------------------------------------------

/-- A token behind whole statements begins the next one or closes the block, by cases over the
word.
-/
theorem HasRead.begin {opened before : List Token} {reading next : Reading} {token : Token}
    (outside : OpensBlocks opened reading.outer)
    (whole : DerivesScript before reading.done.reverse)
    (h : reading.begin token = some next)
    : HasRead (opened ++ before ++ [token]) next := by
  cases token with
  | word name =>
      simp only [Reading.begin, Reading.beginStatement, Reading.enter] at h
      split at h
      next same =>
        obtain rfl := Option.some.inj h
        exact same ▸ .begun outside whole .counted
      next =>
        split at h
        next same =>
          obtain rfl := Option.some.inj h
          exact same ▸ .begun outside whole (.guarded .when)
        next =>
          split at h
          next same =>
            obtain rfl := Option.some.inj h
            exact same ▸ .begun outside whole (.guarded .loop)
          next =>
            obtain ⟨action, named, rfl⟩ := Option.map_eq_some_iff.mp h
            exact Action.ofName?_eq_some_iff.mp named ▸ .acted outside whole action
  | closeBrace =>
      obtain ⟨outer, done, phase⟩ := reading
      simp only [Reading.begin, Reading.closeBlock] at h
      cases outside with
      | nil => simp at h
      | cons outside earlier headed =>
          obtain rfl := Option.some.inj h
          -- The block is now one statement more in the block around it.
          have closed := earlier.snoc (headed.close whole)
          simpa only [List.append_assoc, List.cons_append, List.nil_append] using
            HasRead.ready outside closed
  | _ => simp [Reading.begin] at h

/-- An action whose tokens end with parentheses, a semicolon, both or neither is whole. -/
theorem DerivesScript.snoc_act {before call stop : List Token} {done : List Statement}
    (earlier : DerivesScript before done.reverse) (action : Action)
    (parens : Optionally [.openParen, .closeParen] call)
    (semicolon : Optionally [.semicolon] stop)
    : DerivesScript (before ++ (.word action.name :: call ++ stop))
        (.act action :: done).reverse :=
  earlier.snoc (.act action parens semicolon)

/-- What goes on with a header is a longer beginning of it, by cases over how. -/
theorem BeginsHeader.goes {begun : List Token} {phase next : Phase} {lexeme : Lexeme}
    (begins : BeginsHeader begun phase) (h : phase.Goes lexeme next)
    : BeginsHeader (begun ++ [lexeme.token]) next := by
  cases begins with
  | counted => cases h; exact .count
  | count => cases h with | count value => exact .countRead value
  | countRead value => cases h; exact .headed (.times value)
  | guarded guard => cases h; exact .condition guard
  | condition guard => cases h; exact .named guard _
  | named guard name =>
      cases h with
      | ask => exact .asked guard name
      | compare => exact .compared guard _
  | asked guard name => cases h; exact .conditionRead guard (.call name)
  | compared guard mark => cases h; exact .conditionRead guard .energy
  | conditionRead guard holds => cases h; exact .headed (.guarded guard holds)
  | headed headed => cases h

/-- Where nothing has been begun, or an action that may end here, all statements are whole. -/
theorem HasRead.settled {read : List Token} {reading : Reading} (h : HasRead read reading)
    (settled : reading.phase.isSettled = true)
    : ∃ opened before,
        read = opened ++ before
        ∧ OpensBlocks opened reading.outer
        ∧ DerivesScript before reading.done.reverse := by
  cases h with
  | ready outside whole => exact ⟨_, _, rfl, outside, whole⟩
  | acted outside earlier action =>
      exact ⟨_, _, List.append_assoc .., outside, earlier.snoc_act action .absent .absent⟩
  | calling => simp [Phase.isSettled] at settled
  | called outside earlier action =>
      exact ⟨_, _, List.append_assoc .., outside, earlier.snoc_act action .present .absent⟩
  | begun outside earlier begins => cases begins <;> simp [Phase.isSettled] at settled

/-- A token that goes on with an action or a header keeps the invariant: what has been begun is one
token longer, or whole with that token. By cases over what it was.
-/
theorem HasRead.enter {read : List Token} {reading : Reading} {phase : Phase}
    {lexeme : Lexeme} (h : HasRead read reading) (goes : reading.phase.Goes lexeme phase)
    : HasRead (read ++ [lexeme.token]) (reading.enter phase) := by
  cases h with
  | ready => cases goes
  | acted outside earlier action =>
      cases goes with
      | call text =>
          rw [List.append_assoc]
          exact .calling outside earlier action text
      | stop =>
          rw [List.append_assoc, List.append_assoc]
          exact .ready outside (earlier.snoc_act action .absent .present)
  | calling outside earlier action mark =>
      cases goes
      rw [List.append_assoc]
      exact .called outside earlier action
  | called outside earlier action =>
      cases goes
      rw [List.append_assoc, List.append_assoc]
      exact .ready outside (earlier.snoc_act action .present .present)
  | begun outside earlier begins =>
      rw [List.append_assoc]
      exact .begun outside earlier (begins.goes goes)

/-- An opening brace behind a whole header keeps the invariant. The statements so far go to the
block around, and the new one has none yet.
-/
theorem HasRead.openBlock {read : List Token} {reading : Reading} {header : Header}
    (h : HasRead read reading) (headed : reading.phase = .headed header)
    : HasRead (read ++ [.openBrace]) (reading.openBlock header) := by
  cases h with
  | begun outside earlier begins =>
      subst headed
      cases begins with
      | headed derives =>
          -- The statements so far are those before the block; none of its own are read yet.
          have empty : DerivesScript [] (List.reverse []) := .nil
          have opened := HasRead.ready (outside.cons earlier derives) empty
          rwa [List.append_nil] at opened
  | _ => simp at headed

/-- The invariant survives every step. -/
theorem HasRead.step {read : List Token} {reading next : Reading} {lexeme : Lexeme}
    (h : HasRead read reading) (stepped : reading.step lexeme = .ok next)
    : HasRead (read ++ [lexeme.token]) next := by
  cases Reading.goes_of_step stepped with
  | begin settled begun =>
      obtain ⟨opened, before, rfl, outside, whole⟩ := h.settled settled
      exact .begin outside whole begun
  | enter goes => exact h.enter goes
  | openBlock headed => exact h.openBlock headed

-----------------------------------------------------------------------------------------
-- Whole texts
-----------------------------------------------------------------------------------------

/-- The invariant survives any number of steps, by induction over the lexemes. -/
theorem HasRead.steps {read : List Token} {reading last : Reading} {lexemes : List Lexeme}
    (h : HasRead read reading) (stepped : lexemes.foldlM Reading.step reading = .ok last)
    : HasRead (read ++ lexemes.map Lexeme.token) last := by
  induction lexemes generalizing read reading with
  | nil =>
      obtain rfl := Except.ok.inj stepped
      simpa using h
  | cons lexeme lexemes ih =>
      rw [List.foldlM_cons] at stepped
      cases first : reading.step lexeme with
      | error fault => rw [first] at stepped; cases stepped
      | ok next =>
          rw [first] at stepped
          simpa using ih (h.step first) stepped

/-- A text may end where no block is open and all statements are whole. -/
theorem Reading.finish_eq_ok_iff {reading : Reading} {script : Script}
    : reading.finish = .ok script
      ↔ reading.phase.isSettled = true
        ∧ reading.outer = []
        ∧ reading.done.reverse = script := by
  obtain ⟨outer, done, phase⟩ := reading
  cases phase <;> cases outer <;> simp [Reading.finish, Phase.isSettled]

/-- What the reader accepts is derived: the invariant holds to the end, where no block is open and
nothing is only begun.
-/
theorem derives_of_ofLexemes {lexemes : List Lexeme} {script : Script}
    (h : ofLexemes lexemes = .ok script)
    : DerivesScript (lexemes.map Lexeme.token) script := by
  unfold ofLexemes at h
  cases stepped : lexemes.foldlM Reading.step {} with
  | error fault => rw [stepped] at h; cases h
  | ok last =>
      rw [stepped] at h
      obtain ⟨settled, closed, rfl⟩ := Reading.finish_eq_ok_iff.mp h
      have invariant := (HasRead.ready .nil .nil).steps stepped
      obtain ⟨opened, before, same, outside, whole⟩ := invariant.settled settled
      -- With no block open, all that was read is the whole statements.
      rw [closed] at outside
      cases outside
      simp only [List.nil_append] at same
      exact same ▸ whole

end RobotPuzzle.Script
