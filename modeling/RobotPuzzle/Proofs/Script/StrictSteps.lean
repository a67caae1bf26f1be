import RobotPuzzle.Script.Strict

/-! What one token can do to a reading of the strict reader. -/

namespace RobotPuzzle.Script

/-- The statements read so far are whole, so the text may go on with another one or end. -/
def Phase.isSettled : Phase → Bool
  | .ready | .acted | .called => true
  | _ => false

/-- A lexeme that goes on with the statement that was begun, and leads to another phase of it.
-/
inductive Phase.Goes : Phase → Lexeme → Phase → Prop
  | call (text) : Goes .acted ⟨.openParen, text⟩ (.calling text)
  | called {text} (mark) : Goes (.calling mark) ⟨.closeParen, text⟩ .called
  | stop {text} : Goes .acted ⟨.semicolon, text⟩ .ready
  | stopCall {text} : Goes .called ⟨.semicolon, text⟩ .ready
  | openCount {text} : Goes .counted ⟨.openParen, text⟩ .count
  | count {text digits} {count : UInt32} (value : Text.digitsValue digits = count.toNat)
    : Goes .count ⟨.number digits, text⟩ (.countRead count)
  | closeCount {text} (count)
    : Goes (.countRead count) ⟨.closeParen, text⟩ (.headed (.times count))
  | openGuard {text} (guard) : Goes (.guarded guard) ⟨.openParen, text⟩ (.condition guard)
  | name {text} (guard name)
    : Goes (.condition guard) ⟨.word name, text⟩ (.named guard name)
  | ask {text} (guard name)
    : Goes (.named guard name) ⟨.openParen, text⟩ (.asked guard name)
  | asked {text} (guard name)
    : Goes (.asked guard name) ⟨.closeParen, text⟩ (.conditionRead guard name)
  | compare (text guard) : Goes (.named guard "energy") ⟨.greater, text⟩ (.compared guard text)
  | zero {text} (guard mark)
    : Goes (.compared guard mark) ⟨.number ['0'], text⟩ (.conditionRead guard "energy>0")
  | closeGuard {text} (guard condition)
    : Goes (.conditionRead guard condition) ⟨.closeParen, text⟩
        (.headed (.guarded guard condition))

/-- What a lexeme that is understood can do: begin a statement or close a block behind whole
statements, go on with a statement, or open the block behind a header.
-/
inductive Reading.Goes : Reading → Lexeme → Reading → Prop
  | begin {reading token text next} (settled : reading.phase.isSettled = true)
    (begun : reading.begin token = some next)
    : Goes reading ⟨token, text⟩ next
  | enter {reading lexeme phase} (goes : reading.phase.Goes lexeme phase)
    : Goes reading lexeme (reading.enter phase)
  | openBlock {reading header text} (headed : reading.phase = .headed header)
    : Goes reading ⟨.openBrace, text⟩ (reading.openBlock header)

theorem elim_error_eq_ok {α ε : Type} {choice : Option α} {error : ε} {value : α}
    : choice.elim (.error error) Except.ok = .ok value ↔ choice = some value := by
  cases choice <;> simp

theorem Reading.takeCount_eq_ok_iff {reading next : Reading} {digits : List Char}
    : reading.takeCount digits = .ok next
      ↔ ∃ count : UInt32,
          Text.digitsValue digits = count.toNat
          ∧ next = reading.enter (.countRead count) := by
  unfold Reading.takeCount
  constructor
  · intro h
    split at h
    next count fits => exact ⟨count, Text.word32?_eq_some_iff.mp fits, (Except.ok.inj h).symm⟩
    next => simp at h
  · rintro ⟨count, value, rfl⟩
    rw [Text.word32?_eq_some_iff.mpr value]

/-- Energy is compared with the single digit zero only. -/
theorem Reading.takeZero_eq_ok_iff {reading next : Reading} {guard : Guard}
    {mark text digits : List Char}
    : reading.takeZero guard mark text digits = .ok next
      ↔ digits = ['0'] ∧ next = reading.enter (.conditionRead guard "energy>0") := by
  unfold Reading.takeZero
  constructor
  · intro h
    split at h
    · exact ⟨rfl, (Except.ok.inj h).symm⟩
    · simp at h
    · simp at h
  · rintro ⟨rfl, rfl⟩
    rfl

/-- A step that succeeds is one of those, by cases over phases and tokens. -/
theorem Reading.goes_of_step {reading next : Reading} {lexeme : Lexeme}
    (h : reading.step lexeme = .ok next)
    : reading.Goes lexeme next := by
  obtain ⟨token, text⟩ := lexeme
  obtain ⟨outer, done, phase⟩ := reading
  unfold Reading.step at h
  -- A settled phase leaves what it does not take itself to the beginning of a statement; any
  -- other phase takes one or two kinds of token.
  cases phase with
  | ready => exact .begin rfl (elim_error_eq_ok.mp h)
  | acted =>
      cases token with
      | openParen => exact Except.ok.inj h ▸ .enter (.call text)
      | semicolon => exact Except.ok.inj h ▸ .enter .stop
      | _ => exact .begin rfl (elim_error_eq_ok.mp h)
  | calling mark =>
      cases token with
      | closeParen => exact Except.ok.inj h ▸ .enter (.called mark)
      | _ => simp at h
  | called =>
      cases token with
      | semicolon => exact Except.ok.inj h ▸ .enter .stopCall
      | _ => exact .begin rfl (elim_error_eq_ok.mp h)
  | counted =>
      cases token with
      | openParen => exact Except.ok.inj h ▸ .enter .openCount
      | _ => simp at h
  | count =>
      cases token with
      | number digits =>
          obtain ⟨count, value, rfl⟩ := Reading.takeCount_eq_ok_iff.mp h
          exact .enter (.count value)
      | _ => simp at h
  | countRead count =>
      cases token with
      | closeParen => exact Except.ok.inj h ▸ .enter (.closeCount count)
      | _ => simp at h
  | guarded guard =>
      cases token with
      | openParen => exact Except.ok.inj h ▸ .enter (.openGuard guard)
      | _ => simp at h
  | condition guard =>
      cases token with
      | word name => exact Except.ok.inj h ▸ .enter (.name guard name)
      | _ => simp at h
  | named guard name =>
      cases token with
      | openParen => exact Except.ok.inj h ▸ .enter (.ask guard name)
      | greater =>
          by_cases energy : name = "energy"
          · subst energy
            exact Except.ok.inj h ▸ .enter (.compare text guard)
          · simp [energy] at h
      | _ => simp at h
  | asked guard name =>
      cases token with
      | closeParen => exact Except.ok.inj h ▸ .enter (.asked guard name)
      | _ => simp at h
  | compared guard mark =>
      cases token with
      | number digits =>
          obtain ⟨rfl, rfl⟩ := Reading.takeZero_eq_ok_iff.mp h
          exact .enter (.zero guard mark)
      | _ => simp at h
  | conditionRead guard condition =>
      cases token with
      | closeParen => exact Except.ok.inj h ▸ .enter (.closeGuard guard condition)
      | _ => simp at h
  | headed header =>
      cases token with
      | openBrace => exact Except.ok.inj h ▸ .openBlock rfl
      | _ => simp at h

theorem Reading.step_of_begin {reading next : Reading} {token : Token} (text : List Char)
    (settled : reading.phase.isSettled = true) (begun : reading.begin token = some next)
    : reading.step ⟨token, text⟩ = .ok next := by
  obtain ⟨outer, done, phase⟩ := reading
  -- No settled phase takes a word or a closing brace itself, and nothing else begins anything.
  cases token with
  | word name => cases phase <;> simp_all [Phase.isSettled, Reading.step]
  | closeBrace => cases phase <;> simp_all [Phase.isSettled, Reading.step]
  | _ => simp [Reading.begin] at begun

/-- Each of those things is a step, by cases over what is done. -/
theorem Reading.step_of_goes {reading next : Reading} {lexeme : Lexeme}
    (h : reading.Goes lexeme next)
    : reading.step lexeme = .ok next := by
  cases h with
  | begin settled begun => exact step_of_begin _ settled begun
  | enter goes =>
      obtain ⟨outer, done, phase⟩ := reading
      cases goes with
      | count value => exact takeCount_eq_ok_iff.mpr ⟨_, value, rfl⟩
      | _ => rfl
  | openBlock headed =>
      obtain ⟨outer, done, phase⟩ := reading
      cases headed
      rfl

end RobotPuzzle.Script
