import RobotPuzzle.Proofs.Script.StrictSteps

/-! Where the strict reader stops at a text that is no script: what one token that it cannot
read makes it report, and which token that is.
-/

namespace RobotPuzzle.Script

/-- The text that is reported if the statement begun does not go on as it has to. -/
def Phase.mark? : Phase → Option (List Char)
  | .calling mark | .compared _ mark => some mark
  | _ => none

/-- What can be reported of a lexeme that cannot be read: the place of that, or a place marked
before it, or the second digit of a number that begins with a zero, or a count.
-/
inductive Reading.Stops : Reading → Lexeme → Fault → Prop
  | here {reading lexeme} (unmarked : reading.phase.mark? = none)
    : Stops reading lexeme (.unexpected lexeme.text)
  | uncalled {reading lexeme mark} (calling : reading.phase = .calling mark)
    : Stops reading lexeme (.unexpected mark)
  | unequal {reading lexeme guard mark} (compared : reading.phase = .compared guard mark)
    (other : ∀ digits, lexeme.token ≠ .number ('0' :: digits))
    : Stops reading lexeme (.unexpected mark)
  | behindZero {reading guard mark digits text}
    (compared : reading.phase = .compared guard mark) (longer : digits ≠ [])
    : Stops reading ⟨.number ('0' :: digits), text⟩ (.unexpected (text.drop 1))
  | tooMany {reading digits text} (counting : reading.phase = .count)
    (large : UInt32.size ≤ Text.digitsValue digits)
    : Stops reading ⟨.number digits, text⟩ (.tooMany digits)

theorem elim_error_eq_error {α ε : Type} {choice : Option α} {error fault : ε}
    (h : choice.elim (.error error) Except.ok = .error fault)
    : error = fault := by
  cases choice with
  | none => exact Except.error.inj h
  | some value => cases h

/-- A count that is not taken is too large for a word. -/
theorem Reading.stops_of_takeCount {reading : Reading} {digits text : List Char}
    {fault : Fault} (counting : reading.phase = .count)
    (h : reading.takeCount digits = .error fault)
    : reading.Stops ⟨.number digits, text⟩ fault := by
  unfold takeCount at h
  split at h
  next => cases h
  next unfit =>
    obtain rfl := Except.error.inj h
    apply Stops.tooMany counting
    apply Nat.le_of_not_lt
    intro small
    rw [Text.word32?, dif_pos small] at unfit
    cases unfit

/-- What is not taken behind a comparison is no zero, or a zero with digits behind it. -/
theorem Reading.stops_of_takeZero {reading : Reading} {guard : Guard}
    {mark digits text : List Char} {fault : Fault}
    (compared : reading.phase = .compared guard mark)
    (h : reading.takeZero guard mark text digits = .error fault)
    : reading.Stops ⟨.number digits, text⟩ fault := by
  unfold takeZero at h
  split at h
  next => cases h
  next digits single =>
    obtain rfl := Except.error.inj h
    apply Stops.behindZero compared
    rintro rfl
    exact single rfl
  next single longer =>
    obtain rfl := Except.error.inj h
    apply Stops.unequal compared
    intro more same
    exact longer more (Token.number.inj same)

/-- A step that fails reports one of those, by cases over phases and tokens. -/
theorem Reading.stops_of_step {reading : Reading} {lexeme : Lexeme} {fault : Fault}
    (h : reading.step lexeme = .error fault)
    : reading.Stops lexeme fault := by
  obtain ⟨token, text⟩ := lexeme
  obtain ⟨outer, done, phase⟩ := reading
  unfold step at h
  cases phase with
  | ready => exact elim_error_eq_error h ▸ .here rfl
  | acted =>
      cases token with
      | openParen | semicolon => cases h
      | _ => exact elim_error_eq_error h ▸ .here rfl
  | called =>
      cases token with
      | semicolon => cases h
      | _ => exact elim_error_eq_error h ▸ .here rfl
  | calling mark =>
      cases token with
      | closeParen => cases h
      | _ => exact Except.error.inj h ▸ .uncalled rfl
  | count =>
      cases token with
      | number digits => exact stops_of_takeCount rfl h
      | _ => exact Except.error.inj h ▸ .here rfl
  | compared guard mark =>
      cases token with
      | number digits => exact stops_of_takeZero rfl h
      | _ => exact Except.error.inj h ▸ .unequal rfl nofun
  | named guard name =>
      cases token with
      | openParen => cases h
      | greater =>
          simp only at h
          split at h
          · cases h
          · exact Except.error.inj h ▸ .here rfl
      | _ => exact Except.error.inj h ▸ .here rfl
  | counted | guarded guard =>
      cases token with
      | openParen => cases h
      | _ => exact Except.error.inj h ▸ .here rfl
  | countRead count =>
      cases token with
      | closeParen => cases h
      | _ => exact Except.error.inj h ▸ .here rfl
  | condition guard =>
      cases token with
      | word name => cases h
      | _ => exact Except.error.inj h ▸ .here rfl
  | asked guard name =>
      cases token with
      | closeParen => cases h
      | _ => exact Except.error.inj h ▸ .here rfl
  | conditionRead guard condition =>
      cases token with
      | closeParen => cases h
      | _ => exact Except.error.inj h ▸ .here rfl
  | headed header =>
      cases token with
      | openBrace => cases h
      | _ => exact Except.error.inj h ▸ .here rfl

/-- A text that ends too early is reported where it ends, or at the mark. -/
theorem Reading.unexpected_of_finish {reading : Reading} {fault : Fault}
    (h : reading.finish = .error fault)
    : fault = .unexpected []
      ∨ ∃ mark, reading.phase.mark? = some mark ∧ fault = .unexpected mark := by
  obtain ⟨outer, done, phase⟩ := reading
  unfold finish at h
  cases phase with
  | ready | acted | called =>
      simp only at h
      split at h
      · cases h
      · exact Or.inl (Except.error.inj h).symm
  | calling mark => exact Or.inr ⟨mark, rfl, (Except.error.inj h).symm⟩
  | compared guard mark => exact Or.inr ⟨mark, rfl, (Except.error.inj h).symm⟩
  | _ => exact Or.inl (Except.error.inj h).symm

-----------------------------------------------------------------------------------------
-- The token that was read last
-----------------------------------------------------------------------------------------

theorem Reading.mark?_of_begin {reading next : Reading} {token : Token}
    (h : reading.begin token = some next)
    : next.phase.mark? = none := by
  cases token with
  | word name =>
      simp only [begin, beginStatement, enter] at h
      split at h
      · exact Option.some.inj h ▸ rfl
      · split at h
        · exact Option.some.inj h ▸ rfl
        · split at h
          · exact Option.some.inj h ▸ rfl
          · obtain ⟨action, -, rfl⟩ := Option.map_eq_some_iff.mp h
            rfl
  | closeBrace =>
      simp only [begin, closeBlock] at h
      split at h
      · cases h
      · exact Option.some.inj h ▸ rfl
  | _ => cases h

/-- A token that is read sets the mark only to where it stands itself. -/
theorem Reading.Goes.text_eq_mark {reading next : Reading} {lexeme : Lexeme}
    (h : reading.Goes lexeme next) {mark : List Char} (marked : next.phase.mark? = some mark)
    : lexeme.text = mark := by
  cases h with
  | begin settled begun =>
      rw [mark?_of_begin begun] at marked
      cases marked
  | enter goes =>
      obtain ⟨outer, done, phase⟩ := reading
      cases goes with
      | call text | compare text guard => exact Option.some.inj marked
      | _ => cases marked
  | openBlock headed => cases marked

/-- The reader gets past the lexemes to this reading. -/
def Reads (lexemes : List Lexeme) (reading : Reading) : Prop :=
  lexemes.foldlM Reading.step {} = .ok reading

theorem Reads.of_concat {lexemes : List Lexeme} {lexeme : Lexeme} {reading : Reading}
    (h : Reads (lexemes ++ [lexeme]) reading)
    : ∃ previous, Reads lexemes previous ∧ previous.step lexeme = .ok reading := by
  unfold Reads at h
  rw [List.foldlM_append] at h
  cases earlier : lexemes.foldlM Reading.step {} with
  | error fault =>
      rw [earlier] at h
      cases h
  | ok previous =>
      rw [earlier] at h
      refine ⟨previous, earlier, ?_⟩
      rw [← h]
      exact (bind_pure _).symm

/-- Where a mark is set, it is at the last lexeme. -/
theorem Reads.marked {lexemes : List Lexeme} {reading : Reading} {mark : List Char}
    (h : Reads lexemes reading) (marked : reading.phase.mark? = some mark)
    : ∃ earlier last previous,
        lexemes = earlier ++ [last]
        ∧ last.text = mark
        ∧ Reads earlier previous
        ∧ previous.Goes last reading := by
  rcases List.eq_nil_or_concat lexemes with rfl | ⟨earlier, last, rfl⟩
  · obtain rfl := Except.ok.inj h
    cases marked
  · rw [List.concat_eq_append] at h ⊢
    obtain ⟨previous, read, stepped⟩ := h.of_concat
    have goes := Reading.goes_of_step stepped
    exact ⟨earlier, last, previous, rfl, goes.text_eq_mark marked, read, goes⟩

-----------------------------------------------------------------------------------------
-- The token that cannot be read
-----------------------------------------------------------------------------------------

/-- The lexemes are read up to where the fault is found: at one of them, within a number that
energy is compared with, or behind all of them.
-/
inductive RefusedAt (lexemes : List Lexeme) : List Char → Prop
  | lexeme {before lexeme after reading} (found : lexemes = before ++ lexeme :: after)
    (read : Reads before reading)
    : RefusedAt lexemes lexeme.text
  | behindZero {before after reading guard mark digits text}
    (found : lexemes = before ++ ⟨.number ('0' :: digits), text⟩ :: after)
    (longer : digits ≠ []) (read : Reads before reading)
    (compared : reading.phase = .compared guard mark)
    : RefusedAt lexemes (text.drop 1)
  | theEnd {reading} (read : Reads lexemes reading) : RefusedAt lexemes []

/-- The mark stands at one of the lexemes, and those before it are read. -/
theorem Reads.refusedAt_mark {before after : List Lexeme} {reading : Reading} {mark : List Char}
    (h : Reads before reading) (marked : reading.phase.mark? = some mark)
    : RefusedAt (before ++ after) mark := by
  obtain ⟨earlier, last, previous, rfl, rfl, read, -⟩ := h.marked marked
  rw [List.append_assoc]
  exact .lexeme rfl read

/-- Steps that fail have a first one that does, by induction over the lexemes. -/
theorem exists_step_of_foldlM_error {lexemes : List Lexeme} {reading : Reading} {fault : Fault}
    (h : lexemes.foldlM Reading.step reading = .error fault)
    : ∃ before lexeme after last,
        lexemes = before ++ lexeme :: after
        ∧ before.foldlM Reading.step reading = .ok last
        ∧ last.step lexeme = .error fault := by
  induction lexemes generalizing reading with
  | nil => cases h
  | cons lexeme lexemes ih =>
      rw [List.foldlM_cons] at h
      cases first : reading.step lexeme with
      | error error =>
          rw [first] at h
          obtain rfl := Except.error.inj h
          exact ⟨[], lexeme, lexemes, reading, rfl, rfl, first⟩
      | ok next =>
          rw [first] at h
          obtain ⟨before, stop, after, last, rfl, stepped, failed⟩ := ih h
          refine ⟨lexeme :: before, stop, after, last, rfl, ?_, failed⟩
          rw [List.foldlM_cons, first]
          exact stepped

/-- Lexemes that make no script are read up to one that cannot be, or all of them and more would
have to follow.
-/
theorem reads_of_ofLexemes_error {lexemes : List Lexeme} {fault : Fault}
    (h : ofLexemes lexemes = .error fault)
    : (∃ before lexeme after reading,
        lexemes = before ++ lexeme :: after
        ∧ Reads before reading
        ∧ reading.step lexeme = .error fault)
      ∨ ∃ reading, Reads lexemes reading ∧ reading.finish = .error fault := by
  unfold ofLexemes at h
  cases stepped : lexemes.foldlM Reading.step {} with
  | error error =>
      rw [stepped] at h
      obtain rfl := Except.error.inj h
      exact .inl (exists_step_of_foldlM_error stepped)
  | ok reading =>
      rw [stepped] at h
      exact .inr ⟨reading, stepped, h⟩

/-- A text that is refused as not understood is refused at such a place. -/
theorem refusedAt_of_ofLexemes {lexemes : List Lexeme} {rest : List Char}
    (h : ofLexemes lexemes = .error (.unexpected rest))
    : RefusedAt lexemes rest := by
  rcases reads_of_ofLexemes_error h with
    ⟨before, lexeme, after, reading, rfl, read, failed⟩ | ⟨reading, read, unfinished⟩
  · cases Reading.stops_of_step failed with
    | here => exact .lexeme rfl read
    | uncalled calling => exact Reads.refusedAt_mark read (calling ▸ rfl)
    | unequal compared => exact Reads.refusedAt_mark read (compared ▸ rfl)
    | behindZero compared longer => exact .behindZero rfl longer read compared
  · rcases Reading.unexpected_of_finish unfinished with ended | ⟨mark, marked, same⟩
    · obtain rfl := Fault.unexpected.inj ended
      exact .theEnd read
    · obtain rfl := Fault.unexpected.inj same
      have refused : RefusedAt (lexemes ++ []) rest := Reads.refusedAt_mark read marked
      rwa [List.append_nil] at refused

end RobotPuzzle.Script
