import RobotPuzzle.Proofs.Script.CutTexts
import RobotPuzzle.Proofs.Script.StrictFaults
import RobotPuzzle.Proofs.Script.StrictReader

/-! Where the strict reader reports that it does not understand a text, all that stands before
could still become a script: a statement that was begun can be brought to its end, and the
blocks that are open can be closed.
-/

namespace RobotPuzzle.Script

open Text (BeginsLike EndsRun beginsLike_cons beginsLike_nil endsRun_cons isLayout isWordChar)

-----------------------------------------------------------------------------------------
-- Tokens that could become a script
-----------------------------------------------------------------------------------------

/-- Closing braces, in front of which any word ends. -/
def closingText (blocks : Nat) : List Char :=
  List.replicate blocks '\x7d'

theorem endsRun_closingText (blocks : Nat) : EndsRun isWordChar (closingText blocks) := by
  cases blocks with
  | zero => exact Text.endsRun_nil _
  | succ blocks => exact endsRun_cons (by decide +kernel) _

/-- The text that closes blocks is as many closing braces, by induction on how many. -/
theorem tokens_closingText (blocks : Nat)
    : tokens (closingText blocks) = List.replicate blocks .closeBrace := by
  induction blocks with
  | zero => exact tokens_nil
  | succ blocks ih =>
      rw [closingText, List.replicate_succ, tokens_scan rfl, List.replicate_succ, ← ih]
      rfl

/-- The tokens can be followed by a text, which does not go on with a word, so that they become
a script.
-/
def Completable (found : List Token) : Prop :=
  ∃ tail script, EndsRun isWordChar tail ∧ DerivesScript (found ++ tokens tail) script

/-- Behind whole statements, all blocks can be closed. By induction over the open blocks. -/
theorem OpensBlocks.close {opened before : List Token} {outer : List OpenBlock}
    {done : List Statement} (outside : OpensBlocks opened outer)
    (whole : DerivesScript before done.reverse)
    : ∃ script,
        DerivesScript (opened ++ before ++ List.replicate outer.length .closeBrace) script := by
  induction outside generalizing before done with
  | nil =>
      refine ⟨done.reverse, ?_⟩
      simpa using whole
  | cons outside earlier headed ih =>
      obtain ⟨script, derives⟩ := ih (earlier.snoc (headed.close whole))
      refine ⟨script, ?_⟩
      simpa [List.replicate_succ] using derives

/-- Behind whole statements, braces for the open blocks complete a script. -/
theorem completable_of_whole {opened before : List Token} {outer : List OpenBlock}
    {done : List Statement} (outside : OpensBlocks opened outer)
    (whole : DerivesScript before done.reverse)
    : Completable (opened ++ before) := by
  obtain ⟨script, derives⟩ := outside.close whole
  refine ⟨closingText outer.length, script, endsRun_closingText _, ?_⟩
  rw [tokens_closingText]
  exact derives

/-- Tokens can be completed if they can together with those of a text behind them. -/
theorem Completable.of_append {found : List Token} {tail : List Char}
    (ends : EndsRun isWordChar tail) (h : Completable (found ++ tokens tail))
    : Completable found := by
  obtain ⟨more, script, more_ends, derives⟩ := h
  refine ⟨tail ++ more, script, ends.append more_ends, ?_⟩
  rw [tokens_append tail more_ends, ← List.append_assoc]
  exact derives

/-- The tokens can be followed by a text so that they become a header. -/
def HeaderCompletable (begun : List Token) : Prop :=
  ∃ tail header, EndsRun isWordChar tail ∧ DerivesHeader (begun ++ tokens tail) header

/-- One token further the header can be completed, so it can here. -/
theorem HeaderCompletable.of_concat {begun : List Token} {token : Token} (piece : List Char)
    (ends : EndsRun isWordChar piece) (same : tokens piece = [token])
    (h : HeaderCompletable (begun ++ [token]))
    : HeaderCompletable begun := by
  obtain ⟨tail, header, tail_ends, derives⟩ := h
  refine ⟨piece ++ tail, header, ends.append tail_ends, ?_⟩
  rw [tokens_append piece tail_ends, same, ← List.append_assoc]
  exact derives

section

variable {begun : List Token}

theorem headerCompletable_of_openParen (h : HeaderCompletable (begun ++ [.openParen]))
    : HeaderCompletable begun :=
  h.of_concat ['('] (endsRun_cons (by decide +kernel) _) (by decide +kernel)

theorem headerCompletable_of_closeParen (h : HeaderCompletable (begun ++ [.closeParen]))
    : HeaderCompletable begun :=
  h.of_concat [')'] (endsRun_cons (by decide +kernel) _) (by decide +kernel)

theorem headerCompletable_of_zero (h : HeaderCompletable (begun ++ [.number ['0']]))
    : HeaderCompletable begun :=
  h.of_concat [' ', '0'] (endsRun_cons (by decide +kernel) _) (by decide +kernel)

theorem headerCompletable_of_name (h : HeaderCompletable (begun ++ [.word "a"]))
    : HeaderCompletable begun :=
  h.of_concat [' ', 'a'] (endsRun_cons (by decide +kernel) _) (by decide +kernel)

theorem DerivesHeader.headerCompletable {header : Header} (h : DerivesHeader begun header)
    : HeaderCompletable begun := by
  refine ⟨[], header, Text.endsRun_nil _, ?_⟩
  rw [tokens_nil, List.append_nil]
  exact h

theorem headerCompletable_counted {digits : List Char} {count : UInt32}
    (value : Text.digitsValue digits = count.toNat)
    : HeaderCompletable [.word "repeat", .openParen, .number digits] := by
  apply headerCompletable_of_closeParen
  exact (DerivesHeader.times value).headerCompletable

theorem headerCompletable_count : HeaderCompletable [.word "repeat", .openParen] := by
  have value : Text.digitsValue ['0'] = (0 : UInt32).toNat := rfl
  apply headerCompletable_of_zero
  exact headerCompletable_counted value

/-- A header whose condition is whole is one parenthesis short. -/
theorem headerCompletable_asked {asked : List Token} {condition : String} (guard : Guard)
    (holds : DerivesCondition asked condition)
    : HeaderCompletable ([.word guard.word, .openParen] ++ asked) := by
  apply headerCompletable_of_closeParen
  exact (DerivesHeader.guarded guard holds).headerCompletable

theorem headerCompletable_named (guard : Guard) (name : String)
    : HeaderCompletable [.word guard.word, .openParen, .word name] := by
  apply headerCompletable_of_openParen
  apply headerCompletable_of_closeParen
  exact headerCompletable_asked guard (.call name)

/-- A header that was begun can be brought to its end. By cases over how far it has come. -/
theorem BeginsHeader.headerCompletable {phase : Phase} (h : BeginsHeader begun phase)
    : HeaderCompletable begun := by
  cases h with
  | counted =>
      apply headerCompletable_of_openParen
      exact headerCompletable_count
  | count => exact headerCompletable_count
  | countRead value => exact headerCompletable_counted value
  | guarded guard =>
      apply headerCompletable_of_openParen
      apply headerCompletable_of_name
      exact headerCompletable_named guard "a"
  | condition guard =>
      apply headerCompletable_of_name
      exact headerCompletable_named guard "a"
  | named guard name => exact headerCompletable_named guard name
  | asked guard name =>
      apply headerCompletable_of_closeParen
      exact headerCompletable_asked guard (.call name)
  | compared guard mark =>
      apply headerCompletable_of_zero
      exact headerCompletable_asked guard .energy
  | conditionRead guard holds => exact headerCompletable_asked guard holds
  | headed headed => exact headed.headerCompletable

end

/-- Whatever has been read could still become a script. By cases over what was begun. -/
theorem HasRead.completable {read : List Token} {reading : Reading} (h : HasRead read reading)
    : Completable read := by
  cases h with
  | ready outside whole => exact completable_of_whole outside whole
  | acted outside earlier action =>
      rw [List.append_assoc]
      exact completable_of_whole outside (earlier.snoc_act action .absent .absent)
  | calling outside earlier action mark =>
      have closed := completable_of_whole outside (earlier.snoc_act action .present .absent)
      have ends : EndsRun isWordChar [')'] := endsRun_cons (by decide +kernel) _
      have piece : tokens [')'] = [.closeParen] := by decide +kernel
      apply Completable.of_append ends
      simpa [piece] using closed
  | called outside earlier action =>
      rw [List.append_assoc]
      exact completable_of_whole outside (earlier.snoc_act action .present .absent)
  | begun outside earlier begins =>
      obtain ⟨tail, header, ends, headed⟩ := begins.headerCompletable
      have closed := completable_of_whole outside (earlier.snoc (headed.close .nil))
      have block : EndsRun isWordChar ['\x7b', '\x7d'] := endsRun_cons (by decide +kernel) _
      have piece : tokens ['\x7b', '\x7d'] = [.openBrace, .closeBrace] := by decide +kernel
      apply Completable.of_append (ends.append block)
      rw [tokens_append tail block, piece]
      simpa using closed

-----------------------------------------------------------------------------------------
-- Where a text is not understood
-----------------------------------------------------------------------------------------

theorem Reads.hasRead {lexemes : List Lexeme} {reading : Reading} (h : Reads lexemes reading)
    : HasRead (lexemes.map Lexeme.token) reading :=
  (HasRead.ready .nil .nil).steps h

/-- Some text goes on with this one as a script. -/
def Viable (front : List Char) : Prop :=
  ∃ tail script, readStrict (front ++ tail) = .ok script

theorem Completable.viable {front : List Char} (h : Completable (tokens front))
    : Viable front := by
  obtain ⟨tail, script, ends, derives⟩ := h
  refine ⟨tail, script, ?_⟩
  rw [readStrict_eq_ok_iff, tokens_append front ends]
  exact derives

theorem CutAt.viable {text front : List Char} {before : List Lexeme} {lexeme : Lexeme}
    {reading : Reading} (cut : CutAt text before lexeme front) (read : Reads before reading)
    : Viable front := by
  apply Completable.viable
  rw [cut.tokens_front]
  exact read.hasRead.completable

/-- A longer number than one digit goes on with a digit. -/
theorem exists_digit_of_scan {c d : Char} {rest digits : List Char}
    (h : (Token.scan c rest).1 = .number (d :: digits)) (longer : digits ≠ [])
    : c = d ∧ ∃ e behind, rest = e :: behind ∧ e.isDigit = true := by
  unfold Token.scan at h
  split at h
  · cases h
  · split at h
    · obtain ⟨rfl, rfl⟩ := List.cons.inj (Token.number.inj h)
      refine ⟨rfl, ?_⟩
      cases rest with
      | nil => contradiction
      | cons e behind =>
          by_cases digit : e.isDigit = true
          · exact ⟨e, behind, rfl, digit⟩
          · rw [List.takeWhile_cons_of_neg digit] at longer
            exact absurd rfl longer
    · exact absurd h (ofChar_ne_number c _)

/-- A number that energy is compared with may be cut behind a zero that it begins with. -/
theorem CutAt.viable_zero {text front digits rest : List Char} {before : List Lexeme}
    {reading : Reading} {guard : Guard} {mark : List Char}
    (cut : CutAt text before ⟨.number ('0' :: digits), '0' :: rest⟩ front)
    (read : Reads before reading) (compared : reading.phase = .compared guard mark)
    : Viable (front ++ ['0']) := by
  have single : tokens ['0'] = [.number ['0']] := by decide +kernel
  have found := cut.followed ['0'] (beginsLike_cons _ _ _)
  have zero : reading.step ⟨.number ['0'], ['0']⟩
      = .ok (reading.enter (.conditionRead guard "energy>0")) := by
    apply Reading.step_of_goes
    apply Reading.Goes.enter
    rw [compared]
    exact .zero guard mark
  apply Completable.viable
  rw [found, single]
  exact (read.hasRead.step zero).completable

/-- The text falls apart at the place of a fault: what is left there does not begin with layout,
and what stands before it could become a script. By cases over the place.
-/
theorem RefusedAt.splits {text rest : List Char} (h : RefusedAt (lexemes text) rest)
    : ∃ front, text = front ++ rest ∧ EndsRun isLayout rest ∧ Viable front := by
  generalize same : lexemes text = found at h
  cases h with
  | lexeme split read =>
      obtain ⟨front, cut⟩ := exists_cutAt (same.trans split)
      obtain ⟨c, behind, not_layout, rfl⟩ := cut.scanned
      exact ⟨front, cut.whole, endsRun_cons not_layout _, cut.viable read⟩
  | behindZero split longer read compared =>
      obtain ⟨front, cut⟩ := exists_cutAt (same.trans split)
      obtain ⟨c, behind, -, scanned⟩ := cut.scanned
      obtain ⟨token, rfl⟩ := Lexeme.mk.inj scanned
      obtain ⟨rfl, d, rest, rfl, digit⟩ := exists_digit_of_scan token.symm longer
      refine ⟨front ++ ['0'], ?_, endsRun_cons (isLayout_of_isDigit digit) rest,
        cut.viable_zero read compared⟩
      rw [cut.whole, List.append_assoc]
      rfl
  | theEnd read =>
      subst same
      refine ⟨text, (List.append_nil text).symm, Text.endsRun_nil _, ?_⟩
      exact Completable.viable read.hasRead.completable

/-- What is reported as not understood is reported of such a place. -/
theorem refusedAt_of_readStrict {text : List Char} {place : Text.Place} {near : String}
    (h : readStrict text = .error (.notUnderstood place near))
    : ∃ rest, RefusedAt (lexemes text) rest ∧ place = .ofSuffix text rest := by
  obtain ⟨rest, read, placed, -⟩ := exists_unexpected_of_readStrict h
  exact ⟨rest, refusedAt_of_ofLexemes read, placed⟩

/-- The line and the column of a suffix are counted in what stands before it. -/
theorem placeOfSuffix_append (before rest : List Char)
    : Text.Place.ofSuffix (before ++ rest) rest
      = ⟨1 + before.count '\n', 1 + (before.rtakeWhile (· != '\n')).length⟩ := by
  rw [Text.Place.ofSuffix, Text.upTo_append, List.rtakeWhile, List.length_reverse]
  rfl

/-- A text that is not understood can be cut where that is reported: the line and the column are
those behind the first part, the second part begins with no layout, and some text goes on with
the first part as a script.
-/
theorem exists_viable_of_readStrict {text : List Char} {place : Text.Place} {near : String}
    (h : readStrict text = .error (.notUnderstood place near))
    : ∃ before rest,
        text = before ++ rest
        ∧ place.line = 1 + before.count '\n'
        ∧ place.column = 1 + (before.rtakeWhile (· != '\n')).length
        ∧ (∀ c ∈ rest.head?, c ≠ ' ' ∧ c ≠ '\t' ∧ c ≠ '\r' ∧ c ≠ '\n')
        ∧ ∃ more script, readStrict (before ++ more) = .ok script := by
  obtain ⟨rest, refused, placed⟩ := refusedAt_of_readStrict h
  obtain ⟨before, rfl, ends, viable⟩ := refused.splits
  rw [placeOfSuffix_append] at placed
  subst placed
  refine ⟨before, rest, rfl, rfl, rfl, ?_, viable⟩
  intro c first
  simpa [isLayout, and_assoc, and_comm, and_left_comm] using ends c first

/-- In an open block on the second line, energy is compared with a number that only begins with a
zero.
-/
def overlongZeroText : List Char :=
  "repeat(2) \x7b\n  while(energy > 007) \x7b move() \x7d".toList

theorem exists_viable_of_readStrict_overlong_zero
    : readStrict overlongZeroText = .error (.notUnderstood ⟨2, 19⟩ "07)")
      ∧ ∃ before rest,
          overlongZeroText = before ++ rest
          ∧ 2 = 1 + before.count '\n'
          ∧ 19 = 1 + (before.rtakeWhile (· != '\n')).length
          ∧ (∀ c ∈ rest.head?, c ≠ ' ' ∧ c ≠ '\t' ∧ c ≠ '\r' ∧ c ≠ '\n')
          ∧ ∃ more script, readStrict (before ++ more) = .ok script := by
  have read : readStrict overlongZeroText = .error (.notUnderstood ⟨2, 19⟩ "07)") := by
    decide +kernel
  exact ⟨read, exists_viable_of_readStrict read⟩

end RobotPuzzle.Script
