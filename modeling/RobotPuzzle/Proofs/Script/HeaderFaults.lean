import RobotPuzzle.Proofs.Script.ViablePrefixes

/-! Whether the token that is reported within a header is the first one that cannot go on. It is,
whatever the header lacks, but for one place: where energy is compared with something else than
zero, the sign of the comparison is reported.
-/

namespace RobotPuzzle.Script

open Text (BeginsLike EndsRun beginsLike_cons beginsLike_nil isLayout isWordChar skipLayout)

/-- The words that begin a header. -/
def keywords : List String :=
  ["repeat", "if", "while"]

/-- The text ends behind a keyword, and before the brace that the header opens. -/
def EndsInHeader (front : List Char) : Prop :=
  ∃ before keyword inside,
    tokens front = before ++ .word keyword :: inside
    ∧ keyword ∈ keywords
    ∧ .openBrace ∉ inside

/-- The longest word or number at the beginning of the text, or the single character there. -/
def firstToken : List Char → List Char
  | [] => []
  | c :: rest =>
      c ::
        (if c.isAlpha then rest.takeWhile isWordChar
        else if c.isDigit then rest.takeWhile Char.isDigit
        else [])

/-- Between the two texts energy is compared, and not with anything that begins with a zero. -/
def ComparesAmiss (front rest : List Char) : Prop :=
  (tokens front).getLast? = some (.word "energy")
  ∧ ∃ behind, rest = '>' :: behind ∧ (skipLayout behind).head? ≠ some '0'

-----------------------------------------------------------------------------------------
-- Headers among the tokens of scripts
-----------------------------------------------------------------------------------------

/-- Behind every keyword there is an opening brace. -/
def HeadersOpen (found : List Token) : Prop :=
  ∀ before keyword inside,
    found = before ++ .word keyword :: inside
    → keyword ∈ keywords
    → .openBrace ∈ inside

theorem headersOpen_of_no_keyword {found : List Token}
    (h : ∀ keyword ∈ keywords, .word keyword ∉ found)
    : HeadersOpen found := by
  rintro before keyword inside rfl member
  exact absurd (List.mem_append_right _ List.mem_cons_self) (h keyword member)

/-- Where both parts open all their headers, so do they together: the brace of a keyword is in its
own part.
-/
theorem HeadersOpen.append {left right : List Token} (hl : HeadersOpen left)
    (hr : HeadersOpen right)
    : HeadersOpen (left ++ right) := by
  intro before keyword inside same member
  rcases List.append_eq_append_iff.mp same with ⟨between, rfl, later⟩ | ⟨between, rfl, later⟩
  · exact hr between keyword inside later member
  · cases between with
    | nil => exact hr [] keyword inside later.symm member
    | cons token between =>
        obtain ⟨rfl, rfl⟩ := List.cons.inj later
        exact List.mem_append_left _ (hl before keyword between rfl member)

/-- Whatever is begun, it is open behind a brace. -/
theorem headersOpen_concat (found : List Token) : HeadersOpen (found ++ [.openBrace]) := by
  intro before keyword inside same member
  rcases List.eq_nil_or_concat inside with rfl | ⟨inside, last, rfl⟩
  · cases (List.append_inj' same rfl).2
  · rw [List.concat_eq_append, ← List.cons_append, ← List.append_assoc] at same
    obtain rfl := (List.cons.inj (List.append_inj' same rfl).2).1
    simp

theorem headersOpen_block {inner : List Token} (head : List Token) (inside : HeadersOpen inner)
    : HeadersOpen (head ++ (.openBrace :: inner ++ [.closeBrace])) := by
  have brace : HeadersOpen [.closeBrace] := headersOpen_of_no_keyword (by simp)
  have parts := (headersOpen_concat head).append (inside.append brace)
  simpa using parts

/-- An action is no keyword, by cases over the actions. -/
theorem headersOpen_act (action : Action) {behind : List Token}
    (no_word : ∀ name, .word name ∉ behind)
    : HeadersOpen (.word action.name :: behind) := by
  have other : ∀ keyword ∈ keywords, keyword ≠ action.name := by cases action <;> decide
  apply headersOpen_of_no_keyword
  intro keyword member
  simpa [other keyword member] using no_word keyword

mutual

theorem DerivesStatement.headersOpen {found : List Token} {statement : Statement}
    (h : DerivesStatement found statement)
    : HeadersOpen found := by
  match h with
  | .act action parens semicolon =>
      apply headersOpen_act action
      cases parens <;> cases semicolon <;> simp
  | .times value (.braces inside) => exact headersOpen_block _ inside.headersOpen
  | .when guard (.braces inside) => exact headersOpen_block _ inside.headersOpen
  | .loop guard (.braces inside) => exact headersOpen_block _ inside.headersOpen

theorem DerivesScript.headersOpen {found : List Token} {script : Script}
    (h : DerivesScript found script)
    : HeadersOpen found := by
  match h with
  | .nil => exact headersOpen_of_no_keyword (by simp)
  | .cons head tail => exact head.headersOpen.append tail.headersOpen

end

theorem OpensBlocks.headersOpen {found : List Token} {outer : List OpenBlock}
    (h : OpensBlocks found outer)
    : HeadersOpen found := by
  cases h with
  | nil => exact headersOpen_of_no_keyword (by simp)
  | cons outside earlier headed => exact headersOpen_concat _

/-- Behind a keyword and before its brace, the reader has begun a header. -/
theorem HasRead.begins_of_endsInHeader {front : List Char} {reading : Reading}
    (h : HasRead (tokens front) reading) (inside : EndsInHeader front)
    : ∃ earlier begun, tokens front = earlier ++ begun ∧ BeginsHeader begun reading.phase := by
  obtain ⟨before, keyword, behind, same, member, unopened⟩ := inside
  have closed : ¬ HeadersOpen (tokens front) :=
    fun opens => unopened (opens before keyword behind same member)
  generalize tokens front = found at h closed
  cases h with
  | ready outside whole => exact absurd (outside.headersOpen.append whole.headersOpen) closed
  | begun outside earlier begins => exact ⟨_, _, rfl, begins⟩
  | acted outside earlier action | calling outside earlier action | called outside earlier action =>
      have settled := outside.headersOpen.append earlier.headersOpen
      exact absurd (settled.append (headersOpen_act action (by simp))) closed

-----------------------------------------------------------------------------------------
-- Tokens that go on
-----------------------------------------------------------------------------------------

/-- The tokens are the same, or they are both words or both numbers. -/
inductive Token.Alike : Token → Token → Prop
  | same (token : Token) : Alike token token
  | words (name other : String) : Alike (.word name) (.word other)
  | numbers (digits other : List Char) : Alike (.number digits) (.number other)

/-- The first character of a token decides of what kind it is. -/
theorem Token.scan_alike (c : Char) (rest other : List Char)
    : (scan c rest).1.Alike (scan c other).1 := by
  unfold scan
  split
  · exact .words _ _
  · split
    · exact .numbers _ _
    · exact .same _

/-- Within a header, what a token leads to a token of the same kind leads to as well, unless it is
a count or what energy is compared with. By cases over the ways to go on.
-/
theorem Phase.Goes.of_alike {phase next : Phase} {token other : Token} {text : List Char}
    (goes : phase.Goes ⟨other, text⟩ next) (unmarked : phase.mark? = none)
    (alike : token.Alike other) (behind : List Char)
    : (∃ next, phase.Goes ⟨token, behind⟩ next)
      ∨ phase = .count ∧ ∃ digits, token = .number digits := by
  cases goes with
  | count value => cases alike <;> exact .inr ⟨rfl, _, rfl⟩
  | name guard name => cases alike <;> exact .inl ⟨_, .name guard _⟩
  | called mark | zero guard mark => cases unmarked
  | call => cases alike; exact .inl ⟨_, .call behind⟩
  | stop => cases alike; exact .inl ⟨_, .stop⟩
  | stopCall => cases alike; exact .inl ⟨_, .stopCall⟩
  | openCount => cases alike; exact .inl ⟨_, .openCount⟩
  | closeCount count => cases alike; exact .inl ⟨_, .closeCount count⟩
  | openGuard guard => cases alike; exact .inl ⟨_, .openGuard guard⟩
  | ask guard name => cases alike; exact .inl ⟨_, .ask guard name⟩
  | asked guard name => cases alike; exact .inl ⟨_, .asked guard name⟩
  | compare text guard => cases alike; exact .inl ⟨_, .compare behind guard⟩
  | closeGuard guard condition => cases alike; exact .inl ⟨_, .closeGuard guard condition⟩

theorem Reading.takeCount_ne_unexpected (reading : Reading) (digits rest : List Char)
    : reading.takeCount digits ≠ .error (.unexpected rest) := by
  unfold takeCount
  split <;> exact nofun

/-- A token that is not understood within a header is not understood however it goes on. -/
theorem Reading.step_ne_ok_of_alike {reading : Reading} {token other : Token}
    {text rest : List Char} (unsettled : reading.phase.isSettled = false)
    (unmarked : reading.phase.mark? = none)
    (failed : reading.step ⟨token, text⟩ = .error (.unexpected rest)) (alike : token.Alike other)
    (behind : List Char) (next : Reading)
    : reading.step ⟨other, behind⟩ ≠ .ok next := by
  intro stepped
  have stays (next : Reading) : ¬ reading.Goes ⟨token, text⟩ next := by
    intro goes
    cases (Reading.step_of_goes goes).symm.trans failed
  cases Reading.goes_of_step stepped with
  | begin settled => simp [unsettled] at settled
  | enter goes =>
      rcases goes.of_alike unmarked alike text with ⟨phase, goes⟩ | ⟨counting, digits, rfl⟩
      · exact stays _ (.enter goes)
      · obtain ⟨outer, done, phase⟩ := reading
        subst counting
        exact takeCount_ne_unexpected _ digits rest failed
  | openBlock headed =>
      cases alike
      exact stays _ (.openBlock headed)

-----------------------------------------------------------------------------------------
-- Tokens that no script goes on with
-----------------------------------------------------------------------------------------

/-- A script that begins with what has been read is read on from there. -/
theorem Reads.exists_step {before after : List Lexeme} {lexeme : Lexeme} {reading : Reading}
    {script : Script} (read : Reads before reading)
    (accepted : ofLexemes (before ++ lexeme :: after) = .ok script)
    : ∃ next, reading.step lexeme = .ok next := by
  cases stepped : reading.step lexeme with
  | ok next => exact ⟨next, rfl⟩
  | error fault =>
      have steps : before.foldlM Reading.step {} = .ok reading := read
      have failed : (before ++ lexeme :: after).foldlM Reading.step {} = .error fault := by
        rw [List.foldlM_append, steps]
        change (lexeme :: after).foldlM Reading.step reading = .error fault
        rw [List.foldlM_cons, stepped]
        rfl
      rw [ofLexemes, failed] at accepted
      cases accepted

/-- What the reader does not get past is in no script behind what it has read. -/
theorem Reads.not_derives {before : List Lexeme} {reading : Reading} {token : Token}
    (read : Reads before reading)
    (refused : ∀ next, reading.step ⟨token, []⟩ ≠ .ok next) (found : List Token)
    (script : Script)
    : ¬ DerivesScript (before.map Lexeme.token ++ token :: found) script := by
  intro derives
  have whole
      : (before ++ Lexeme.mk token [] :: found.map (Lexeme.mk · [])).map Lexeme.token
        = before.map Lexeme.token ++ token :: found := by
    simp [Function.comp_def]
  obtain ⟨next, stepped⟩ := read.exists_step (ofLexemes_of_derives (whole ▸ derives))
  exact refused next stepped

/-- A piece of text that always becomes a token which is not understood goes on to no script. -/
theorem CutAt.not_viable {text front piece : List Char} {before : List Lexeme} {lexeme : Lexeme}
    {reading : Reading} (cut : CutAt text before lexeme front) (read : Reads before reading)
    (refused : ∀ tail,
      BeginsLike (piece ++ tail) lexeme.text
      ∧ ∃ token found,
          tokens (piece ++ tail) = token :: found
          ∧ ∀ next, reading.step ⟨token, []⟩ ≠ .ok next)
    : ¬ Viable (front ++ piece) := by
  rintro ⟨tail, script, accepted⟩
  obtain ⟨alike, token, found, first, refused⟩ := refused tail
  rw [readStrict_eq_ok_iff, List.append_assoc, cut.followed _ alike, first] at accepted
  exact read.not_derives refused found script accepted

-----------------------------------------------------------------------------------------
-- Where a header is not understood
-----------------------------------------------------------------------------------------

section

variable {text front : List Char} {before after : List Lexeme} {lexeme : Lexeme}
  {reading : Reading}

/-- Where a text was cut within a header, the reading was at the beginning of one. -/
theorem CutAt.begins (cut : CutAt text before lexeme front) (read : Reads before reading)
    (inside : EndsInHeader front)
    : ∃ earlier begun, tokens front = earlier ++ begun ∧ BeginsHeader begun reading.phase :=
  HasRead.begins_of_endsInHeader (cut.tokens_front ▸ read.hasRead) inside

theorem BeginsHeader.isSettled_eq_false {begun : List Token} {phase : Phase}
    (h : BeginsHeader begun phase)
    : phase.isSettled = false := by
  cases h <;> rfl

/-- Behind the word `energy` there is no header but one that may compare it. -/
theorem BeginsHeader.eq_named {earlier begun : List Token} {phase : Phase}
    (h : BeginsHeader begun phase)
    (last : (earlier ++ begun).getLast? = some (.word "energy"))
    : ∃ guard, phase = .named guard "energy" := by
  cases h with
  | named guard name =>
      obtain rfl : name = "energy" := by simpa using last
      exact ⟨guard, rfl⟩
  | guarded guard => cases guard <;> simp [Guard.word] at last
  | conditionRead guard holds => cases holds <;> simp at last
  | headed headed =>
      cases headed with
      | times value => simp at last
      | guarded guard holds =>
          rw [← List.append_assoc, List.getLast?_concat] at last
          cases last
  | _ => simp at last

/-- A token that is not understood itself goes on to no script. -/
theorem CutAt.viable_iff_of_unmarked (cut : CutAt text before lexeme front)
    (read : Reads before reading) (inside : EndsInHeader front)
    (unmarked : reading.phase.mark? = none)
    (failed : reading.step lexeme = .error (.unexpected lexeme.text))
    : Viable (front ++ firstToken lexeme.text) ↔ ComparesAmiss front lexeme.text := by
  obtain ⟨earlier, begun, tokens_eq, begins⟩ := cut.begins read inside
  obtain ⟨c, rest, not_layout, rfl⟩ := cut.scanned
  refine iff_of_false ?_ ?_
  · refine cut.not_viable read ?_
    intro tail
    refine ⟨beginsLike_cons c _ rest, _, _, tokens_scan not_layout _, ?_⟩
    exact Reading.step_ne_ok_of_alike begins.isSettled_eq_false unmarked failed
      (Token.scan_alike c rest _) []
  · rintro ⟨last, behind, same, -⟩
    obtain ⟨rfl, rfl⟩ := List.cons.inj same
    rw [tokens_eq] at last
    obtain ⟨guard, named⟩ := begins.eq_named last
    have compares : reading.phase.Goes ⟨.greater, '>' :: rest⟩ (.compared guard ('>' :: rest)) := by
      rw [named]
      exact .compare _ guard
    cases (Reading.step_of_goes (.enter compares)).symm.trans failed

/-- What energy is compared with is a zero of one digit. -/
theorem Reading.Goes.eq_zero {next : Reading} {guard : Guard} {mark : List Char}
    (h : reading.Goes lexeme next) (compared : reading.phase = .compared guard mark)
    : lexeme.token = .number ['0'] := by
  cases h with
  | begin settled =>
      rw [compared] at settled
      cases settled
  | enter goes =>
      rw [compared] at goes
      cases goes
      rfl
  | openBlock headed => cases compared.symm.trans headed

/-- Of a number that begins with a zero, what follows the zero goes on to no script. -/
theorem CutAt.viable_iff_behindZero {digits rest : List Char} {guard : Guard} {mark : List Char}
    (cut : CutAt text before ⟨.number ('0' :: digits), '0' :: rest⟩ front)
    (read : Reads before reading) (compared : reading.phase = .compared guard mark)
    (longer : digits ≠ [])
    : Viable (front ++ ['0'] ++ firstToken rest) ↔ ComparesAmiss (front ++ ['0']) rest := by
  obtain ⟨c, behind, -, scanned⟩ := cut.scanned
  obtain ⟨number, same⟩ := Lexeme.mk.inj scanned
  obtain ⟨rfl, rfl⟩ := List.cons.inj same
  obtain ⟨-, d, behind, rfl, digit⟩ := exists_digit_of_scan number.symm longer
  refine iff_of_false ?_ ?_
  · rw [List.append_assoc]
    refine cut.not_viable read ?_
    intro tail
    refine ⟨beginsLike_cons '0' _ _, _, _, tokens_scan rfl _, ?_⟩
    intro next stepped
    have zero := (Reading.goes_of_step stepped).eq_zero compared
    have number : (Token.scan '0' (firstToken (d :: behind) ++ tail)).1 = .number ['0'] := zero
    rw [firstToken, List.cons_append, Token.scan, if_neg (by decide), if_pos (by decide),
      List.takeWhile_cons_of_pos digit] at number
    cases number
  · rintro ⟨-, _, same, -⟩
    obtain ⟨rfl, -⟩ := List.cons.inj same
    cases digit

/-- A reader that has a name behind an opened guard has read that name last. -/
theorem HasRead.named {found : List Token} {guard : Guard} {name : String}
    (h : HasRead found reading) (named : reading.phase = .named guard name)
    : found.getLast? = some (.word name) := by
  cases h with
  | begun outside earlier begins =>
      subst named
      cases begins
      simp
  | _ => cases named

/-- A text whose first token is no number that begins with a zero does not begin with a zero. -/
theorem head?_skipLayout_ne_zero
    (other : ∀ digits, (tokens text).head? ≠ some (.number ('0' :: digits)))
    : (skipLayout text).head? ≠ some '0' := by
  intro zero
  cases skipped : skipLayout text with
  | nil =>
      rw [skipped] at zero
      cases zero
  | cons c rest =>
      rw [skipped] at zero
      obtain rfl : c = '0' := by simpa using zero
      apply other (rest.takeWhile Char.isDigit)
      rw [tokens_of_skipLayout_cons skipped]
      rfl

/-- Where energy is compared with something else, the sign of the comparison is reported, and there
is a script that goes on with that.
-/
theorem CutAt.viable_iff_of_compared {previous : Reading} {guard : Guard}
    (cut : CutAt text before lexeme front) (found : lexemes text = before ++ lexeme :: after)
    (read_before : Reads before previous) (named : previous.phase = .named guard "energy")
    (read : Reads (before ++ [lexeme]) reading) (sign : lexeme.token = .greater)
    (other : ∀ digits, (after.map Lexeme.token).head? ≠ some (.number ('0' :: digits)))
    : Viable (front ++ firstToken lexeme.text) ↔ ComparesAmiss front lexeme.text := by
  have here := cut.tokens_text found
  rw [sign] at here
  obtain ⟨behind, begun, later⟩ := begins_with_symbol (c := '>') here
  rw [cut.skipLayout_text] at begun
  rw [begun]
  refine iff_of_true ?_ ⟨?_, behind, rfl, ?_⟩
  · have single : tokens ['>'] = [.greater] := by decide +kernel
    have extended : tokens (front ++ ['>']) = (before ++ [lexeme]).map Lexeme.token := by
      rw [cut.followed ['>'] (begun ▸ beginsLike_cons '>' [] behind), List.map_append,
        List.map_singleton, sign, single]
    change Viable (front ++ ['>'])
    apply Completable.viable
    rw [extended]
    exact read.hasRead.completable
  · rw [cut.tokens_front]
    exact read_before.hasRead.named named
  · apply head?_skipLayout_ne_zero
    rwa [later]

/-- A mark that is set behind the text is where energy is compared, if the text ends in a header. -/
theorem exists_front_of_marked {mark : List Char}
    (found : lexemes text = before ++ after) (read : Reads before reading)
    (marked : reading.phase.mark? = some mark)
    (other : ∀ guard, reading.phase = .compared guard mark →
      ∀ digits, (after.map Lexeme.token).head? ≠ some (.number ('0' :: digits)))
    : ∃ front,
        text = front ++ mark
        ∧ (EndsInHeader front → mark ≠ [] →
            (Viable (front ++ firstToken mark) ↔ ComparesAmiss front mark)) := by
  obtain ⟨earlier, last, previous, rfl, rfl, read_before, goes⟩ := read.marked marked
  rw [List.append_assoc] at found
  obtain ⟨front, cut⟩ := exists_cutAt found
  refine ⟨front, cut.whole, ?_⟩
  intro inside _
  obtain ⟨-, begun, -, begins⟩ := cut.begins read_before inside
  obtain ⟨outer, done, phase⟩ := previous
  cases goes with
  | begin settled =>
      rw [begins.isSettled_eq_false] at settled
      cases settled
  | openBlock headed => cases marked
  | enter goes =>
      cases goes with
      | call text => cases begins
      | compare text guard =>
          exact cut.viable_iff_of_compared found read_before rfl read rfl (other guard rfl)
      | _ => cases marked

/-- Wherever a text is not understood, this is so of the token there, if that is in a header. -/
theorem exists_front_of_ofLexemes {rest : List Char}
    (h : ofLexemes (lexemes text) = .error (.unexpected rest))
    : ∃ front,
        text = front ++ rest
        ∧ (EndsInHeader front → rest ≠ [] →
            (Viable (front ++ firstToken rest) ↔ ComparesAmiss front rest)) := by
  rcases reads_of_ofLexemes_error h with
    ⟨before, lexeme, after, reading, found, read, failed⟩ | ⟨reading, read, unfinished⟩
  · have stops := Reading.stops_of_step failed
    generalize same : Fault.unexpected rest = fault at stops
    cases stops with
    | here unmarked =>
        obtain rfl := Fault.unexpected.inj same
        obtain ⟨front, cut⟩ := exists_cutAt found
        exact ⟨front, cut.whole, fun inside _ =>
          cut.viable_iff_of_unmarked read inside unmarked failed⟩
    | uncalled calling =>
        obtain rfl := Fault.unexpected.inj same
        apply exists_front_of_marked found read (calling ▸ rfl)
        intro guard compared
        cases calling.symm.trans compared
    | unequal compared other =>
        obtain rfl := Fault.unexpected.inj same
        apply exists_front_of_marked found read (compared ▸ rfl)
        intro guard _ digits zero
        exact other digits (Option.some.inj zero)
    | @behindZero guard mark digits zeroed compared longer =>
        obtain rfl := Fault.unexpected.inj same
        obtain ⟨front, cut⟩ := exists_cutAt found
        obtain ⟨c, behind, -, scanned⟩ := cut.scanned
        obtain ⟨number, rfl⟩ := Lexeme.mk.inj scanned
        obtain ⟨rfl, -⟩ := exists_digit_of_scan number.symm longer
        refine ⟨front ++ ['0'], ?_, fun _ _ => cut.viable_iff_behindZero read compared longer⟩
        rw [List.append_assoc]
        exact cut.whole
    | tooMany => cases same
  · rcases Reading.unexpected_of_finish unfinished with ended | ⟨mark, marked, same⟩
    · obtain rfl := Fault.unexpected.inj ended
      exact ⟨text, (List.append_nil text).symm, fun _ nonempty => absurd rfl nonempty⟩
    · obtain rfl := Fault.unexpected.inj same
      exact exists_front_of_marked (List.append_nil _).symm read marked (fun _ _ _ => nofun)

end

/-- A text that is not understood can be cut where that is reported. If this is in a header, the
token that stands there is the first one with which the text cannot become a script, unless it is
the sign with which energy is compared with something else than zero. That sign is reported, and
the text can go on with it.
-/
theorem viable_iff_of_readStrict {text : List Char} {place : Text.Place} {near : String}
    (h : readStrict text = .error (.notUnderstood place near))
    : ∃ before rest,
        text = before ++ rest
        ∧ place.line = 1 + before.count '\n'
        ∧ place.column = 1 + (before.rtakeWhile (· != '\n')).length
        ∧ (EndsInHeader before → rest ≠ [] →
            (Viable (before ++ firstToken rest) ↔ ComparesAmiss before rest)) := by
  obtain ⟨rest, read, placed, -⟩ := exists_unexpected_of_readStrict h
  obtain ⟨before, rfl, blames⟩ := exists_front_of_ofLexemes read
  rw [placeOfSuffix_append] at placed
  subst placed
  exact ⟨before, rest, rfl, rfl, rfl, blames⟩

/-- In an open block, energy is compared with a number on the next line that is not zero. -/
def otherNumberText : List Char :=
  "repeat(2) \x7b\n  if(energy >\n    10) \x7b move() \x7d \x7d".toList

theorem viable_iff_of_readStrict_other_number
    : readStrict otherNumberText = .error (.notUnderstood ⟨2, 13⟩ ">")
      ∧ ∃ before rest,
          otherNumberText = before ++ rest
          ∧ 2 = 1 + before.count '\n'
          ∧ 13 = 1 + (before.rtakeWhile (· != '\n')).length
          ∧ (EndsInHeader before → rest ≠ [] →
              (Viable (before ++ firstToken rest) ↔ ComparesAmiss before rest)) := by
  have read : readStrict otherNumberText = .error (.notUnderstood ⟨2, 13⟩ ">") := by
    decide +kernel
  exact ⟨read, viable_iff_of_readStrict read⟩

/-- Not every token that is reported within a header is one that no script goes on with: the sign
with which energy is compared is reported when a five follows, and a zero may.
-/
theorem readStrict_blames_a_viable_sign
    : ¬ ∀ (text before rest : List Char) (place : Text.Place) (near : String),
        readStrict text = .error (.notUnderstood place near)
        → text = before ++ rest
        → place = .behind before
        → EndsInHeader before
        → rest ≠ []
        → ¬ Viable (before ++ firstToken rest) := by
  intro claim
  have read
      : readStrict "while(energy > 5) \x7b move() \x7d".toList
        = .error (.notUnderstood ⟨1, 14⟩ ">") := by
    decide +kernel
  have inside : EndsInHeader "while(energy ".toList :=
    ⟨[], "while", [.openParen, .word "energy"], by decide +kernel, by decide, by decide⟩
  apply claim _ "while(energy ".toList "> 5) \x7b move() \x7d".toList _ _ read rfl rfl inside
  · decide
  · exact ⟨" 0) \x7b \x7d".toList, [.loop "energy>0" []], by decide +kernel⟩

end RobotPuzzle.Script
