import RobotPuzzle.Proofs.Script.FlatShapes
import RobotPuzzle.Proofs.Script.ViablePrefixes

/-! Counts that are too large for a word. The strict reader reports such a count or a place that
it does not understand. The flat reader reports the first such count and nothing else: what it
does not understand it skips, and no body has a count in it, as a body has no closing brace.
-/

namespace RobotPuzzle.Script

open Text (EndsRun isLayout skipLayout)

/-- The text is a number that no 32-bit word holds. -/
structure IsLargeCount (number : List Char) : Prop where
  nonempty : number ≠ []
  digits : ∀ d ∈ number, d.isDigit = true
  large : 0x100000000 ≤ Text.digitsValue number

/-- The number stands in the text as a whole, behind the word `repeat` and an opening parenthesis
with nothing but layout between.
-/
def AsksFor (text number : List Char) : Prop :=
  ∃ before gap space after : List Char,
    text = before ++ "repeat".toList ++ gap ++ '(' :: space ++ number ++ after
    ∧ (∀ c ∈ gap ++ space, isLayout c = true)
    ∧ EndsRun Char.isDigit after

-----------------------------------------------------------------------------------------
-- Counts that the strict reader reports
-----------------------------------------------------------------------------------------

/-- A reader that waits for a count has read `repeat` and an opening parenthesis last. -/
theorem HasRead.counting {read : List Token} {reading : Reading} (h : HasRead read reading)
    (counting : reading.phase = .count)
    : ∃ earlier, read = earlier ++ [.word "repeat", .openParen] := by
  cases h with
  | begun outside earlier begins =>
      subst counting
      cases begins
      exact ⟨_, rfl⟩
  | _ => cases counting

/-- A count that is reported is the next lexeme behind those two. -/
theorem exists_counting_of_ofLexemes {lexemes : List Lexeme} {number : List Char}
    (h : ofLexemes lexemes = .error (.tooMany number))
    : ∃ before after first found,
        lexemes = before ++ first :: after
        ∧ (first :: after).map Lexeme.token
          = .word "repeat" :: .openParen :: .number number :: found
        ∧ 0x100000000 ≤ Text.digitsValue number := by
  rcases reads_of_ofLexemes_error h with
    ⟨before, lexeme, after, reading, rfl, read, failed⟩ | ⟨reading, -, unfinished⟩
  · cases Reading.stops_of_step failed with
    | tooMany counting large =>
        obtain ⟨earlier, same⟩ := (Reads.hasRead read).counting counting
        obtain ⟨front, header, rfl, -, pair⟩ := List.map_eq_append_iff.mp same
        obtain ⟨first, rest, rfl, keyword, opened⟩ := List.map_eq_cons_iff.mp pair
        refine ⟨front, rest ++ _ :: after, first, after.map Lexeme.token,
          List.append_assoc .., ?_, large⟩
        rw [List.map_cons, List.map_append, keyword, opened]
        rfl
  · rcases Reading.unexpected_of_finish unfinished with same | ⟨mark, -, same⟩ <;> cases same

/-- Three tokens of a counted block, with layout between them, ask for their count. -/
theorem asksFor_of_tokens {text number : List Char} {found : List Token} (front : List Char)
    (start : skipLayout text = text)
    (h : tokens text = .word "repeat" :: .openParen :: .number number :: found)
    : AsksFor (front ++ text) number
      ∧ number ≠ []
      ∧ ∀ d ∈ number, d.isDigit = true := by
  obtain ⟨behind_word, word_eq, -, -, -, h⟩ := begins_with_word h
  obtain ⟨behind_paren, paren_eq, h⟩ := begins_with_symbol (c := '(') h
  obtain ⟨after, number_eq, nonempty, digits, ends, -⟩ := begins_with_number h
  obtain ⟨gap, rfl, gap_layout⟩ := exists_gap paren_eq
  obtain ⟨space, rfl, space_layout⟩ := exists_gap number_eq
  refine ⟨⟨front, gap, space, after, ?_, ?_, ends⟩, nonempty, digits⟩
  · rw [← start, word_eq]
    simp only [List.append_assoc, List.cons_append]
  · exact List.forall_mem_append.mpr ⟨gap_layout, space_layout⟩

/-- A count that the strict reader reports is one that is too large, and the text asks for it. -/
theorem asksFor_of_readStrict {text : List Char} {count : String}
    (h : readStrict text = .error (.badCount count))
    : IsLargeCount count.toList ∧ AsksFor text count.toList := by
  obtain ⟨fault, read, reported⟩ := (readStrict_eq_error_iff text _).mp h
  cases fault with
  | unexpected rest => cases reported
  | tooMany number =>
      obtain rfl := ScriptError.badCount.inj reported
      obtain ⟨before, after, first, found, split, here, large⟩ :=
        exists_counting_of_ofLexemes read
      obtain ⟨front, cut⟩ := exists_cutAt split
      obtain ⟨asks, nonempty, digits⟩ :=
        asksFor_of_tokens front cut.skipLayout_text ((cut.tokens_text split).trans here)
      rw [String.toList_ofList, cut.whole]
      exact ⟨⟨nonempty, digits, large⟩, asks⟩

/-- The strict reader never blames a name: its faults are places and counts. -/
theorem readStrict_ne_unknownAction (text : List Char) (name : String)
    : readStrict text ≠ .error (.unknownAction name) := by
  intro h
  obtain ⟨fault, -, reported⟩ := (readStrict_eq_error_iff text _).mp h
  cases fault <;> cases reported

-----------------------------------------------------------------------------------------
-- Counts that the flat reader reports
-----------------------------------------------------------------------------------------

theorem bind_eq_error_iff {α β ε : Type} {first : Except ε α} {next : α → Except ε β} {error : ε}
    : (first >>= next) = .error error
      ↔ first = .error error ∨ ∃ found, first = .ok found ∧ next found = .error error := by
  cases first with
  | error other =>
      constructor
      · exact fun failed => .inl (congrArg _ (Except.error.inj failed))
      · rintro (same | ⟨found, none, -⟩)
        · exact congrArg _ (Except.error.inj same)
        · cases none
  | ok found =>
      constructor
      · exact fun failed => .inr ⟨found, rfl, failed⟩
      · rintro (none | ⟨other, same, failed⟩)
        · cases none
        · exact Except.ok.inj same ▸ failed

/-- All excerpts of the text, each behind the one before. What is in their bodies is not among
them.
-/
def excerpts (text : List Char) : List Excerpt :=
  match _found : nextExcerpt? text with
  | none => []
  | some (excerpt, rest) => excerpt :: excerpts rest
termination_by text.length
decreasing_by exact (length_nextExcerpt? ‹_›).2

theorem excerpts_of_find?_none {text : List Char} (h : Shape.find? text = none)
    : excerpts text = [] := by
  have nothing := nextExcerpt?_of_find?_none h
  rw [excerpts]
  split
  · rfl
  · simp_all

theorem excerpts_of_find?_some {text rest : List Char} {shape : Shape}
    (h : Shape.find? text = some (shape, rest))
    : excerpts text = shape.excerpt text rest :: excerpts rest := by
  have next := nextExcerpt?_of_find?_some h
  rw [excerpts]
  split
  · simp_all
  next excerpt tail same =>
    obtain ⟨rfl, rfl⟩ := Prod.mk.inj (Option.some.inj (next.symm.trans same))
    rfl

/-- The excerpt is a repetition with a count that no 32-bit word holds. -/
def Excerpt.isTooLarge (excerpt : Excerpt) : Bool :=
  excerpt.kind = .times ∧ 0x100000000 ≤ Text.digitsValue excerpt.param.toList

/-- Everything without a closing brace is read, since there are only actions to be found in it.
By induction over the length of the text.
-/
theorem exists_readFlat_of_no_closeBrace {text : List Char} (no_brace : '\x7d' ∉ text)
    : ∃ script, readFlat text = .ok script := by
  induction length : text.length using Nat.strong_induction_on generalizing text with
  | _ n ih =>
      subst length
      cases found : Shape.find? text with
      | none => exact ⟨[], readFlat_of_find?_none found⟩
      | some matched =>
          obtain ⟨shape, rest⟩ := matched
          have place := Shape.find?_foundIn found
          have shorter : rest.length < text.length :=
            Nat.lt_of_le_of_lt (Nat.le_add_left _ _) (Shape.length_find? found)
          obtain ⟨script, read⟩ := ih _ shorter (mt (place.suffix.subset ·) no_brace) rfl
          cases place.formed with
          | act action =>
              refine ⟨.act action :: script, ?_⟩
              rw [readFlat_of_find?_some found, statement_act, read]
              rfl
          | times => exact absurd (place.closed (Option.some_ne_none _)) no_brace
          | guarded => exact absurd (place.closed (Option.some_ne_none _)) no_brace

/-- The body of a block is read, as it ends in front of the first closing brace. -/
theorem exists_readFlat_body {body : List Char} (inside : '\x7d' ∉ body)
    : ∃ script, readFlat (Text.trim body) = .ok script :=
  exists_readFlat_of_no_closeBrace (mt (Text.trim_subset body ·) inside)

theorem readCount_eq_error_iff {number : List Char} {error : ScriptError}
    (numeral : number ≠ [] ∧ ∀ d ∈ number, d.isDigit = true)
    : readCount (String.ofList number) = .error error
      ↔ 0x100000000 ≤ Text.digitsValue number ∧ error = .badCount (String.ofList number) := by
  by_cases small : Text.digitsValue number < UInt32.size
  · have value := (UInt32.toNat_ofNatLT (h := small)).symm
    rw [readCount_digits numeral value]
    constructor
    · exact nofun
    · exact fun large => absurd small (Nat.not_lt_of_le large.1)
  · have unfit : Text.word32? (Text.digitsValue number) = none := dif_neg small
    rw [readCount, String.toList_ofList, readWord32?_digits numeral, unfit]
    constructor
    · exact fun same => ⟨Nat.le_of_not_lt small, (Except.error.inj same).symm⟩
    · exact fun large => congrArg _ large.2.symm

/-- A shape that was matched fails to make a statement exactly if it is a repetition with a count
that is too large, by cases over the shape. Its body is always read.
-/
theorem Shape.Formed.statement_eq_error_iff {shape : Shape} (formed : shape.Formed)
    (text rest : List Char) (error : ScriptError)
    : (shape.excerpt text rest).statement = .error error
      ↔ (shape.excerpt text rest).isTooLarge = true
        ∧ error = .badCount (shape.excerpt text rest).param := by
  generalize same : shape.excerpt text rest = excerpt
  cases formed with
  | act action =>
      have made := statement_act action text rest
      rw [same] at made
      rw [made]
      simp [← same, Excerpt.isTooLarge, Shape.excerpt]
  | @times number body numeral inside =>
      obtain ⟨script, read⟩ := exists_readFlat_body inside
      have made := statement_times_eq number body text rest
      rw [same, read] at made
      have large : excerpt.isTooLarge = true ↔ 0x100000000 ≤ Text.digitsValue number := by
        simp [← same, Excerpt.isTooLarge, Shape.excerpt, Excerpt.param]
      rw [made, large, bind_eq_error_iff, readCount_eq_error_iff numeral, or_iff_left]
      · rw [← same]
        rfl
      · rintro ⟨count, -, failed⟩
        cases failed
  | @guarded guard name body word inside =>
      obtain ⟨script, read⟩ := exists_readFlat_body inside
      have made := statement_guarded guard (String.ofList name) read text rest
      rw [String.toList_ofList, same] at made
      rw [made]
      cases guard <;> simp [← same, Excerpt.isTooLarge, Shape.excerpt, Guard.kind]

/-- The flat reader fails at the first excerpt with a count that is too large, and reports that
count. By induction over the length of the text.
-/
theorem readFlat_eq_error_iff {text : List Char} {error : ScriptError}
    : readFlat text = .error error
      ↔ ∃ excerpt,
          (excerpts text).find? Excerpt.isTooLarge = some excerpt
          ∧ error = .badCount excerpt.param := by
  induction length : text.length using Nat.strong_induction_on generalizing text with
  | _ n ih =>
      subst length
      cases found : Shape.find? text with
      | none => simp [readFlat_of_find?_none found, excerpts_of_find?_none found]
      | some matched =>
          obtain ⟨shape, rest⟩ := matched
          have shorter : rest.length < text.length :=
            Nat.lt_of_le_of_lt (Nat.le_add_left _ _) (Shape.length_find? found)
          have fails := (Shape.find?_foundIn found).formed.statement_eq_error_iff text rest
          rw [readFlat_of_find?_some found, excerpts_of_find?_some found]
          cases made : (shape.excerpt text rest).statement with
          | error failure =>
              obtain ⟨large, rfl⟩ := (fails failure).mp made
              rw [List.find?_cons_of_pos large]
              constructor
              · intro same
                exact ⟨_, rfl, (Except.error.inj same).symm⟩
              · rintro ⟨excerpt, first, rfl⟩
                exact Option.some.inj first ▸ rfl
          | ok statement =>
              have small : ¬ (shape.excerpt text rest).isTooLarge = true := by
                intro large
                cases made.symm.trans ((fails _).mpr ⟨large, rfl⟩)
              rw [List.find?_cons_of_neg small, ← ih _ shorter rfl]
              change (readFlat rest >>= fun later => .ok (statement :: later)) = _ ↔ _
              rw [bind_eq_error_iff, or_iff_left]
              rintro ⟨later, -, failed⟩
              cases failed

/-- Every excerpt is one of a shape that was matched, by induction over the excerpts. -/
theorem exists_formed_of_excerpts (text : List Char)
    : ∀ excerpt ∈ excerpts text,
        ∃ (shape : Shape) (front rest : List Char),
          shape.Formed ∧ excerpt = shape.excerpt front rest := by
  fun_induction excerpts text with
  | case1 => exact nofun
  | case2 text next rest found later =>
      obtain ⟨⟨shape, behind⟩, first, same⟩ := Option.map_eq_some_iff.mp found
      obtain ⟨rfl, rfl⟩ := Prod.mk.inj same
      have formed := (Shape.find?_foundIn first).formed
      exact List.forall_mem_cons.mpr ⟨⟨shape, text, behind, formed, rfl⟩, later⟩

theorem isLargeCount_of_mem_excerpts {text : List Char} {excerpt : Excerpt}
    (member : excerpt ∈ excerpts text) (large : excerpt.isTooLarge = true)
    : IsLargeCount excerpt.param.toList := by
  obtain ⟨repeats, large⟩ := of_decide_eq_true large
  obtain ⟨shape, front, rest, formed, rfl⟩ := exists_formed_of_excerpts text excerpt member
  cases formed with
  | act action => cases repeats
  | times numeral inside =>
      refine ⟨?_, ?_, large⟩
      · simpa [Shape.excerpt, Excerpt.param] using numeral.1
      · simpa [Shape.excerpt, Excerpt.param] using numeral.2
  | guarded guard word inside => cases guard <;> cases repeats

/-- Why a text cannot be read. The strict reader does not understand some place in it, or the text
asks for a repetition with a count that is too large. The flat reader fails exactly if one of the
excerpts has a count that is too large, and it reports the first one.
-/
theorem reading_fails_for_reason (text : List Char)
    : (∀ error,
        readStrict text = .error error
        → (∃ place near, error = .notUnderstood place near)
          ∨ ∃ count : String,
              error = .badCount count
              ∧ IsLargeCount count.toList
              ∧ AsksFor text count.toList)
      ∧ (∀ error,
          readFlat text = .error error
          ↔ ∃ excerpt,
              (excerpts text).find? Excerpt.isTooLarge = some excerpt
              ∧ IsLargeCount excerpt.param.toList
              ∧ error = .badCount excerpt.param) := by
  refine ⟨?_, ?_⟩
  · intro error failed
    cases error with
    | notUnderstood place near => exact .inl ⟨place, near, rfl⟩
    | badCount count => exact .inr ⟨count, rfl, asksFor_of_readStrict failed⟩
    | unknownAction name => exact absurd failed (readStrict_ne_unknownAction text name)
  · intro error
    rw [readFlat_eq_error_iff]
    constructor
    · rintro ⟨excerpt, first, same⟩
      have large := List.find?_some first
      exact ⟨excerpt, first,
        isLargeCount_of_mem_excerpts (List.mem_of_find?_eq_some first) large, same⟩
    · rintro ⟨excerpt, first, -, same⟩
      exact ⟨excerpt, first, same⟩

/-- A count that fits behind a zero, and two that do not. -/
def largeCountsText : List Char :=
  ("repeat(07) \x7b move() \x7d repeat ( 4294967296 ) \x7b repeat(5) \x7d "
    ++ "repeat(99999999999) \x7b \x7d").toList

theorem reading_fails_for_reason_at_the_first_of_two
    : readStrict largeCountsText = .error (.badCount "4294967296")
      ∧ AsksFor largeCountsText "4294967296".toList
      ∧ readFlat largeCountsText = .error (.badCount "4294967296")
      ∧ ∃ excerpt,
          (excerpts largeCountsText).find? Excerpt.isTooLarge = some excerpt
          ∧ excerpt.param = "4294967296" := by
  have strict_read : readStrict largeCountsText = .error (.badCount "4294967296") := by
    decide +kernel
  have flat_read : readFlat largeCountsText = .error (.badCount "4294967296") := by
    decide +kernel
  obtain ⟨strict, flat⟩ := reading_fails_for_reason largeCountsText
  refine ⟨strict_read, ?_, flat_read, ?_⟩
  · rcases strict _ strict_read with ⟨place, near, other⟩ | ⟨count, same, -, asks⟩
    · cases other
    · exact ScriptError.badCount.inj same ▸ asks
  · obtain ⟨excerpt, first, -, same⟩ := (flat _).mp flat_read
    exact ⟨excerpt, first, (ScriptError.badCount.inj same).symm⟩

end RobotPuzzle.Script
