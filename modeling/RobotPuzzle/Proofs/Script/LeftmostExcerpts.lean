import RobotPuzzle.Proofs.Script.FlatShapes

/-! The next excerpt of a text is the leftmost statement in it. What it uses up, it is found in
alone: nothing behind that is looked at, and no word that is skipped is cut short.
-/

namespace RobotPuzzle

namespace Text

-----------------------------------------------------------------------------------------
-- Bytes
-----------------------------------------------------------------------------------------

/-- That many bytes of the text end where one of its characters does. They are `front`, and behind
them is `back`.
-/
def CutAtByte (bytes : Nat) (text front back : List Char) : Prop :=
  ∃ cut : (String.ofList text).Pos,
    cut.offset.byteIdx = bytes ∧ cut.Splits (String.ofList front) (String.ofList back)

theorem utf8ByteSize_ofList_eq (text : List Char)
    : (String.ofList text).utf8ByteSize = utf8Length text := by
  induction text with
  | nil => rfl
  | cons c text ih =>
      rw [← List.singleton_append, String.ofList_append, String.utf8ByteSize_append, ih]
      simp [utf8Length]

/-- The bytes of what stands in front end where that ends, on the edge of a character. -/
theorem cutAtByte_append (front back : List Char)
    : CutAtByte (utf8Length front) (front ++ back) front back := by
  rw [CutAtByte, ← utf8ByteSize_ofList_eq, String.ofList_append]
  exact ⟨_, rfl, String.Pos.splits_append_rawEndPos⟩

theorem utf8Length_append (front back : List Char)
    : utf8Length (front ++ back) = utf8Length front + utf8Length back := by
  rw [← utf8ByteSize_ofList_eq, String.ofList_append, String.utf8ByteSize_append,
    utf8ByteSize_ofList_eq, utf8ByteSize_ofList_eq]

theorem utf8Length_pos {text : List Char} (nonempty : text ≠ []) : 0 < utf8Length text := by
  obtain ⟨c, text, rfl⟩ := List.exists_cons_of_ne_nil nonempty
  exact Nat.add_pos_left c.utf8Size_pos _

end Text

namespace Script

open Text (Encloses EndsRun dropSpaced? isWordChar)

namespace Shape

variable {text rest : List Char} {shape : Shape}

-----------------------------------------------------------------------------------------
-- Blocks end with a brace
-----------------------------------------------------------------------------------------

/-- Only blocks are read: each is closed by a brace, and nothing behind it is looked at. -/
def ReadsBlocks (read : List Char → Option (Shape × List Char)) : Prop :=
  ∀ text shape rest,
    read text = some (shape, rest)
    → '\x7d' ∈ text ∧ Encloses (fun text rest => read text = some (shape, rest)) text rest

/-- Braces enclose a body in any text, as nothing behind the closing one is looked at. -/
theorem encloses_braced? {body : List Char} (h : braced? text = some (body, rest))
    : Encloses (fun text rest => braced? text = some (body, rest)) text rest := by
  obtain ⟨rfl, inside⟩ := braced?_eq_some_iff.mp h
  refine ⟨'\x7b' :: body ++ ['\x7d'], List.cons_ne_nil _ _, by simp, ?_⟩
  intro tail
  exact braced?_eq_some_iff.mpr ⟨by simp, inside⟩

/-- Counted blocks are such statements: the steps up to the brace look one character ahead at most,
and the brace is read in any text.
-/
theorem readsBlocks_times? : ReadsBlocks times? := by
  intro text shape rest h
  have found := times?_foundIn h
  obtain ⟨digits, body, rfl, _, keyword, _, opened, _, count, _, closed, braced⟩ :=
    times?_eq_some_iff.mp h
  have steps :=
    (Text.consumes_dropText? keyword).encloses
      ((Text.consumes_dropSpaced? opened).encloses
        ((Text.consumes_run? count).encloses
          ((Text.consumes_dropSpaced? closed).encloses (encloses_braced? braced))))
  refine ⟨found.closed (Option.some_ne_none _), steps.imp ?_⟩
  intro text rest again
  exact times?_eq_some_iff.mpr ⟨digits, body, rfl, again⟩

/-- So are guarded blocks, by the same steps for every keyword. -/
theorem readsBlocks_guarded? (guard : Guard) (keyword : List Char)
    : ReadsBlocks (guarded? keyword guard.kind) := by
  intro text shape rest h
  have found := guarded?_foundIn guard h
  obtain ⟨name, body, rfl, _, keyed, _, opened, _, condition, _, asked, _, answered, _, closed,
    braced⟩ := guarded?_eq_some_iff.mp h
  have steps :=
    (Text.consumes_dropText? keyed).encloses
      ((Text.consumes_dropSpaced? opened).encloses
        ((Text.consumes_run? condition).encloses
          ((Text.consumes_dropSpaced? asked).encloses
            ((Text.encloses_dropChar? answered).consumes.encloses
              ((Text.consumes_dropSpaced? closed).encloses (encloses_braced? braced))))))
  refine ⟨found.closed (Option.some_ne_none _), steps.imp ?_⟩
  intro text rest again
  exact guarded?_eq_some_iff.mpr ⟨name, body, rfl, again⟩

-----------------------------------------------------------------------------------------
-- Statements are found in what they use up
-----------------------------------------------------------------------------------------

/-- The shape is read off this text with nothing left. If the text is a word, that does not go on
in what is behind it.
-/
structure StandsAlone (read : List Char → Option (Shape × List Char)) (used : List Char)
    (shape : Shape) (rest : List Char) : Prop where
  alone : read used = some (shape, [])
  parted : (∀ c ∈ used, isWordChar c = true) → EndsRun isWordChar rest

/-- A block stands alone in what it uses up. That is no word, for there is a brace in it. -/
theorem ReadsBlocks.standsAlone {read : List Char → Option (Shape × List Char)}
    (blocks : ReadsBlocks read) (h : read text = some (shape, rest))
    : ∃ used, text = used ++ rest ∧ StandsAlone read used shape rest := by
  obtain ⟨-, used, -, rfl, again⟩ := blocks _ _ _ h
  have alone : read used = some (shape, []) := by simpa using again []
  refine ⟨used, rfl, alone, ?_⟩
  intro word
  have brace : isWordChar '\x7d' = true := word _ (blocks _ _ _ alone).1
  exact absurd brace (by decide +kernel)

/-- A block that does not stand in front of a text does not stand in front of its beginning. -/
theorem ReadsBlocks.eq_none {read : List Char → Option (Shape × List Char)}
    (blocks : ReadsBlocks read) {front tail : List Char} (nothing : read (front ++ tail) = none)
    : read front = none := by
  cases found : read front with
  | none => rfl
  | some matched =>
      obtain ⟨-, used, -, rfl, again⟩ := blocks _ _ _ found
      rw [List.append_assoc, again] at nothing
      cases nothing

/-- The parentheses that are dropped, if any, would be in front of any text that opens none. -/
theorem exists_dropCall (text : List Char)
    : ∃ call,
        text = call ++ dropCall text
        ∧ ∀ tail, dropSpaced? '(' tail = none → dropCall (call ++ tail) = tail := by
  cases called : (dropSpaced? '(' text).bind (Text.dropChar? ')') with
  | none =>
      refine ⟨[], by simp [dropCall, called], ?_⟩
      intro tail unopened
      simp [dropCall, unopened]
  | some rest =>
      obtain ⟨_, opened, closed⟩ := Option.bind_eq_some_iff.mp called
      obtain ⟨call, -, whole, again⟩ :=
        (Text.consumes_dropSpaced? opened).encloses (Text.encloses_dropChar? closed)
      refine ⟨call, by simpa [dropCall, called] using whole, ?_⟩
      intro tail _
      obtain ⟨_, opened, closed⟩ := again tail
      simp [dropCall, opened, closed]

/-- A semicolon that is dropped is dropped without what follows, and what it leaves opens no
parenthesis.
-/
theorem exists_dropSemicolon (text : List Char)
    : ∃ stop,
        text = stop ++ dropSemicolon text
        ∧ dropSemicolon stop = []
        ∧ dropSpaced? '(' stop = none := by
  cases stopped : dropSpaced? ';' text with
  | none => exact ⟨[], by simp [dropSemicolon, stopped], rfl, rfl⟩
  | some rest =>
      obtain ⟨stop, whole, again⟩ := Text.consumes_dropSpaced? stopped
      have alone : dropSpaced? ';' stop = some [] := by
        simpa using again [] (Text.beginsLike_nil rest)
      refine ⟨stop, by simpa [dropSemicolon, stopped] using whole, by simp [dropSemicolon, alone],
        ?_⟩
      obtain ⟨behind, begun, -⟩ := Text.dropSpaced?_eq_some_iff.mp alone
      simp [dropSpaced?, begun, Text.dropChar?]

/-- An action is found in what it uses up: the name, and what is dropped behind it. -/
theorem act?_standsAlone (h : act? text = some (shape, rest))
    : ∃ used, text = used ++ rest ∧ StandsAlone act? used shape rest := by
  obtain ⟨action, rfl, behind, named, rfl⟩ := act?_eq_some_iff.mp h
  obtain ⟨rfl, nonempty, all, ends⟩ := Text.run?_eq_some_iff.mp named
  obtain ⟨call, called, again⟩ := exists_dropCall behind
  obtain ⟨stop, stopped, nothing, unopened⟩ := exists_dropSemicolon (dropCall behind)
  have whole : behind = (call ++ stop) ++ dropSemicolon (dropCall behind) := by
    rw [List.append_assoc, ← stopped, ← called]
  have ends_alone : EndsRun isWordChar (call ++ stop) := by
    rw [whole] at ends
    exact ends.of_append
  refine ⟨action.name.toList ++ (call ++ stop), by rw [List.append_assoc, ← whole], ?_, ?_⟩
  · refine act?_eq_some_iff.mpr ⟨action, rfl, _, Text.run?_run nonempty all ends_alone, ?_⟩
    rw [again stop unopened, nothing]
  · intro word
    have nothing_dropped : call ++ stop = [] :=
      ends_alone.eq_nil (List.forall_mem_append.mp word).2
    rw [nothing_dropped, List.nil_append] at whole
    exact whole ▸ ends

/-- An action that does not stand in front of a text does not stand in front of its beginning
either, unless a word is cut short there.
-/
theorem act?_eq_none {front tail : List Char} (nothing : act? (front ++ tail) = none)
    (parted : (∀ c ∈ front, isWordChar c = true) → EndsRun isWordChar tail)
    : act? front = none := by
  rw [Option.eq_none_iff_forall_ne_some]
  intro matched found
  obtain ⟨action, -, behind, named, -⟩ := act?_eq_some_iff.mp found
  obtain ⟨rfl, nonempty, all, ends⟩ := Text.run?_eq_some_iff.mp named
  have ends_here : EndsRun isWordChar (behind ++ tail) := by
    cases behind with
    | nil => exact parted (by simpa using all)
    | cons d behind => exact Text.endsRun_cons (ends d rfl) _
  have named_here := Text.run?_run nonempty all ends_here
  rw [← List.append_assoc] at named_here
  cases nothing.symm.trans (act?_eq_some_iff.mpr ⟨action, rfl, _, named_here, rfl⟩)

theorem match?_eq_none_iff
    : match? text = none
      ↔ times? text = none
        ∧ guarded? "if".toList .when text = none
        ∧ guarded? "while".toList .loop text = none
        ∧ act? text = none := by
  simp only [match?, Option.orElse_eq_orElse, Option.orElse_eq_or, Option.or_eq_none_iff]

/-- Where nothing is matched, nothing would be if the text ended earlier, unless a word is cut short
by that.
-/
theorem match?_eq_none {front tail : List Char} (nothing : match? (front ++ tail) = none)
    (parted : (∀ c ∈ front, isWordChar c = true) → EndsRun isWordChar tail)
    : match? front = none := by
  obtain ⟨no_times, no_when, no_loop, no_act⟩ := match?_eq_none_iff.mp nothing
  exact match?_eq_none_iff.mpr
    ⟨readsBlocks_times?.eq_none no_times, (readsBlocks_guarded? .when _).eq_none no_when,
      (readsBlocks_guarded? .loop _).eq_none no_loop, act?_eq_none no_act parted⟩

/-- A statement is found in what it uses up, by cases over what it is. What comes before that in
the order of the cases is not found there either.
-/
theorem match?_standsAlone (h : match? text = some (shape, rest))
    : ∃ used, text = used ++ rest ∧ StandsAlone match? used shape rest := by
  rcases match?_eq_some_iff.mp h with
    times | ⟨no_times, when_ | ⟨no_when, loop | ⟨no_loop, act⟩⟩⟩
  · obtain ⟨used, rfl, alone, parted⟩ := readsBlocks_times?.standsAlone times
    exact ⟨used, rfl, match?_eq_some_iff.mpr (.inl alone), parted⟩
  · obtain ⟨used, rfl, alone, parted⟩ := (readsBlocks_guarded? .when _).standsAlone when_
    have no_times := readsBlocks_times?.eq_none no_times
    exact ⟨used, rfl, match?_eq_some_iff.mpr (.inr ⟨no_times, .inl alone⟩), parted⟩
  · obtain ⟨used, rfl, alone, parted⟩ := (readsBlocks_guarded? .loop _).standsAlone loop
    have no_times := readsBlocks_times?.eq_none no_times
    have no_when := (readsBlocks_guarded? .when _).eq_none no_when
    exact ⟨used, rfl,
      match?_eq_some_iff.mpr (.inr ⟨no_times, .inr ⟨no_when, .inl alone⟩⟩), parted⟩
  · obtain ⟨used, rfl, alone, parted⟩ := act?_standsAlone act
    have no_times := readsBlocks_times?.eq_none no_times
    have no_when := (readsBlocks_guarded? .when _).eq_none no_when
    have no_loop := (readsBlocks_guarded? .loop _).eq_none no_loop
    exact ⟨used, rfl,
      match?_eq_some_iff.mpr (.inr ⟨no_times, .inr ⟨no_when, .inr ⟨no_loop, alone⟩⟩⟩), parted⟩

/-- The first statement of a text is also the first one in the text up to where it ends, by
induction over what is skipped.
-/
theorem find?_standsAlone (h : find? text = some (shape, rest))
    : ∃ used, text = used ++ rest ∧ StandsAlone find? used shape rest := by
  induction text with
  | nil => cases h
  | cons c text ih =>
      rcases find?_cons_eq_some_iff.mp h with here | ⟨nothing, later⟩
      · obtain ⟨used, whole, alone, parted⟩ := match?_standsAlone here
        exact ⟨used, whole, find?_of_match?_eq alone, parted⟩
      · obtain ⟨used, rfl, alone, parted⟩ := ih later
        -- A word that is skipped ends within the text that is used up.
        have parted_here
            : (∀ d ∈ c :: used, isWordChar d = true) → EndsRun isWordChar rest :=
          fun word => parted (List.forall_mem_cons.mp word).2
        have nothing_here : match? (c :: used) = none := match?_eq_none nothing parted_here
        exact ⟨c :: used, rfl, find?_cons_eq_some_iff.mpr (.inr ⟨nothing_here, alone⟩),
          parted_here⟩

-----------------------------------------------------------------------------------------
-- The leftmost place
-----------------------------------------------------------------------------------------

/-- The shape is matched at this place in the text, with `rest` left, and nothing is at any place
further left.
-/
structure LeftmostAt (shape : Shape) (place : Nat) (text rest : List Char) : Prop where
  within : place < text.length
  matched : match? (text.drop place) = some (shape, rest)
  nothing_before : ∀ earlier < place, match? (text.drop earlier) = none

/-- Nothing is found if nothing is matched anywhere, by induction over the places in the text. -/
theorem find?_eq_none_iff : find? text = none ↔ ∀ place, match? (text.drop place) = none := by
  induction text with
  | nil =>
      have nothing (place : Nat) : match? (([] : List Char).drop place) = none := by
        rw [List.drop_nil]
        rfl
      exact iff_of_true rfl nothing
  | cons c text ih =>
      rw [find?, Option.orElse_eq_orElse, Option.orElse_eq_or, Option.or_eq_none_iff, ih]
      exact Nat.and_forall_add_one (p := fun place => match? ((c :: text).drop place) = none)

/-- What is found is matched somewhere, and nothing is further left. By induction over what is
skipped.
-/
theorem exists_leftmostAt (h : find? text = some (shape, rest))
    : ∃ place, shape.LeftmostAt place text rest := by
  induction text with
  | nil => cases h
  | cons c text ih =>
      rcases find?_cons_eq_some_iff.mp h with here | ⟨nothing, later⟩
      · exact ⟨0, Nat.zero_lt_succ _, here, nofun⟩
      · obtain ⟨place, within, matched, nothing_before⟩ := ih later
        refine ⟨place + 1, Nat.succ_lt_succ within, matched, ?_⟩
        intro earlier before
        cases earlier with
        | zero => exact nothing
        | succ earlier => exact nothing_before earlier (Nat.lt_of_succ_lt_succ before)

end Shape

-----------------------------------------------------------------------------------------
-- The next excerpt
-----------------------------------------------------------------------------------------

/-- The excerpt is of this shape, with the body trimmed. -/
structure Excerpt.IsOf (excerpt : Excerpt) (shape : Shape) : Prop where
  kind : excerpt.kind = shape.kind
  params : excerpt.params = [String.ofList shape.param]
  body : excerpt.body = shape.body.map fun inside => String.ofList (Text.trim inside)

/-- What is behind an excerpt is no part of it. -/
theorem excerpt_append (shape : Shape) (used rest : List Char)
    : shape.excerpt (used ++ rest) rest = shape.excerpt used [] := by
  have alone : Text.upTo used [] = used := by simpa using Text.upTo_append used []
  simp only [Shape.excerpt, Text.upTo_append, alone]

theorem nextExcerpt?_eq_none_iff {text : List Char}
    : nextExcerpt? text = none ↔ ∀ place, Shape.match? (text.drop place) = none := by
  rw [nextExcerpt?, Option.map_eq_none_iff, Shape.find?_eq_none_iff]

/-- There is no next excerpt exactly if no statement is matched at any place in the text. If there
is one, it is of the shape that is matched at the leftmost place. The bytes of the text that it
uses up, at least one, end where a character does, and it is the next excerpt of these alone.
-/
theorem nextExcerpt?_leftmost (text : List Char)
    : (nextExcerpt? text = none ↔ ∀ place, Shape.match? (text.drop place) = none)
      ∧ ∀ excerpt rest,
          nextExcerpt? text = some (excerpt, rest)
          → ∃ place shape used,
              shape.LeftmostAt place text rest
              ∧ excerpt.IsOf shape
              ∧ 0 < excerpt.consumed
              ∧ excerpt.consumed ≤ (String.ofList text).utf8ByteSize
              ∧ Text.CutAtByte excerpt.consumed text used rest
              ∧ nextExcerpt? used = some (excerpt, []) := by
  refine ⟨nextExcerpt?_eq_none_iff, ?_⟩
  intro excerpt rest next
  obtain ⟨⟨shape, behind⟩, found, same⟩ := Option.map_eq_some_iff.mp next
  obtain ⟨rfl, rfl⟩ := Prod.mk.inj same
  obtain ⟨place, leftmost⟩ := Shape.exists_leftmostAt found
  obtain ⟨used, rfl, alone, -⟩ := Shape.find?_standsAlone found
  have nonempty : used ≠ [] := by
    rintro rfl
    cases alone
  have consumed : (shape.excerpt (used ++ behind) behind).consumed = Text.utf8Length used := by
    rw [Shape.excerpt, Text.upTo_append]
  refine ⟨place, shape, used, leftmost, ⟨rfl, rfl, rfl⟩, ?_, ?_, ?_, ?_⟩
  · rw [consumed]
    exact Text.utf8Length_pos nonempty
  · rw [consumed, Text.utf8ByteSize_ofList_eq, Text.utf8Length_append]
    exact Nat.le_add_right _ _
  · rw [consumed]
    exact Text.cutAtByte_append used behind
  · rw [nextExcerpt?_of_find?_some alone, excerpt_append]

/-- Words that end in no action, a block that is not closed, and characters of two and four bytes
in front of a call inside a word.
-/
def wordyText : List Char :=
  "é move2 𝄞 if(gemAhead() \x7b xturnLeft (\t) ; \u00a0pickUp".toList

def wordyExcerpt : Excerpt where
  kind := .act
  params := ["turnLeft"]
  body := none
  consumed := 46

theorem nextExcerpt?_leftmost_inside_a_word
    : nextExcerpt? wordyText = some (wordyExcerpt, "\u00a0pickUp".toList)
      ∧ ∃ place shape used,
          shape.LeftmostAt place wordyText "\u00a0pickUp".toList
          ∧ wordyExcerpt.IsOf shape
          ∧ 0 < wordyExcerpt.consumed
          ∧ wordyExcerpt.consumed ≤ (String.ofList wordyText).utf8ByteSize
          ∧ Text.CutAtByte wordyExcerpt.consumed wordyText used "\u00a0pickUp".toList
          ∧ nextExcerpt? used = some (wordyExcerpt, []) := by
  have next : nextExcerpt? wordyText = some (wordyExcerpt, "\u00a0pickUp".toList) := by
    decide +kernel
  exact ⟨next, (nextExcerpt?_leftmost wordyText).2 _ _ next⟩

end Script

end RobotPuzzle
