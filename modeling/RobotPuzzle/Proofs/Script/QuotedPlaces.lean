import RobotPuzzle.Proofs.Script.ViablePrefixes

/-! What is quoted of a text that is not understood. It is the text at the place that is reported,
but for blank characters there: of those only layout is skipped in front of a token, and all of
them are in front of what is quoted.
-/

namespace RobotPuzzle.Script

open Text (EndsRun isBlank isLayout)

/-- What is quoted is the beginning of the text, up to 20 characters of it, and something unless
there is no text.
-/
structure Quotes (near text : List Char) : Prop where
  short : near.length ≤ 20
  begins : near <+: text
  something : near = [] → text = []

/-- What is quoted begins with a character that is not blank. -/
theorem take_firstWord_eq_cons {text rest : List Char} {c : Char}
    (begun : text.dropWhile isBlank = c :: rest)
    : isBlank c = false
      ∧ (Text.firstWord text).take 20 = c :: (rest.takeWhile (!isBlank ·)).take 19 := by
  have ends : EndsRun isBlank (c :: rest) := begun ▸ Text.endsRun_dropWhile isBlank text
  have visible : isBlank c = false := ends c rfl
  refine ⟨visible, ?_⟩
  rw [Text.firstWord, begun, List.takeWhile_cons_of_pos (by simp [visible]), List.take_succ_cons]

/-- The text behind blank characters is quoted. -/
theorem quotes_dropWhile (text : List Char)
    : Quotes ((Text.firstWord text).take 20) (text.dropWhile isBlank) where
  short := List.length_take_le ..
  begins := (List.take_prefix ..).trans (List.takeWhile_prefix _)
  something nothing := by
    cases begun : text.dropWhile isBlank with
    | nil => rfl
    | cons c rest =>
        rw [(take_firstWord_eq_cons begun).2] at nothing
        cases nothing

/-- The text itself is quoted exactly if no blank character stands in front. -/
theorem quotes_iff (text : List Char)
    : Quotes ((Text.firstWord text).take 20) text ↔ EndsRun isBlank text := by
  constructor
  · intro quotes
    cases text with
    | nil => exact Text.endsRun_nil isBlank
    | cons d text =>
        cases begun : (d :: text).dropWhile isBlank with
        | nil =>
            have nothing : (Text.firstWord (d :: text)).take 20 = [] := by
              rw [Text.firstWord, begun]
              rfl
            cases quotes.something nothing
        | cons c rest =>
            obtain ⟨visible, first⟩ := take_firstWord_eq_cons begun
            have same := quotes.begins
            rw [first, List.cons_prefix_cons] at same
            exact Text.endsRun_cons (same.1 ▸ visible) text
  · intro ends
    have kept : ([] ++ text).dropWhile isBlank = text := Text.dropWhile_run (by simp) ends
    have quotes := quotes_dropWhile text
    rwa [← List.nil_append text, kept] at quotes

/-- A text that is not understood can be cut where that is reported. What is quoted is the second
part with no blank characters in front, so it is the second part itself exactly if that begins
with none; it does not begin with layout in any case.
-/
theorem readStrict_quotes {text : List Char} {place : Text.Place} {near : String}
    (h : readStrict text = .error (.notUnderstood place near))
    : ∃ before rest,
        text = before ++ rest
        ∧ place.line = 1 + before.count '\n'
        ∧ place.column = 1 + (before.rtakeWhile (· != '\n')).length
        ∧ Quotes near.toList (rest.dropWhile isBlank)
        ∧ (Quotes near.toList rest ↔ EndsRun isBlank rest)
        ∧ EndsRun isLayout rest := by
  obtain ⟨rest, read, placed, rfl⟩ := exists_unexpected_of_readStrict h
  obtain ⟨before, rfl, ends, -⟩ := (refusedAt_of_ofLexemes read).splits
  rw [placeOfSuffix_append] at placed
  subst placed
  rw [String.toList_ofList]
  exact ⟨before, rest, rfl, rfl, rfl, quotes_dropWhile rest, quotes_iff rest, ends⟩

/-- Behind a line end, a space that may not be broken stands in front of an action. -/
def unbreakableText : List Char :=
  "move()\n\u00a0pickUp() turnLeft()".toList

theorem readStrict_quotes_behind_a_blank
    : readStrict unbreakableText = .error (.notUnderstood ⟨2, 1⟩ "pickUp()")
      ∧ ∃ before rest,
          unbreakableText = before ++ rest
          ∧ 2 = 1 + before.count '\n'
          ∧ 1 = 1 + (before.rtakeWhile (· != '\n')).length
          ∧ Quotes "pickUp()".toList (rest.dropWhile isBlank)
          ∧ (Quotes "pickUp()".toList rest ↔ EndsRun isBlank rest)
          ∧ EndsRun isLayout rest := by
  have read : readStrict unbreakableText = .error (.notUnderstood ⟨2, 1⟩ "pickUp()") := by
    decide +kernel
  exact ⟨read, readStrict_quotes read⟩

/-- Not everything that is quoted is the text at the place that is reported: of a blank that is no
layout, nothing is.
-/
theorem readStrict_does_not_quote_a_blank
    : ¬ ∀ (text before rest : List Char) (place : Text.Place) (near : String),
        readStrict text = .error (.notUnderstood place near)
        → text = before ++ rest
        → place = .behind before
        → Quotes near.toList rest := by
  intro claim
  have read : readStrict ['\u00a0'] = .error (.notUnderstood ⟨1, 1⟩ "") := by
    decide +kernel
  have quotes := claim _ [] ['\u00a0'] _ _ read rfl rfl
  cases quotes.something rfl

end RobotPuzzle.Script
