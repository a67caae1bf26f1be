import RobotPuzzle.Script.Basic
import RobotPuzzle.Text.Alphanumeric
import RobotPuzzle.Text.Match
import RobotPuzzle.Text.Place

/-! Excerpts: the statements that can be picked out of any text. Whatever is not part of one is
skipped, a character at a time, and a body goes up to the first closing brace.
-/

namespace RobotPuzzle.Script

open Text (dropChar? dropSpaced? dropText? run?)

inductive StatementKind where
  | times
  | when
  | loop
  | act
deriving DecidableEq, Repr

/-- A statement as it stands at the beginning of a text, with nothing inside it read yet. -/
structure Shape where
  kind : StatementKind
  /-- The count, the condition or the action. -/
  param : List Char
  /-- What stands between the braces; an action has none. -/
  body : Option (List Char)
deriving DecidableEq, Repr

/-- A statement that has been picked out of a text. -/
structure Excerpt where
  kind : StatementKind
  /-- The count, the condition or the action comes first. -/
  params : List String
  /-- The text of the body; an action has none. -/
  body : Option String
  /-- How many bytes of text were used up, skipped ones included. -/
  consumed : Nat
deriving DecidableEq, Repr

namespace Shape

-----------------------------------------------------------------------------------------
-- Shapes at the beginning of a text
-----------------------------------------------------------------------------------------

/-- What stands between an opening brace and the first closing brace, and the text behind
that.
-/
def braced? (text : List Char) : Option (List Char × List Char) := do
  let text ← dropChar? '\x7b' text
  let rest ← dropChar? '\x7d' (text.dropWhile (· != '\x7d'))
  return (text.takeWhile (· != '\x7d'), rest)

/-- A count and the body to be repeated. -/
def times? (text : List Char) : Option (Shape × List Char) := do
  let text ← dropText? "repeat".toList text
  let text ← dropSpaced? '(' text
  let (count, text) ← run? Char.isDigit text
  let text ← dropSpaced? ')' text
  let (body, text) ← braced? text
  return (⟨.times, count, some body⟩, text)

/-- A keyword, a condition and the body under it. -/
def guarded? (keyword : List Char) (kind : StatementKind) (text : List Char)
    : Option (Shape × List Char) := do
  let text ← dropText? keyword text
  let text ← dropSpaced? '(' text
  let (condition, text) ← run? Text.isWordChar text
  let text ← dropSpaced? '(' text
  let text ← dropChar? ')' text
  let text ← dropSpaced? ')' text
  let (body, text) ← braced? text
  return (⟨kind, condition, some body⟩, text)

def dropCall (text : List Char) : List Char :=
  ((dropSpaced? '(' text).bind (dropChar? ')')).getD text

def dropSemicolon (text : List Char) : List Char :=
  (dropSpaced? ';' text).getD text

/-- An action, with or without parentheses and semicolon. -/
def act? (text : List Char) : Option (Shape × List Char) := do
  let (name, text) ← run? Text.isWordChar text
  if (Action.ofName? (String.ofList name)).isSome then
    some (⟨.act, name, none⟩, dropSemicolon (dropCall text))
  else
    none

/-- The statement that the text begins with, and the text behind it. -/
def match? (text : List Char) : Option (Shape × List Char) :=
  times? text <|> guarded? "if".toList .when text <|> guarded? "while".toList .loop text
    <|> act? text

/-- The first statement in the text, and the text behind it. Blank characters are skipped as all
others are: no statement begins with one, see `find?_eq_dropWhile_isBlank`.
-/
def find? : List Char → Option (Shape × List Char)
  | [] => none
  | c :: text => match? (c :: text) <|> find? text

/-- The excerpt of a shape that was found in a text and leaves `rest` of it. -/
def excerpt (shape : Shape) (text rest : List Char) : Excerpt where
  kind := shape.kind
  params := [String.ofList shape.param]
  body := shape.body.map (String.ofList ∘ Text.trim)
  consumed := Text.utf8Length (Text.upTo text rest)

-----------------------------------------------------------------------------------------
-- No statement begins with a blank
-----------------------------------------------------------------------------------------

/-- A counted block begins with the first letter of its keyword. -/
theorem times?_eq_none {text : List Char} (h : text.head? ≠ some 'r') : times? text = none := by
  have keyword : dropText? "repeat".toList text = none := Text.dropText?_eq_none h
  simp only [times?, keyword, Option.bind_eq_bind, Option.bind_none]

/-- So does a guarded block, whichever its keyword is. -/
theorem guarded?_eq_none {c : Char} {keyword text : List Char} (kind : StatementKind)
    (h : text.head? ≠ some c)
    : guarded? (c :: keyword) kind text = none := by
  simp only [guarded?, Text.dropText?_eq_none h, Option.bind_eq_bind, Option.bind_none]

/-- Where no keyword begins, there can only be an action. -/
theorem match?_eq_act? {text : List Char} (repeat_ne : text.head? ≠ some 'r')
    (if_ne : text.head? ≠ some 'i') (while_ne : text.head? ≠ some 'w')
    : match? text = act? text := by
  have no_times : times? text = none := times?_eq_none repeat_ne
  have no_when : guarded? "if".toList .when text = none :=
    guarded?_eq_none (c := 'i') .when if_ne
  have no_loop : guarded? "while".toList .loop text = none :=
    guarded?_eq_none (c := 'w') .loop while_ne
  rw [match?, no_times, no_when, no_loop]
  rfl

/-- Whatever can be matched begins with a word. -/
theorem match?_of_isWordChar_eq_false {c : Char} (h : Text.isWordChar c = false)
    (text : List Char)
    : match? (c :: text) = none := by
  have no_keyword : ∀ d, Text.isWordChar d = true → (c :: text).head? ≠ some d := by
    rintro d word first
    obtain rfl : c = d := by simpa using first
    simp [h] at word
  have letter {d : Char} (alpha : d.isAlpha = true) := Text.isWordChar_of_isAlpha alpha
  have no_name : run? Text.isWordChar (c :: text) = none := by simp [run?, h]
  rw [match?_eq_act? (no_keyword 'r' (letter rfl)) (no_keyword 'i' (letter rfl))
    (no_keyword 'w' (letter rfl)), act?, no_name]
  rfl

theorem find?_of_isWordChar_eq_false {c : Char} (h : Text.isWordChar c = false)
    (text : List Char)
    : find? (c :: text) = find? text := by
  rw [find?, match?_of_isWordChar_eq_false h]
  rfl

/-- Characters that stand in no word are skipped on the way to the first statement, one after the
other or all at once.
-/
theorem find?_dropWhile {inClass : Char → Bool}
    (apart : ∀ c, inClass c = true → Text.isWordChar c = false) (text : List Char)
    : find? (text.dropWhile inClass) = find? text := by
  induction text with
  | nil => rfl
  | cons c text ih =>
      cases within : inClass c with
      | true =>
          rw [List.dropWhile_cons_of_pos within, ih, find?_of_isWordChar_eq_false (apart c within)]
      | false => rw [List.dropWhile_cons_of_neg (by simp [within])]

/-- The search may drop all blank characters in front of a place before it looks for a statement
there and, if there is none, goes on behind one more character.
-/
theorem find?_eq_dropWhile_isBlank (text : List Char)
    : find? text
      = match text.dropWhile Text.isBlank with
        | [] => none
        | c :: behind => match? (c :: behind) <|> find? behind := by
  rw [← find?_dropWhile (fun _ blank => Text.isWordChar_of_isBlank blank) text]
  cases text.dropWhile Text.isBlank <;> rfl

end Shape

/-- The next excerpt of the text, and the text behind it. -/
def nextExcerpt? (text : List Char) : Option (Excerpt × List Char) :=
  (Shape.find? text).map fun (shape, rest) => (shape.excerpt text rest, rest)

def Excerpt.param (excerpt : Excerpt) : String :=
  excerpt.params.headD ""

/-- The text of the body of an excerpt; none is an empty one. -/
def Excerpt.bodyText (excerpt : Excerpt) : List Char :=
  (excerpt.body.getD "").toList

-----------------------------------------------------------------------------------------
-- Every excerpt uses up text
-----------------------------------------------------------------------------------------

namespace Shape

def bodyLength (shape : Shape) : Nat :=
  (shape.body.getD []).length

theorem length_braced? {text body rest : List Char}
    (h : braced? text = some (body, rest)) : body.length + rest.length < text.length := by
  simp only [braced?, Option.bind_eq_bind, Option.bind_eq_some_iff] at h
  obtain ⟨inside, opened, behind, closed, same⟩ := h
  obtain ⟨rfl, rfl⟩ : inside.takeWhile (· != '\x7d') = body ∧ behind = rest := by
    simpa using same
  have whole := congrArg List.length
    (List.takeWhile_append_dropWhile (p := (· != '\x7d')) (l := inside))
  have := Text.length_dropChar? opened
  have := Text.length_dropChar? closed
  simp only [List.length_append] at whole
  omega

theorem length_times? {text rest : List Char} {shape : Shape}
    (h : times? text = some (shape, rest))
    : shape.bodyLength + rest.length < text.length := by
  simp only [times?, Option.bind_eq_bind, Option.bind_eq_some_iff, Prod.exists] at h
  obtain ⟨_, keyword, _, opened, _, _, count, _, closed, _, _, braced, same⟩ := h
  have := Text.length_dropText? keyword
  have := Text.length_dropSpaced? opened
  have := Text.length_run? count
  have := Text.length_dropSpaced? closed
  have := length_braced? braced
  simp only [Option.pure_def, Option.some.injEq, Prod.mk.injEq] at same
  obtain ⟨rfl, rfl⟩ := same
  simp only [bodyLength, Option.getD_some]
  omega

theorem length_guarded? {keyword text rest : List Char} {kind : StatementKind}
    {shape : Shape} (h : guarded? keyword kind text = some (shape, rest))
    : shape.bodyLength + rest.length < text.length := by
  simp only [guarded?, Option.bind_eq_bind, Option.bind_eq_some_iff, Prod.exists] at h
  obtain ⟨_, keyword, _, opened, _, _, condition, _, asked, _, answered, _, closed, _, _,
    braced, same⟩ := h
  have := Text.length_dropText? keyword
  have := Text.length_dropSpaced? opened
  have := Text.length_run? condition
  have := Text.length_dropSpaced? asked
  have := Text.length_dropChar? answered
  have := Text.length_dropSpaced? closed
  have := length_braced? braced
  simp only [Option.pure_def, Option.some.injEq, Prod.mk.injEq] at same
  obtain ⟨rfl, rfl⟩ := same
  simp only [bodyLength, Option.getD_some]
  omega

theorem length_dropCall (text : List Char) : (dropCall text).length ≤ text.length := by
  unfold dropCall
  cases h : (dropSpaced? '(' text).bind (dropChar? ')') with
  | none => simp
  | some rest =>
      obtain ⟨_, opened, closed⟩ := Option.bind_eq_some_iff.mp h
      have := Text.length_dropSpaced? opened
      have := Text.length_dropChar? closed
      simp only [Option.getD_some]
      omega

theorem length_dropSemicolon (text : List Char)
    : (dropSemicolon text).length ≤ text.length := by
  unfold dropSemicolon
  cases h : dropSpaced? ';' text with
  | none => simp
  | some rest => exact Nat.le_of_lt (Text.length_dropSpaced? h)

theorem length_act? {text rest : List Char} {shape : Shape}
    (h : act? text = some (shape, rest))
    : shape.bodyLength + rest.length < text.length := by
  simp only [act?, Option.bind_eq_bind, Option.bind_eq_some_iff, Prod.exists] at h
  obtain ⟨_, behind, name, same⟩ := h
  split at same
  · have := Text.length_run? name
    have := length_dropCall behind
    have := length_dropSemicolon (dropCall behind)
    simp only [Option.some.injEq, Prod.mk.injEq] at same
    obtain ⟨rfl, rfl⟩ := same
    simp only [bodyLength, Option.getD_none, List.length_nil]
    omega
  · simp at same

theorem length_match? {text rest : List Char} {shape : Shape}
    (h : match? text = some (shape, rest))
    : shape.bodyLength + rest.length < text.length := by
  simp only [match?, Option.orElse_eq_orElse, Option.orElse_eq_or, Option.or_eq_some_iff] at h
  rcases h with h | ⟨-, h | ⟨-, h | ⟨-, h⟩⟩⟩
  · exact length_times? h
  · exact length_guarded? h
  · exact length_guarded? h
  · exact length_act? h

/-- The first statement of a text is longer than its body, by induction over what is
skipped.
-/
theorem length_find? {text rest : List Char} {shape : Shape}
    (h : find? text = some (shape, rest))
    : shape.bodyLength + rest.length < text.length := by
  induction text with
  | nil => simp [find?] at h
  | cons c text ih =>
      simp only [find?, Option.orElse_eq_orElse, Option.orElse_eq_or,
        Option.or_eq_some_iff] at h
      rcases h with h | ⟨-, h⟩
      · exact length_match? h
      · have := ih h
        simp only [List.length_cons]
        omega

end Shape

/-- The body of the next excerpt and what is left behind it are shorter than the text. -/
theorem length_nextExcerpt? {text rest : List Char} {excerpt : Excerpt}
    (h : nextExcerpt? text = some (excerpt, rest))
    : excerpt.bodyText.length < text.length ∧ rest.length < text.length := by
  simp only [nextExcerpt?, Option.map_eq_some_iff, Prod.exists] at h
  obtain ⟨shape, behind, found, same⟩ := h
  simp only [Prod.mk.injEq] at same
  obtain ⟨rfl, rfl⟩ := same
  have used := Shape.length_find? found
  have body : (shape.excerpt text behind).bodyText.length ≤ shape.bodyLength := by
    cases h : shape.body with
    | none => simp [Excerpt.bodyText, Shape.excerpt, h]
    | some body =>
        simpa [Excerpt.bodyText, Shape.excerpt, Shape.bodyLength, h]
          using Text.length_trim body
  omega

end RobotPuzzle.Script
