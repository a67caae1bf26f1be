import RobotPuzzle.Json.Reader
import RobotPuzzle.Proofs.Json.Numbers
import RobotPuzzle.Proofs.Json.Strings

/-! What is in the grammar is read as the value that it writes. The induction is on the
derivation, for a text in the middle of anything.
-/

namespace RobotPuzzle.Json

open Text (EndsRun endsRun_cons)

-----------------------------------------------------------------------------------------
-- Tokens of a text in parts
-----------------------------------------------------------------------------------------

theorem isLayout_iff {c : Char}
    : Text.isLayout c = true ↔ c = ' ' ∨ c = '\t' ∨ c = '\n' ∨ c = '\r' := by
  simp [Text.isLayout, or_assoc]

theorem IsLayout.skipLayout {space : List Char} (h : IsLayout space) (rest : List Char)
    : Text.skipLayout (space ++ rest) = Text.skipLayout rest :=
  List.dropWhile_append_of_pos fun c member => isLayout_iff.mpr (h c member)

theorem IsLayout.endsRun {space : List Char} (h : IsLayout space)
    : EndsRun isNumeric space := by
  intro c first
  rcases h c (List.mem_of_head? first) with rfl | rfl | rfl | rfl <;> decide

/-- No token begins with layout, by cases over the four layout characters. -/
theorem scanToken_of_isLayout {c : Char} (h : Text.isLayout c = true) (text : List Char)
    : scanToken (c :: text) = none := by
  rcases isLayout_iff.mp h with rfl | rfl | rfl | rfl <;> rfl

/-- Where a token is scanned, no layout stands in front of it. -/
theorem skipLayout_of_scanToken {text rest : List Char} {token : Token}
    (h : scanToken text = some (token, rest))
    : Text.skipLayout text = text := by
  cases text with
  | nil => rfl
  | cons c text =>
      cases layout : Text.isLayout c with
      | true => simp [scanToken_of_isLayout layout] at h
      | false => simp [Text.skipLayout, layout]

theorem tokens_of_skipLayout_nil {text : List Char} (h : Text.skipLayout text = [])
    : tokens text = some [] := by
  rw [tokens]
  split
  · rfl
  · simp_all

theorem tokens_of_skipLayout_cons {text behind : List Char} {c : Char}
    (h : Text.skipLayout text = c :: behind)
    : tokens text
      = (scanToken (c :: behind)).bind fun (token, rest) =>
          (tokens rest).map (token :: ·) := by
  rw [tokens]
  split
  · simp_all
  next same =>
    obtain ⟨rfl, rfl⟩ := List.cons.inj (same.symm.trans h)
    split
    next found => rw [found, Option.bind_none]
    next found => rw [found, Option.bind_some]

theorem IsLayout.tokens {space : List Char} (h : IsLayout space) (rest : List Char)
    : tokens (space ++ rest) = tokens rest := by
  have same := h.skipLayout rest
  cases behind : Text.skipLayout rest with
  | nil => rw [tokens_of_skipLayout_nil behind, tokens_of_skipLayout_nil (same.trans behind)]
  | cons c text =>
      rw [tokens_of_skipLayout_cons behind, tokens_of_skipLayout_cons (same.trans behind)]

/-- The first token is scanned off, and the others are those of what is left. -/
theorem tokens_of_scanToken {text rest : List Char} {token : Token}
    (h : scanToken text = some (token, rest))
    : tokens text = (tokens rest).map (token :: ·) := by
  cases text with
  | nil => simp [scanToken, scanNumber, scanMagnitude, scanWhole, scanDigits, Text.run?] at h
  | cons c text =>
      rw [tokens_of_skipLayout_cons (skipLayout_of_scanToken h), h, Option.bind_some]

-----------------------------------------------------------------------------------------
-- Reading on
-----------------------------------------------------------------------------------------

/-- How far the text gets from here. -/
def Progress.run (progress : Progress) (text : List Char) : Option Progress :=
  (tokens text).bind (·.foldlM Progress.step progress)

namespace Progress

variable {progress : Progress} {outer : List Frame} {text rest : List Char}

/-- A text is read by running through it from where a value is due, and has to end with one. -/
theorem read?_eq (text : List Char)
    : read? text = ((valueDue []).run text).bind Progress.value? := by
  simp only [read?, run, Option.bind_eq_bind, Option.bind_assoc]

theorem run_layout {space : List Char} (h : IsLayout space) (rest : List Char)
    : progress.run (space ++ rest) = progress.run rest := by
  rw [run, h.tokens rest, run]

theorem run_nil (progress : Progress) : progress.run [] = some progress := by
  rw [run, tokens_of_skipLayout_nil rfl]
  rfl

/-- A token is one step, and the rest is read from there. -/
theorem run_token {token : Token} {next : Progress}
    (found : scanToken text = some (token, rest)) (step : progress.step token = some next)
    : progress.run text = next.run rest := by
  rw [run, tokens_of_scanToken found, run, Option.bind_map]
  congr 1
  funext tokens
  rw [Function.comp_apply, List.foldlM_cons, step]
  rfl

/-- A value may come next, in these frames. -/
inductive AwaitsValue : Progress → List Frame → Prop
  | valueDue (outer : List Frame) : AwaitsValue (.valueDue outer) outer
  | firstItem (outer : List Frame) : AwaitsValue (.firstItem outer) (.array [] :: outer)

/-- A key may come next, behind these members. -/
inductive AwaitsKey : Progress → List Frame → List (Content × Value) → Prop
  | firstKey (outer : List Frame) : AwaitsKey (.firstKey outer) outer []
  | keyDue (outer : List Frame) (members : List (Content × Value))
    : AwaitsKey (.keyDue outer members) outer members

/-- An array without items so far awaits its first value as any other place does; only a bracket
would close it instead.
-/
theorem AwaitsValue.step_of_beginValue {token : Token} {next : Progress}
    (h : AwaitsValue progress outer) (begins : beginValue outer token = some next)
    : progress.step token = some next := by
  cases h with
  | valueDue => exact begins
  | firstItem => cases token <;> first | exact begins | cases begins

theorem AwaitsKey.step_key {members : List (Content × Value)}
    (h : AwaitsKey progress outer members) (key : Content)
    : progress.step (.scalar (.string key)) = some (.colonDue outer members key) := by
  cases h <;> rfl

/-- A scalar is complete as soon as its token has been taken. -/
theorem AwaitsValue.run_scalar {value : Value} (h : AwaitsValue progress outer)
    (found : scanToken text = some (.scalar value, rest))
    : progress.run text = (complete value outer).run rest :=
  run_token found (h.step_of_beginValue rfl)

theorem AwaitsValue.run_openArray (h : AwaitsValue progress outer) (rest : List Char)
    : progress.run ('[' :: rest) = (Progress.firstItem outer).run rest :=
  run_token rfl (h.step_of_beginValue rfl)

theorem AwaitsValue.run_openObject (h : AwaitsValue progress outer) (rest : List Char)
    : progress.run ('\x7b' :: rest) = (Progress.firstKey outer).run rest :=
  run_token rfl (h.step_of_beginValue rfl)

end Progress

open Progress

-----------------------------------------------------------------------------------------
-- Values
-----------------------------------------------------------------------------------------

mutual

/-- A value is read where one may come, by recursion over how it is written. Nothing may follow
with which a number would go on.
-/
theorem Writes.run {text rest : List Char} {value : Value} {progress : Progress}
    {outer : List Frame} (h : Writes text value) (awaits : AwaitsValue progress outer)
    (ends : EndsRun isNumeric rest)
    : progress.run (text ++ rest) = (complete value outer).run rest := by
  match h with
  | .null => exact awaits.run_scalar rfl
  | .true => exact awaits.run_scalar rfl
  | .false => exact awaits.run_scalar rfl
  | .number number => exact awaits.run_scalar (number.scanToken ends)
  | .string string => exact awaits.run_scalar (string.scanToken rest)
  | .emptyArray space =>
      rw [List.append_assoc, List.cons_append, awaits.run_openArray, run_layout space]
      exact run_token rfl rfl
  | .array inside =>
      rw [List.append_assoc, List.cons_append, awaits.run_openArray]
      exact inside.run (.firstItem outer) rest
  | .emptyObject space =>
      rw [List.append_assoc, List.cons_append, awaits.run_openObject, run_layout space]
      exact run_token rfl rfl
  | .object inside =>
      rw [List.append_assoc, List.cons_append, awaits.run_openObject]
      exact inside.run (.firstKey outer) rest

/-- The layout around a value is skipped, and no number goes on into it. -/
theorem WritesSpaced.run {text rest : List Char} {value : Value} {progress : Progress}
    {outer : List Frame} (h : WritesSpaced text value) (awaits : AwaitsValue progress outer)
    (ends : EndsRun isNumeric rest)
    : progress.run (text ++ rest) = (complete value outer).run rest := by
  match h with
  | .mk before inside behind =>
      rw [List.append_assoc, List.append_assoc, run_layout before,
        inside.run awaits (behind.endsRun.append ends), run_layout behind]

/-- The items that are still to come are put behind those that have been read. -/
theorem WritesItems.run {text : List Char} {items done : List Value} {progress : Progress}
    {outer : List Frame} (h : WritesItems text items)
    (awaits : AwaitsValue progress (.array done :: outer)) (rest : List Char)
    : progress.run (text ++ ']' :: rest)
      = (complete (.array (done.reverse ++ items)) outer).run rest := by
  match h with
  | .last inside =>
      rw [inside.run awaits (endsRun_cons (by decide) rest), run_token rfl rfl,
        List.reverse_cons]
  | @WritesItems.more _ _ item _ inside behind =>
      rw [List.append_assoc, List.cons_append,
        inside.run awaits (endsRun_cons (by decide) _), run_token rfl rfl,
        behind.run (.valueDue (.array (item :: done) :: outer)) rest, List.reverse_cons,
        List.append_assoc, List.singleton_append]

/-- A member is read as its key, the colon and its value, with the layout between them. -/
theorem WritesMember.run {text rest : List Char} {member : Content × Value}
    {done : List (Content × Value)} {progress : Progress} {outer : List Frame}
    (h : WritesMember text member) (awaits : AwaitsKey progress outer done)
    (ends : EndsRun isNumeric rest)
    : progress.run (text ++ rest)
      = (complete member.2 (.object done member.1 :: outer)).run rest := by
  match h with
  | @WritesMember.mk _ _ _ _ key _ before named behind inside =>
      simp only [List.append_assoc, List.cons_append]
      rw [run_layout before, run_token (named.scanToken _) (awaits.step_key key),
        run_layout behind, run_token rfl rfl, inside.run (.valueDue _) ends]

/-- The members that are still to come are put behind those that have been read. -/
theorem WritesMembers.run {text : List Char} {members done : List (Content × Value)}
    {progress : Progress} {outer : List Frame} (h : WritesMembers text members)
    (awaits : AwaitsKey progress outer done) (rest : List Char)
    : progress.run (text ++ '\x7d' :: rest)
      = (complete (.object (done.reverse ++ members)) outer).run rest := by
  match h with
  | .last inside =>
      rw [inside.run awaits (endsRun_cons (by decide) rest), run_token rfl rfl,
        List.reverse_cons]
  | @WritesMembers.more _ _ member _ inside behind =>
      rw [List.append_assoc, List.cons_append,
        inside.run awaits (endsRun_cons (by decide) _), run_token rfl rfl,
        behind.run (.keyDue outer (member :: done)) rest, List.reverse_cons,
        List.append_assoc, List.singleton_append]

end

/-- A text is read as the value that it writes. -/
theorem read?_of_writes {text : List Char} {value : Value} (h : WritesSpaced text value)
    : read? text = some value := by
  have ends : EndsRun isNumeric [] := nofun
  have complete := h.run (.valueDue []) ends
  rw [List.append_nil, run_nil] at complete
  rw [read?_eq, complete]
  rfl

end RobotPuzzle.Json
