import RobotPuzzle.Proofs.Script.FlatReading

/-! The shapes that the flat reader can find in a text, and what it makes of each. It finds one
statement after the other, each behind the one before, and whatever stands between is skipped.
-/

namespace RobotPuzzle

/-- The text is a word: word characters, at least one, and nothing else. -/
def Text.isWord (text : List Char) : Bool :=
  !text.isEmpty && text.all isWordChar

theorem Text.isWord_iff {text : List Char}
    : isWord text = true ↔ text ≠ [] ∧ ∀ c ∈ text, isWordChar c = true := by
  simp [isWord]

namespace Script

theorem isLayout_of_isWordChar {c : Char} (h : Text.isWordChar c = true)
    : Text.isLayout c = false := by
  rw [Bool.eq_false_iff]
  intro layout
  simp [Text.isWordChar_of_isBlank (Text.isBlank_of_isLayout layout)] at h

/-- A text that begins with a word does not begin with layout. -/
theorem endsRun_isLayout {word : List Char} (h : Text.isWord word = true) (rest : List Char)
    : Text.EndsRun Text.isLayout (word ++ rest) := by
  obtain ⟨nonempty, all⟩ := Text.isWord_iff.mp h
  cases word with
  | nil => contradiction
  | cons c word => exact Text.endsRun_cons (isLayout_of_isWordChar (all c List.mem_cons_self)) _

-----------------------------------------------------------------------------------------
-- Shapes that can be found
-----------------------------------------------------------------------------------------

/-- The shape is one that can be matched: with a number, a word or the name of an action in it,
and without a closing brace in its body.
-/
inductive Shape.Formed : Shape → Prop
  | act (action : Action) : Formed ⟨.act, action.name.toList, none⟩
  | times {digits body : List Char} (numeral : digits ≠ [] ∧ ∀ d ∈ digits, d.isDigit = true)
    (inside : '\x7d' ∉ body)
    : Formed ⟨.times, digits, some body⟩
  | guarded (guard : Guard) {name body : List Char} (word : Text.isWord name = true)
    (inside : '\x7d' ∉ body)
    : Formed ⟨guard.kind, name, some body⟩

/-- The shape can have been matched in the text, with the end of that left. A block is closed by
a brace in the text.
-/
structure Shape.FoundIn (text : List Char) (shape : Shape) (rest : List Char) : Prop where
  formed : shape.Formed
  suffix : rest <:+ text
  closed : shape.body ≠ none → '\x7d' ∈ text

namespace Shape

variable {text rest : List Char} {shape : Shape}

/-- What stands between braces goes up to the first closing one. -/
theorem braced?_eq_some_iff {body : List Char}
    : braced? text = some (body, rest)
      ↔ text = '\x7b' :: body ++ '\x7d' :: rest ∧ '\x7d' ∉ body := by
  simp only [braced?, Option.bind_eq_bind, Option.bind_eq_some_iff, Option.pure_def,
    Text.dropChar?_eq_some_iff]
  constructor
  · rintro ⟨behind, rfl, left, closed, same⟩
    obtain ⟨rfl, rfl⟩ := Prod.mk.inj (Option.some.inj same)
    refine ⟨?_, ?_⟩
    · rw [List.cons_append, ← closed, List.takeWhile_append_dropWhile]
    · intro member
      simpa using List.mem_takeWhile_imp member
  · rintro ⟨rfl, inside⟩
    have all : ∀ c ∈ body, (c != '\x7d') = true := by
      intro c member
      rw [bne_iff_ne]
      rintro rfl
      exact inside member
    have ends : Text.EndsRun (· != '\x7d') ('\x7d' :: rest) := Text.endsRun_cons rfl rest
    exact ⟨_, rfl, rest, Text.dropWhile_run all ends,
      congrArg (fun inner => some (inner, rest)) (Text.takeWhile_run all ends)⟩

/-- A block that is closed in the text is found in it, if its shape is one that can be. -/
theorem FoundIn.block (formed : shape.Formed) (closed : '\x7d' :: rest <:+ text)
    : shape.FoundIn text rest where
  formed := formed
  suffix := (List.suffix_cons _ _).trans closed
  closed _ := closed.subset List.mem_cons_self

/-- A counted block leaves the end of the text, as each of its steps leaves the end of what it began
with, and it passes a brace.
-/
theorem times?_foundIn (h : times? text = some (shape, rest)) : shape.FoundIn text rest := by
  obtain ⟨digits, body, rfl, _, keyword, _, opened, _, count, _, closed, braced⟩ :=
    times?_eq_some_iff.mp h
  obtain ⟨-, nonempty, all, -⟩ := Text.run?_eq_some_iff.mp count
  obtain ⟨rfl, inside⟩ := braced?_eq_some_iff.mp braced
  have header := (Text.suffix_dropSpaced? closed).trans
    ((Text.suffix_run? count).trans
      ((Text.suffix_dropSpaced? opened).trans (Text.suffix_dropText? keyword)))
  exact .block (.times ⟨nonempty, all⟩ inside) ((List.suffix_append _ _).trans header)

/-- Guarded blocks leave the end of the text in the same way. -/
theorem guarded?_foundIn (guard : Guard) {keyword : List Char}
    (h : guarded? keyword guard.kind text = some (shape, rest))
    : shape.FoundIn text rest := by
  obtain ⟨name, body, rfl, _, keyed, _, opened, _, condition, _, asked, _, answered, _, closed,
    braced⟩ := guarded?_eq_some_iff.mp h
  obtain ⟨-, nonempty, all, -⟩ := Text.run?_eq_some_iff.mp condition
  obtain ⟨rfl, inside⟩ := braced?_eq_some_iff.mp braced
  have header := (Text.suffix_dropSpaced? closed).trans
    ((Text.suffix_dropChar? answered).trans
      ((Text.suffix_dropSpaced? asked).trans
        ((Text.suffix_run? condition).trans
          ((Text.suffix_dropSpaced? opened).trans (Text.suffix_dropText? keyed)))))
  exact .block (.guarded guard (Text.isWord_iff.mpr ⟨nonempty, all⟩) inside)
    ((List.suffix_append _ _).trans header)

theorem suffix_dropCall (text : List Char) : dropCall text <:+ text := by
  unfold dropCall
  cases called : (Text.dropSpaced? '(' text).bind (Text.dropChar? ')') with
  | none => exact List.suffix_refl text
  | some rest =>
      obtain ⟨_, opened, closed⟩ := Option.bind_eq_some_iff.mp called
      exact (Text.suffix_dropChar? closed).trans (Text.suffix_dropSpaced? opened)

theorem suffix_dropSemicolon (text : List Char) : dropSemicolon text <:+ text := by
  unfold dropSemicolon
  cases stopped : Text.dropSpaced? ';' text with
  | none => exact List.suffix_refl text
  | some rest => exact Text.suffix_dropSpaced? stopped

/-- An action leaves the end of the text, too, but need not pass a brace. -/
theorem act?_foundIn (h : act? text = some (shape, rest)) : shape.FoundIn text rest := by
  obtain ⟨action, rfl, behind, named, rfl⟩ := act?_eq_some_iff.mp h
  have tail := (suffix_dropSemicolon _).trans (suffix_dropCall behind)
  exact ⟨.act action, tail.trans (Text.suffix_run? named), fun block => absurd rfl block⟩

/-- Whatever is matched is found in the text, by cases over the order in which statements are tried.
-/
theorem match?_foundIn (h : match? text = some (shape, rest)) : shape.FoundIn text rest := by
  rcases match?_eq_some_iff.mp h with times | ⟨-, when_ | ⟨-, loop | ⟨-, act⟩⟩⟩
  · exact times?_foundIn times
  · exact guarded?_foundIn .when when_
  · exact guarded?_foundIn .loop loop
  · exact act?_foundIn act

/-- The first statement of a text is found in it, by induction over what is skipped. -/
theorem find?_foundIn (h : find? text = some (shape, rest)) : shape.FoundIn text rest := by
  induction text with
  | nil => simp [find?] at h
  | cons c text ih =>
      rcases find?_cons_eq_some_iff.mp h with here | ⟨-, later⟩
      · exact match?_foundIn here
      · obtain ⟨formed, suffix, closed⟩ := ih later
        exact ⟨formed, suffix.trans (List.suffix_cons c text),
          fun block => List.mem_cons_of_mem c (closed block)⟩

end Shape

-----------------------------------------------------------------------------------------
-- What is made of a shape
-----------------------------------------------------------------------------------------

/-- The shape stands for the statement: its parameter is that of the statement, and its body is
read as the body.
-/
inductive Shape.Spells : Shape → Statement → Prop
  | act (action : Action) : Spells ⟨.act, action.name.toList, none⟩ (.act action)
  | times {digits body : List Char} {count : UInt32} {script : Script}
    (counted : readCount (String.ofList digits) = .ok count)
    (read : readFlat (Text.trim body) = .ok script)
    : Spells ⟨.times, digits, some body⟩ (.times count script)
  | guarded (guard : Guard) {name body : List Char} {script : Script}
    (read : readFlat (Text.trim body) = .ok script)
    : Spells ⟨guard.kind, name, some body⟩
        ((Header.guarded guard (String.ofList name)).close script)

/-- A shape that stands for a statement is read as it, wherever in a text it was found. -/
theorem Shape.Spells.statement {shape : Shape} {statement : Statement}
    (h : shape.Spells statement) (text rest : List Char)
    : (shape.excerpt text rest).statement = .ok statement := by
  cases h with
  | act action => exact statement_act action text rest
  | times counted read => exact statement_times counted read text rest
  | guarded guard read =>
      rw [statement_guarded_eq, read]
      rfl

theorem bind_eq_ok_iff {α β ε : Type} {first : Except ε α} {next : α → Except ε β} {value : β}
    : (first >>= next) = .ok value ↔ ∃ found, first = .ok found ∧ next found = .ok value := by
  cases first with
  | error error => exact ⟨nofun, nofun⟩
  | ok found => exact ⟨fun h => ⟨found, rfl, h⟩, fun ⟨_, same, h⟩ => Except.ok.inj same ▸ h⟩

/-- What is made of a shape that was matched is what it stands for, by cases over the shape. -/
theorem Shape.Formed.spells {shape : Shape} (formed : shape.Formed) {text rest : List Char}
    {statement : Statement} (made : (shape.excerpt text rest).statement = .ok statement)
    : shape.Spells statement := by
  cases formed with
  | act action =>
      obtain rfl := Except.ok.inj ((statement_act action text rest).symm.trans made)
      exact .act action
  | times numeral inside =>
      rw [statement_times_eq] at made
      obtain ⟨count, counted, closed⟩ := bind_eq_ok_iff.mp made
      obtain ⟨script, read, same⟩ := bind_eq_ok_iff.mp closed
      exact Except.ok.inj same ▸ .times counted read
  | guarded guard word inside =>
      rw [statement_guarded_eq] at made
      obtain ⟨script, read, same⟩ := bind_eq_ok_iff.mp made
      exact Except.ok.inj same ▸ .guarded guard read

-----------------------------------------------------------------------------------------
-- One statement after the other
-----------------------------------------------------------------------------------------

/-- The text is read as the script: each statement is what the next shape in it stands for. -/
inductive ReadsFlat : List Char → Script → Prop
  | nil {text : List Char} (nothing : Shape.find? text = none) : ReadsFlat text []
  | cons {text rest : List Char} {shape : Shape} {statement : Statement} {script : Script}
    (found : Shape.find? text = some (shape, rest)) (spells : shape.Spells statement)
    (later : ReadsFlat rest script)
    : ReadsFlat text (statement :: script)

/-- What is skipped in front of a text does not change what is read. -/
theorem ReadsFlat.of_find?_eq {text rest : List Char} {script : Script}
    (skipped : Shape.find? text = Shape.find? rest) (h : ReadsFlat rest script)
    : ReadsFlat text script := by
  cases h with
  | nil nothing => exact .nil (skipped.trans nothing)
  | cons found spells later => exact .cons (skipped.trans found) spells later

/-- What the flat reader reads, by induction over the length of the text for what it has read,
and over the statements for what it can read.
-/
theorem readFlat_eq_ok_iff {text : List Char} {script : Script}
    : readFlat text = .ok script ↔ ReadsFlat text script := by
  constructor
  · intro read
    induction length : text.length using Nat.strong_induction_on generalizing text script with
    | _ n ih =>
        subst length
        cases found : Shape.find? text with
        | none =>
            rw [readFlat_of_find?_none found] at read
            exact Except.ok.inj read ▸ .nil found
        | some matched =>
            obtain ⟨shape, rest⟩ := matched
            have shorter : rest.length < text.length :=
              Nat.lt_of_le_of_lt (Nat.le_add_left _ _) (Shape.length_find? found)
            rw [readFlat_of_find?_some found] at read
            obtain ⟨statement, made, closed⟩ := bind_eq_ok_iff.mp read
            obtain ⟨later, tail, same⟩ := bind_eq_ok_iff.mp closed
            have spells := (Shape.find?_foundIn found).formed.spells made
            exact Except.ok.inj same ▸ .cons found spells (ih _ shorter tail rfl)
  · intro reads
    induction reads with
    | nil nothing => exact readFlat_of_find?_none nothing
    | cons found spells later ih =>
        rw [readFlat_of_find?_some found, spells.statement, ih]
        rfl

end Script

end RobotPuzzle
