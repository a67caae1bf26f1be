import RobotPuzzle.CommandLine.Arguments

/-! Command lines written out. Whatever can be asked for has words that ask for it. -/

namespace RobotPuzzle.CommandLine

-----------------------------------------------------------------------------------------
-- Words for arguments
-----------------------------------------------------------------------------------------

/-- The decimal digits of a number, as a word. -/
def numeral (n : Nat) : String :=
  String.ofList (Nat.toDigits 10 n)

/-- The options that give a program which is not in a file. -/
def Program.options : Program → List String
  | .script _ => []
  | .arrows text => ["--arrows", text]
  | .times count => ["--repeat", numeral count.toNat]

/-- The files that are named for a program in a level. -/
def Program.paths (level : String) : Program → List String
  | .script path => [level, path]
  | .arrows _ | .times _ => [level]

/-- A command line that asks for this: its options, and its paths behind two dashes, so that it
does not matter what those begin with.
-/
def Arguments.words (arguments : Arguments) : List String :=
  arguments.program.options
    ++ ["--delay", numeral arguments.delay.millis]
    ++ (if arguments.flat then ["--flat"] else [])
    ++ (if arguments.steps then ["--steps"] else [])
    ++ (if arguments.json then ["--json"] else [])
    ++ "--" :: arguments.program.paths arguments.level

-----------------------------------------------------------------------------------------
-- Reading them
-----------------------------------------------------------------------------------------

/-- The word is not mistaken for an option. -/
def IsPath (text : String) : Prop :=
  Word.ofText text = .path text

/-- The word is a path if its first character is no dash. -/
theorem isPath_of_head? {text : String} (h : text.toList.head? ≠ some '-') : IsPath text := by
  unfold IsPath Word.ofText
  split
  next same => simp [same] at h
  next same => simp [same] at h
  next same => simp [same] at h
  next => rfl

theorem toList_numeral (n : Nat) : (numeral n).toList = Nat.toDigits 10 n :=
  String.toList_ofList

theorem isDigit_of_mem_numeral {n : Nat} {c : Char} (h : c ∈ (numeral n).toList)
    : c.isDigit = true := by
  rw [toList_numeral] at h
  exact Nat.isDigit_of_mem_toDigits (by decide) (by decide) h

theorem isPath_numeral (n : Nat) : IsPath (numeral n) := by
  apply isPath_of_head?
  intro dash
  exact absurd (isDigit_of_mem_numeral (List.mem_of_mem_head? dash)) (by decide)

theorem numberUpTo?_numeral {n limit : Nat} (h : n ≤ limit)
    : numberUpTo? limit (numeral n) = some n := by
  have digits : ∀ c ∈ (numeral n).toList, c.isDigit = true :=
    fun c member => isDigit_of_mem_numeral member
  have value : Text.digitsValue (numeral n).toList = n := by
    rw [toList_numeral]
    exact Nat.ofDigitChars_ten_toDigits
  have nonempty : (numeral n).toList ≠ [] := by
    rw [toList_numeral]
    exact Nat.toDigits_ne_nil
  -- A sign would be the first of the digits.
  unfold numberUpTo?
  split
  next same => exact absurd (digits '+' (by simp [same])) (by decide)
  next same => exact absurd (digits '-' (by simp [same])) (by decide)
  next =>
    rw [digitsUpTo?, value, if_pos ⟨nonempty, List.all_eq_true.mpr digits, h⟩]

/-- There are words for the program: its file has a name, and its arrows are not mistaken for an
option.
-/
def Program.IsSayable : Program → Prop
  | .script path => path ≠ ""
  | .arrows text => IsPath text
  | .times _ => True

/-- What is known when the options for a program have been read. -/
def Program.draft : Program → Draft
  | .script _ => {}
  | .arrows text => { arrows := some text }
  | .times count => { times := some count }

namespace Draft

/-- The option of this name is set to the value behind it. -/
theorem take_option (draft : Draft) {name value : String} {option : ValueOption}
    (named : Word.ofText name = .option option) (isPath : IsPath value) (words : List String)
    : draft.take (name :: value :: words)
      = (draft.setOption value option).bind (·.take words) := by
  have spelled : Word.ofText value = .path value := isPath
  rw [take, named]
  simp only [spelled]
  rfl

/-- The switch of this name is turned on, if it is there. -/
theorem take_switch {draft next : Draft} {name : String} {switch : Switch} {given : Bool}
    (named : Word.ofText name = .switch switch)
    (turned : (if given then draft.turnOn switch else some draft) = some next)
    (words : List String)
    : draft.take ((if given then [name] else []) ++ words) = next.take words := by
  cases given with
  | false =>
      obtain rfl : draft = next := by simpa using turned
      rfl
  | true =>
      have on : draft.turnOn switch = some next := by simpa using turned
      rw [if_pos rfl, List.singleton_append, take, named]
      simp only [on]
      rfl

theorem take_onlyPaths (draft : Draft) (words : List String)
    : draft.take ("--" :: words) = words.foldlM addPath draft := by
  have named : Word.ofText "--" = .onlyPaths := rfl
  rw [take, named]

theorem take_delay (draft : Draft) (free : draft.delay = none) (delay : Delay)
    (words : List String)
    : draft.take ("--delay" :: numeral delay.millis :: words)
      = { draft with delay := some delay }.take words := by
  obtain ⟨millis, le_second⟩ := delay
  have named : Word.ofText "--delay" = .option .delay := by decide +kernel
  have fits : numberUpTo? 0xFFFF (numeral millis) = some millis :=
    numberUpTo?_numeral (Nat.le_trans le_second (by decide))
  rw [take_option draft named (isPath_numeral millis)]
  simp [setOption, free, fits, Delay.ofMillis, Nat.min_eq_left le_second]

/-- The options for a program are read as that program, by cases over the programs. -/
theorem take_program {program : Program} (sayable : program.IsSayable) (words : List String)
    : ({} : Draft).take (program.options ++ words) = program.draft.take words := by
  cases program with
  | script path => rfl
  | arrows text =>
      have named : Word.ofText "--arrows" = .option .arrows := by decide +kernel
      exact take_option {} named sayable words
  | times count =>
      have named : Word.ofText "--repeat" = .option .times := by decide +kernel
      have fits : numberUpTo? 0xFFFFFFFF (numeral count.toNat) = some count.toNat :=
        numberUpTo?_numeral (Nat.le_of_lt_succ count.toNat_lt)
      have taken := take_option {} named (isPath_numeral count.toNat) words
      simpa [setOption, fits, Program.options, Program.draft] using taken

end Draft

/-- What is known when all words have been read. -/
def Arguments.draft (arguments : Arguments) : Draft :=
  { arguments.program.draft with
    paths := (arguments.program.paths arguments.level).reverse
    delay := some arguments.delay
    flat := arguments.flat
    steps := arguments.steps
    json := arguments.json }

/-- Each option and each switch adds its part to what is known, and so do the paths. -/
theorem Draft.take_words {arguments : Arguments} (level : arguments.level ≠ "")
    (sayable : arguments.program.IsSayable)
    : ({} : Draft).take arguments.words = some arguments.draft := by
  obtain ⟨path, program, flat, delay, steps, json⟩ := arguments
  let begun : Draft := { program.draft with delay := some delay }
  have free : program.draft.delay = none := by cases program <;> rfl
  have flat_taken
      : (if flat then begun.turnOn .flat else some begun) = some { begun with flat } := by
    cases program <;> cases flat <;> rfl
  have steps_taken
      : (if steps then Draft.turnOn { begun with flat } .steps else some { begun with flat })
        = some { begun with flat, steps } := by
    cases program <;> cases steps <;> rfl
  have json_taken
      : (if json then Draft.turnOn { begun with flat, steps } .json
          else some { begun with flat, steps })
        = some { begun with flat, steps, json } := by
    cases program <;> cases json <;> rfl
  have paths_taken
      : (program.paths path).foldlM addPath { begun with flat, steps, json }
        = some { begun with flat, steps, json, paths := (program.paths path).reverse } := by
    cases program with
    | script script =>
        have named : script ≠ "" := sayable
        simp [Program.paths, addPath, begun, Program.draft, level, named]
    | _ => simp [Program.paths, addPath, begun, Program.draft, level]
  simp only [Arguments.words, List.append_assoc, List.cons_append, List.nil_append]
  rw [take_program sayable, take_delay _ free, take_switch (by decide +kernel) flat_taken,
    take_switch (by decide +kernel) steps_taken, take_switch (by decide +kernel) json_taken,
    take_onlyPaths, paths_taken]
  rfl

/-- The words for what is asked for are read as that, by cases over the programs. -/
theorem Arguments.read?_words {arguments : Arguments} (level : arguments.level ≠ "")
    (sayable : arguments.program.IsSayable)
    : Arguments.read? arguments.words = some arguments := by
  obtain ⟨path, program, flat, delay, steps, json⟩ := arguments
  rw [read?, Draft.take_words level sayable]
  cases program <;> rfl

end RobotPuzzle.CommandLine
