import RobotPuzzle.CommandLine.Play
import RobotPuzzle.Proofs.CommandLine.Words
import RobotPuzzle.Proofs.Executor.ArrowScripts
import RobotPuzzle.Proofs.Executor.Calls
import RobotPuzzle.Proofs.Level.Documents
import RobotPuzzle.Proofs.Script.FlatRoundTrip
import RobotPuzzle.Proofs.World.History

/-! A program that is put together by clicking plays as the text of its script does, whichever
way that is read.
-/

namespace RobotPuzzle

-----------------------------------------------------------------------------------------
-- Arrows and scripts as texts
-----------------------------------------------------------------------------------------

theorem Arrow.ofChar?_of_isBlank {c : Char} (h : Text.isBlank c = true) : ofChar? c = none := by
  unfold ofChar?
  split
  case h_13 => rfl
  all_goals exact absurd h (by decide)

/-- Where every character is blank or an arrow, all the arrows are taken, by induction over the
characters.
-/
theorem Arrow.ofChars_squeeze {chars : List Char}
    (h : ∀ c ∈ chars, Text.isBlank c = true ∨ (ofChar? c).isSome = true)
    : ofChars (Text.squeeze chars) = .ok (chars.filterMap ofChar?) := by
  induction chars with
  | nil => rfl
  | cons c chars ih =>
      obtain ⟨first, later⟩ := List.forall_mem_cons.mp h
      have rest := ih later
      rcases first with blank | arrow
      · have skipped : Text.squeeze (c :: chars) = Text.squeeze chars := by
          simp [Text.squeeze, blank]
        rw [skipped, rest, List.filterMap_cons_none (ofChar?_of_isBlank blank)]
      · obtain ⟨found, is_found⟩ := Option.isSome_iff_exists.mp arrow
        have not_blank : Text.isBlank c = false := by
          rw [Bool.eq_false_iff]
          intro blank
          simp [ofChar?_of_isBlank blank] at is_found
        have kept : Text.squeeze (c :: chars) = c :: Text.squeeze chars := by
          simp [Text.squeeze, not_blank]
        rw [kept, ofChars, is_found, rest, List.filterMap_cons_some is_found]
        rfl

/-- A script of flat blocks in which nothing is asked is read back from its text in both ways. -/
theorem Script.Mode.read_text {script : Script}
    (blocks : ∀ statement ∈ script, statement.isFlat = true)
    (nothing_asked : script.conditions = []) (mode : Script.Mode)
    : mode.read script.text = .ok script := by
  cases mode with
  | strict =>
      rw [read, text, String.toList_ofList]
      exact readStrict_chars (by simp [nothing_asked])
  | flat =>
      have form : script.HasFlatForm := ⟨blocks, by simp [nothing_asked]⟩
      rw [read, text, String.toList_ofList]
      exact readFlat_eq_ok_iff.mpr (readsFlat_chars form)

-----------------------------------------------------------------------------------------
-- Programs and their scripts
-----------------------------------------------------------------------------------------

namespace CommandLine

/-- The script that a program stands for which is put together by clicking, where the robot
starts with this heading. Between the arrows there may be blank characters.
-/
inductive Program.StandsFor (heading : Direction) : Program → Script → Prop
  | arrows {text : String}
    (arrows
      : ∀ c ∈ text.toList, Text.isBlank c = true ∨ (Arrow.ofChar? c).isSome = true)
    : StandsFor heading (.arrows text)
        (arrowScript heading (text.toList.filterMap Arrow.ofChar?))
  | times (count : UInt32) : StandsFor heading (.times count) (gatherScript count)

theorem all_isAct_arrowScript (heading : Direction) (arrows : List Arrow)
    : (arrowScript heading arrows).all Statement.isAct = true := by
  rw [arrowScript_eq_map]
  simp [Statement.isAct]

theorem isFlat_of_isAct {statement : Statement} (h : statement.isAct = true)
    : statement.isFlat = true := by
  cases statement with
  | act action => rfl
  | _ => simp [Statement.isAct] at h

/-- The script of such a program is read back from its text, by cases over the programs. -/
theorem Program.StandsFor.read_text {heading : Direction} {program : Program}
    {script : Script} (h : program.StandsFor heading script) (mode : Script.Mode)
    : mode.read script.text = .ok script := by
  cases h with
  | arrows =>
      have acts := all_isAct_arrowScript heading
      refine Script.Mode.read_text ?_ (Script.conditions_of_acts (acts _)) mode
      intro statement member
      exact isFlat_of_isAct (List.all_eq_true.mp (acts _) statement member)
  | times count =>
      have flat : (Statement.times count [.act .pickUp, .act .move]).isFlat = true := rfl
      exact Script.Mode.read_text (List.forall_mem_singleton.mpr flat) rfl mode

/-- Arrows are not mistaken for an option, as that would begin with a dash. -/
theorem Program.StandsFor.isSayable {heading : Direction} {program : Program}
    {script : Script} (h : program.StandsFor heading script)
    : program.IsSayable := by
  cases h with
  | arrows arrows =>
      apply isPath_of_head?
      intro dash
      exact absurd (arrows '-' (List.mem_of_mem_head? dash)) (by decide)
  | times count => trivial

-----------------------------------------------------------------------------------------
-- Playing them
-----------------------------------------------------------------------------------------

/-- The game of a script in a level, from its start. -/
def gameOf (arguments : Arguments) (level : Level) (script : Script) : Except Refusal Game :=
  let executor : Executor :=
    { world := .start level, settings := { delay := arguments.delay } }
  (executor.perform (watcher arguments.steps) script []).finished

/-- A script that is given to a new executor is played to its end. -/
theorem exists_gameOf (arguments : Arguments) (level : Level) (script : Script)
    : ∃ game, gameOf arguments level script = .ok game := by
  have new : RunState.idle ≠ .running := nofun
  simp only [gameOf, Executor.perform, if_neg new]
  exact ⟨_, rfl⟩

section

variable {files : Files} {arguments : Arguments} {level : Level} {script : Script} {game : Game}

/-- What is printed for a command line is the report on the game that its program comes to in
the level.
-/
theorem play_eq_ofGame {words : List String} {document : String}
    (read : Arguments.read? words = some arguments)
    (found : files arguments.level = .ok document) (loads : Level.ofText document = .ok level)
    (played
      : runProgram files arguments
          { world := .start level, settings := { delay := arguments.delay } }
        = .ok game)
    : play files words = .ofGame arguments game := by
  have built : World.ofLevel level = .ok (.start level) :=
    World.ofLevel_eq_ok_iff.mpr ⟨(Level.ofText_eq_ok_iff.mp loads).2, rfl⟩
  simp only [play, read, report, playLevel, found, loads, bind, Except.bind, built, played]

/-- A program that is put together by clicking is run as its script. -/
theorem Program.StandsFor.runProgram
    (stands : arguments.program.StandsFor level.startDirection script)
    (played : gameOf arguments level script = .ok game)
    : CommandLine.runProgram files arguments
        { world := .start level, settings := { delay := arguments.delay } }
      = .ok game := by
  obtain ⟨path, program, flat, delay, steps, json⟩ := arguments
  cases stands with
  | arrows arrows =>
      simp only [CommandLine.runProgram, Arrow.ofChars_squeeze arrows]
      exact congrArg (Except.mapError .refused) played
  | times count => exact congrArg (Except.mapError .refused) played

/-- A file with the text of a script is run as that script, if it is read back in both ways. -/
theorem runProgram_file {path : String} (program : arguments.program = .script path)
    (file : files path = .ok script.text)
    (read : ∀ mode, Script.Mode.read mode script.text = .ok script)
    (played : gameOf arguments level script = .ok game)
    : runProgram files arguments
        { world := .start level, settings := { delay := arguments.delay } }
      = .ok game := by
  simp only [runProgram, program, file, Executor.performText_of_read (read _)]
  exact congrArg (Except.mapError .refused) played

end

/-- A program that is put together by clicking plays as a file does with the text of its script,
to be read in either way: whatever the words that ask for the one or the other and for the same
in all else, and for both there are some, they print the report on the one game of that script.
-/
theorem play_of_standsFor {files : Files} {arguments : Arguments} {document path : String}
    {level : Level} {program : Program} {script : Script}
    (found : files arguments.level = .ok document) (loads : Level.ofText document = .ok level)
    (stands : program.StandsFor level.startDirection script)
    (file : files path = .ok script.text) (flat : Bool)
    : let clicked : Arguments := { arguments with program }
      let typed : Arguments := { arguments with program := .script path, flat }
      (arguments.level ≠ ""
        → path ≠ ""
        → Arguments.read? clicked.words = some clicked
          ∧ Arguments.read? typed.words = some typed)
      ∧ ∃ game,
          gameOf arguments level script = .ok game
          ∧ ∀ words,
              Arguments.read? words = some clicked ∨ Arguments.read? words = some typed
              → play files words = .ofGame arguments game := by
  intro clicked typed
  refine ⟨?_, ?_⟩
  · intro level_named path_named
    exact ⟨Arguments.read?_words level_named stands.isSayable,
      Arguments.read?_words level_named path_named⟩
  -- Neither the game nor its report depends on how the program is given.
  · obtain ⟨game, played⟩ := exists_gameOf arguments level script
    refine ⟨game, played, ?_⟩
    rintro words (asked | asked)
    · have shown : play files words = .ofGame clicked game :=
        play_eq_ofGame asked found loads (Program.StandsFor.runProgram stands played)
      exact shown
    · have shown : play files words = .ofGame typed game :=
        play_eq_ofGame asked found loads (runProgram_file rfl file stands.read_text played)
      exact shown

/-- Arrows with a gap between them, and the file with their script for the flat reader. The robot
goes down and comes back up, which is drawn in five frames, and is stopped by the edge.
-/
theorem play_of_standsFor_to_the_edge
    : let script := arrowScript .east [.down, .up, .up]
      let files : Files := fun path => .ok (if path = "level" then "\x7b\x7d" else script.text)
      let clicked : Arguments :=
        { level := "level", program := .arrows "v u^", flat := false, delay := .zero,
          steps := true, json := false }
      let typed : Arguments := { clicked with program := .script "script", flat := true }
      let report := play files ["level", "--arrows", "v u^", "--steps"]
      files "level" = .ok "\x7b\x7d"
      ∧ Level.ofText "\x7b\x7d" = .ok {}
      ∧ Program.StandsFor .east (.arrows "v u^") script
      ∧ files "script" = .ok script.text
      ∧ Arguments.read? ["level", "--arrows", "v u^", "--steps"] = some clicked
      ∧ Arguments.read? ["--flat", "level", "--steps", "script"] = some typed
      ∧ report.code = 2
      ∧ report.frames.length = 5
      ∧ ("level" ≠ ""
        → "script" ≠ ""
        → Arguments.read? clicked.words = some clicked
          ∧ Arguments.read? typed.words = some typed)
      ∧ ∃ game,
          gameOf clicked {} script = .ok game
          ∧ ∀ words,
              Arguments.read? words = some clicked ∨ Arguments.read? words = some typed
              → play files words = .ofGame clicked game := by
  intro script files clicked typed report
  have loads : Level.ofText "\x7b\x7d" = .ok {} := by
    have described : Level.Describes {} (.object []) :=
      .object .leftOut .leftOut .leftOut .leftOut .leftOut .leftOut ⟨[], nofun, .refl _⟩
    have written : Level.WrittenIn {} "\x7b\x7d" :=
      .of_writes (.emptyObject Json.isLayout_nil) rfl described
    exact Level.ofText_eq_ok_iff.mpr ⟨written.read_eq, rfl⟩
  have known
      : "v u^".toList.all (fun c => Text.isBlank c || (Arrow.ofChar? c).isSome) = true := by
    decide +kernel
  have stands : Program.StandsFor .east (.arrows "v u^") script :=
    .arrows fun c member => Bool.or_eq_true_iff.mp (List.all_eq_true.mp known c member)
  have found : files "level" = .ok "\x7b\x7d" := rfl
  have file : files "script" = .ok script.text := rfl
  have whole := @play_of_standsFor files clicked "\x7b\x7d" "script" {} (.arrows "v u^") script
    found loads stands file true
  exact ⟨found, loads, stands, file, by decide +kernel, by decide +kernel, by decide +kernel,
    by decide +kernel, whole⟩

end CommandLine

end RobotPuzzle
