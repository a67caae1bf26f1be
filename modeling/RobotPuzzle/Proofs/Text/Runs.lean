import Mathlib.Data.List.TakeWhile
import RobotPuzzle.Text.Match

/-! Runs of characters of one class, and where they end. That depends on the first character
behind them only.
-/

namespace RobotPuzzle.Text

/-- The text does not begin with a character of the class, so a run before it ends there. -/
def EndsRun (inClass : Char → Bool) (text : List Char) : Prop :=
  ∀ c ∈ text.head?, inClass c = false

theorem endsRun_nil (inClass : Char → Bool) : EndsRun inClass [] :=
  nofun

theorem endsRun_cons {inClass : Char → Bool} {c : Char} (h : inClass c = false)
    (text : List Char)
    : EndsRun inClass (c :: text) := by
  simpa [EndsRun] using h

/-- A run that ends before a text or is followed by nothing ends where another text follows in
which it would end.
-/
theorem EndsRun.append {inClass : Char → Bool} {text tail : List Char}
    (h : EndsRun inClass text) (ends : EndsRun inClass tail)
    : EndsRun inClass (text ++ tail) := by
  cases text with
  | nil => exact ends
  | cons c text => exact endsRun_cons (h c rfl) _

/-- Nothing but characters of the class is nothing, where a run of them has ended. -/
theorem EndsRun.eq_nil {inClass : Char → Bool} {text : List Char} (h : EndsRun inClass text)
    (all : ∀ c ∈ text, inClass c = true)
    : text = [] := by
  cases text with
  | nil => rfl
  | cons c text =>
      have other : inClass c = false := h c rfl
      simp [all c List.mem_cons_self] at other

/-- Where a longest run has been taken off, none goes on. -/
theorem endsRun_dropWhile (inClass : Char → Bool) (text : List Char)
    : EndsRun inClass (text.dropWhile inClass) := by
  intro c h
  have next := List.head?_dropWhile_not inClass text
  rwa [Option.mem_def.mp h] at next

/-- The longest run is the one that ends where no character of the class follows. -/
theorem takeWhile_run {inClass : Char → Bool} {run rest : List Char}
    (all : ∀ c ∈ run, inClass c = true) (ends : EndsRun inClass rest)
    : (run ++ rest).takeWhile inClass = run := by
  rw [List.takeWhile_append_of_pos all]
  cases rest with
  | nil => simp
  | cons c rest =>
      have : inClass c = false := ends c rfl
      simp [this]

/-- Behind a run that ends there, all of the rest is left. -/
theorem dropWhile_run {inClass : Char → Bool} {run rest : List Char}
    (all : ∀ c ∈ run, inClass c = true) (ends : EndsRun inClass rest)
    : (run ++ rest).dropWhile inClass = rest := by
  rw [List.dropWhile_append_of_pos all]
  cases rest with
  | nil => rfl
  | cons c rest =>
      have : inClass c = false := ends c rfl
      simp [this]

/-- A run that ends where the rest begins is the run that is taken. -/
theorem run?_run {inClass : Char → Bool} {run rest : List Char} (nonempty : run ≠ [])
    (all : ∀ c ∈ run, inClass c = true) (ends : EndsRun inClass rest)
    : run? inClass (run ++ rest) = some (run, rest) := by
  rw [run?, takeWhile_run all ends, dropWhile_run all ends]
  split
  · contradiction
  · rfl

-----------------------------------------------------------------------------------------
-- Texts that begin alike
-----------------------------------------------------------------------------------------

/-- Nothing follows, or it begins with the same character as the other text. -/
def BeginsLike (tail rest : List Char) : Prop :=
  ∀ c ∈ tail.head?, c ∈ rest.head?

section

variable {tail rest : List Char}

theorem beginsLike_nil (rest : List Char) : BeginsLike [] rest :=
  fun _ first => nomatch first

theorem beginsLike_cons (c : Char) (tail rest : List Char)
    : BeginsLike (c :: tail) (c :: rest) :=
  fun _ first => first

/-- With the same text in front, texts that begin alike still do. -/
theorem BeginsLike.append (h : BeginsLike tail rest) (front : List Char)
    : BeginsLike (front ++ tail) (front ++ rest) := by
  cases front with
  | nil => exact h
  | cons c front => exact beginsLike_cons c _ _

/-- Whether a run ends depends on the first character behind it. -/
theorem EndsRun.of_beginsLike {inClass : Char → Bool} (ends : EndsRun inClass rest)
    (h : BeginsLike tail rest)
    : EndsRun inClass tail :=
  fun c first => ends c (h c first)

/-- A run that ends in front of a text ends in front of the beginning of that text alone. -/
theorem EndsRun.of_append {inClass : Char → Bool} (ends : EndsRun inClass (tail ++ rest))
    : EndsRun inClass tail := by
  have alike := (beginsLike_nil rest).append tail
  rw [List.append_nil] at alike
  exact ends.of_beginsLike alike

/-- A run of one class is taken off a text, and would be off any text that goes on alike. -/
theorem exists_run (inClass : Char → Bool) (rest : List Char)
    : ∃ run,
        rest = run ++ rest.dropWhile inClass
        ∧ ∀ tail, BeginsLike tail (rest.dropWhile inClass) →
            (run ++ tail).takeWhile inClass = rest.takeWhile inClass
            ∧ (run ++ tail).dropWhile inClass = tail := by
  refine ⟨rest.takeWhile inClass, List.takeWhile_append_dropWhile.symm, ?_⟩
  intro tail alike
  have all : ∀ c ∈ rest.takeWhile inClass, inClass c = true :=
    fun c member => List.mem_takeWhile_imp member
  have ends : EndsRun inClass tail := (endsRun_dropWhile inClass rest).of_beginsLike alike
  exact ⟨takeWhile_run all ends, dropWhile_run all ends⟩

end

end RobotPuzzle.Text
