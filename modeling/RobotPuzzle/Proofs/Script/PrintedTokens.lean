import RobotPuzzle.Proofs.Script.Tokenization
import RobotPuzzle.Proofs.Text.Words

/-! Pieces of text that keep their tokens wherever they stand. A piece that ends with a word
or a number is only taken together with what ends that.
-/

namespace RobotPuzzle.Script

open Text (EndsRun endsRun_cons)

/-- Whatever follows it, the piece of text stands for the tokens. -/
def Writes (piece : List Char) (found : List Token) : Prop :=
  ∀ text behind, Tokenized text behind → Tokenized (piece ++ text) (found ++ behind)

theorem Writes.nil : Writes [] [] := by
  intro text behind h
  exact h

theorem Writes.append {left right : List Char} {first second : List Token}
    (hl : Writes left first) (hr : Writes right second)
    : Writes (left ++ right) (first ++ second) := by
  intro text behind h
  rw [List.append_assoc, List.append_assoc]
  exact hl _ _ (hr _ _ h)

theorem Writes.layout {c : Char} (layout : Text.isLayout c = true) : Writes [c] [] := by
  intro text behind h
  exact .layout layout h

theorem Writes.symbol {c : Char} (layout : Text.isLayout c = false)
    (letter : c.isAlpha = false) (digit : c.isDigit = false)
    : Writes [c] [.ofChar c] := by
  intro text behind h
  exact .symbol layout letter digit h

/-- A name stands for a word if a character follows that cannot go on with it. -/
theorem Writes.word {name piece : List Char} {c : Char} {found : List Token}
    (isName : Text.isName name = true) (ends : Text.isWordChar c = false)
    (behind : Writes (c :: piece) found)
    : Writes (name ++ c :: piece) (.word (String.ofList name) :: found) := by
  intro text rest h
  cases name with
  | nil => simp [Text.isName] at isName
  | cons d name =>
      simp only [Text.isName, Bool.and_eq_true, List.all_eq_true] at isName
      rw [List.append_assoc]
      exact .word isName.1 isName.2 (endsRun_cons ends _) (behind _ _ h)

/-- Digits stand for a number if a character follows that is no digit. -/
theorem Writes.number {digits piece : List Char} {c : Char} {found : List Token}
    (nonempty : digits ≠ []) (all : ∀ d ∈ digits, d.isDigit = true)
    (ends : c.isDigit = false) (behind : Writes (c :: piece) found)
    : Writes (digits ++ c :: piece) (.number digits :: found) := by
  intro text rest h
  cases digits with
  | nil => contradiction
  | cons d digits =>
      rw [List.append_assoc]
      exact .number (all d (by simp)) (fun e member => all e (by simp [member]))
        (endsRun_cons ends _) (behind _ _ h)

theorem Writes.tokenized {piece : List Char} {found : List Token} (h : Writes piece found)
    : Tokenized piece found := by
  simpa using h [] [] .nil

end RobotPuzzle.Script
