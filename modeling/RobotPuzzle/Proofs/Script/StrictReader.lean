import RobotPuzzle.Proofs.Script.StrictCompleteness
import RobotPuzzle.Proofs.Script.Tokenization

/-! The strict reader accepts exactly its grammar. -/

namespace RobotPuzzle.Script

theorem readStrict_eq_ok_iff_ofLexemes (text : List Char) (script : Script)
    : readStrict text = .ok script ↔ ofLexemes (lexemes text) = .ok script := by
  unfold readStrict
  cases ofLexemes (lexemes text) <;> simp [Except.mapError]

theorem readStrict_eq_error_iff (text : List Char) (error : ScriptError)
    : readStrict text = .error error
      ↔ ∃ fault, ofLexemes (lexemes text) = .error fault ∧ fault.report text = error := by
  unfold readStrict
  cases ofLexemes (lexemes text) <;> simp [Except.mapError]

/-- What is reported as not understood is a suffix of the text that cannot be gone on with. -/
theorem exists_unexpected_of_readStrict {text : List Char} {place : Text.Place} {near : String}
    (h : readStrict text = .error (.notUnderstood place near))
    : ∃ rest,
        ofLexemes (lexemes text) = .error (.unexpected rest)
        ∧ place = .ofSuffix text rest
        ∧ near = String.ofList ((Text.firstWord rest).take 20) := by
  obtain ⟨fault, read, reported⟩ := (readStrict_eq_error_iff text _).mp h
  cases fault with
  | unexpected rest =>
      obtain ⟨placed, quoted⟩ := ScriptError.notUnderstood.inj reported
      exact ⟨rest, read, placed.symm, quoted.symm⟩
  | tooMany digits => cases reported

/-- A text is read as the script that the tokens found by the scanner derive, by soundness and
completeness.
-/
theorem readStrict_eq_ok_iff (text : List Char) (script : Script)
    : readStrict text = .ok script ↔ DerivesScript (tokens text) script := by
  rw [readStrict_eq_ok_iff_ofLexemes]
  exact ⟨derives_of_ofLexemes, ofLexemes_of_derives⟩

/-- The strict reader reads a text as a script exactly if the text falls apart, by longest
match, into tokens that derive the script.
-/
theorem readStrict_iff_tokenized_derives (text : List Char) (script : Script)
    : readStrict text = .ok script
      ↔ ∃ found, Tokenized text found ∧ DerivesScript found script := by
  rw [readStrict_eq_ok_iff]
  constructor
  · intro derives
    exact ⟨tokens text, tokenized_tokens text, derives⟩
  · rintro ⟨found, tokenized, derives⟩
    exact tokenized.tokens_eq ▸ derives

end RobotPuzzle.Script
