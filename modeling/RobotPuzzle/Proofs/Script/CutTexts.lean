import RobotPuzzle.Proofs.Script.TokenText
import RobotPuzzle.Proofs.Text.Matches

/-! Where the lexemes of a text stand in it. The text can be cut in front of each of them, and
what is in front keeps its tokens if anything else follows that begins alike.
-/

namespace RobotPuzzle.Script

open Text (BeginsLike EndsRun beginsLike_nil endsRun_dropWhile exists_run isLayout isWordChar
  skipLayout)

/-- The token at the beginning of a text is also that of any text that goes on alike behind it,
by cases over what kind of token it is.
-/
theorem Token.exists_scan (c : Char) (rest : List Char)
    : ∃ run,
        rest = run ++ (scan c rest).2
        ∧ ∀ tail, BeginsLike tail (scan c rest).2 →
            scan c (run ++ tail) = ((scan c rest).1, tail) := by
  unfold scan
  by_cases letter : c.isAlpha = true
  · simp only [if_pos letter]
    obtain ⟨run, whole, taken⟩ := exists_run isWordChar rest
    refine ⟨run, whole, ?_⟩
    intro tail alike
    rw [(taken tail alike).1, (taken tail alike).2]
  · by_cases digit : c.isDigit = true
    · simp only [if_neg letter, if_pos digit]
      obtain ⟨run, whole, taken⟩ := exists_run Char.isDigit rest
      refine ⟨run, whole, ?_⟩
      intro tail alike
      rw [(taken tail alike).1, (taken tail alike).2]
    · simp only [if_neg letter, if_neg digit]
      exact ⟨[], rfl, fun tail _ => rfl⟩

theorem tokens_of_all_isLayout {front : List Char} (h : ∀ c ∈ front, isLayout c = true)
    (tail : List Char)
    : tokens (front ++ tail) = tokens tail := by
  induction front with
  | nil => rfl
  | cons c front ih =>
      obtain ⟨layout, later⟩ := List.forall_mem_cons.mp h
      rw [List.cons_append, tokens_of_isLayout layout, ih later]

theorem exists_gap {text rest : List Char} (h : skipLayout text = rest)
    : ∃ gap, text = gap ++ rest ∧ ∀ c ∈ gap, isLayout c = true := by
  refine ⟨text.takeWhile isLayout, ?_, fun c member => List.mem_takeWhile_imp member⟩
  rw [← h]
  exact List.takeWhile_append_dropWhile.symm

/-- In front of a token there is only layout. -/
theorem exists_layout {text rest : List Char} {c : Char} (h : skipLayout text = c :: rest)
    : isLayout c = false
      ∧ ∃ layout, text = layout ++ c :: rest ∧ ∀ d ∈ layout, isLayout d = true := by
  have ends : EndsRun isLayout (skipLayout text) := endsRun_dropWhile isLayout text
  rw [h] at ends
  exact ⟨ends c rfl, exists_gap h⟩

/-- The text can be cut in front of the lexeme, where a token begins. What is in front has the
tokens of the lexemes before it.
-/
structure CutAt (text : List Char) (before : List Lexeme) (lexeme : Lexeme)
    (front : List Char) : Prop where
  whole : text = front ++ lexeme.text
  scanned
    : ∃ c rest, isLayout c = false ∧ lexeme = ⟨(Token.scan c rest).1, c :: rest⟩
  followed
    : ∀ tail,
        BeginsLike tail lexeme.text
        → tokens (front ++ tail) = before.map Lexeme.token ++ tokens tail

theorem CutAt.skipLayout_text {text front : List Char} {before : List Lexeme} {lexeme : Lexeme}
    (cut : CutAt text before lexeme front)
    : skipLayout lexeme.text = lexeme.text := by
  obtain ⟨c, rest, not_layout, rfl⟩ := cut.scanned
  exact Text.skipLayout_of_endsRun (Text.endsRun_cons not_layout rest)

/-- The part in front of a lexeme has the tokens that were read before it. -/
theorem CutAt.tokens_front {text front : List Char} {before : List Lexeme} {lexeme : Lexeme}
    (cut : CutAt text before lexeme front)
    : tokens front = before.map Lexeme.token := by
  have parts := cut.followed [] (beginsLike_nil _)
  rwa [List.append_nil, tokens_nil, List.append_nil] at parts

/-- What is behind the cut has the tokens of the lexemes from there on. -/
theorem CutAt.tokens_text {text front : List Char} {before after : List Lexeme} {lexeme : Lexeme}
    (cut : CutAt text before lexeme front) (found : lexemes text = before ++ lexeme :: after)
    : tokens lexeme.text = lexeme.token :: after.map Lexeme.token := by
  have parts := cut.followed lexeme.text (fun _ first => first)
  rw [← cut.whole, tokens, found, List.map_append] at parts
  exact (List.append_cancel_left parts).symm

/-- A token further in front is one lexeme more before the cut. -/
theorem CutAt.cons {text rest front : List Char} {c : Char} {before : List Lexeme}
    {lexeme : Lexeme} (begun : skipLayout text = c :: rest)
    (cut : CutAt (Token.scan c rest).2 before lexeme front)
    : ∃ longer,
        CutAt text (⟨(Token.scan c rest).1, c :: rest⟩ :: before) lexeme longer := by
  obtain ⟨not_layout, layout, rfl, all⟩ := exists_layout begun
  obtain ⟨run, run_eq, taken⟩ := Token.exists_scan c rest
  refine ⟨layout ++ c :: (run ++ front), ?_, cut.scanned, ?_⟩
  · rw [List.append_assoc, List.cons_append, List.append_assoc, ← cut.whole, ← run_eq]
  · intro tail alike
    have alike_behind : BeginsLike (front ++ tail) (Token.scan c rest).2 := by
      rw [cut.whole]
      exact alike.append front
    rw [List.append_assoc, tokens_of_all_isLayout all, List.cons_append, List.append_assoc,
      tokens_scan not_layout, taken _ alike_behind, cut.followed tail alike]
    rfl

/-- Every lexeme is at such a place, by induction over those before it. -/
theorem exists_cutAt {text : List Char} {before after : List Lexeme} {lexeme : Lexeme}
    (h : lexemes text = before ++ lexeme :: after)
    : ∃ front, CutAt text before lexeme front := by
  induction before generalizing text with
  | nil =>
      cases begun : skipLayout text with
      | nil =>
          rw [lexemes_of_skipLayout_nil begun] at h
          cases h
      | cons c rest =>
          rw [lexemes_of_skipLayout_cons begun] at h
          obtain ⟨rfl, -⟩ := List.cons.inj h
          obtain ⟨not_layout, layout, whole, all⟩ := exists_layout begun
          refine ⟨layout, whole, ⟨c, rest, not_layout, rfl⟩, ?_⟩
          intro tail _
          exact tokens_of_all_isLayout all tail
  | cons first before ih =>
      cases begun : skipLayout text with
      | nil =>
          rw [lexemes_of_skipLayout_nil begun] at h
          cases h
      | cons c rest =>
          rw [lexemes_of_skipLayout_cons begun] at h
          obtain ⟨rfl, behind⟩ := List.cons.inj h
          obtain ⟨front, cut⟩ := ih behind
          exact cut.cons begun

end RobotPuzzle.Script
