import RobotPuzzle.Proofs.Text.Runs

/-! What matching at the beginning of a text accepts, and what it leaves: the end of the text,
behind what was matched. Of that it looks at the first character only, or at none.
-/

namespace RobotPuzzle.Text

variable {text rest : List Char} {c : Char}

theorem dropChar?_eq_some_iff : dropChar? c text = some rest ↔ text = c :: rest := by
  cases text with
  | nil => simp [dropChar?]
  | cons d text =>
      rw [dropChar?]
      split <;> simp_all

theorem dropText?_eq_some_iff {start : List Char}
    : dropText? start text = some rest ↔ text = start ++ rest := by
  induction start generalizing text with
  | nil => simp [dropText?]
  | cons s start ih =>
      cases text with
      | nil => simp [dropText?]
      | cons d text =>
          rw [dropText?]
          split <;> simp_all

@[simp] theorem dropChar?_cons (c : Char) (rest : List Char)
    : dropChar? c (c :: rest) = some rest :=
  dropChar?_eq_some_iff.mpr rfl

theorem dropText?_append (start rest : List Char)
    : dropText? start (start ++ rest) = some rest :=
  dropText?_eq_some_iff.mpr rfl

/-- The run that is taken is the longest one. -/
theorem run?_eq_some_iff {inClass : Char → Bool} {run : List Char}
    : run? inClass text = some (run, rest)
      ↔ text = run ++ rest
        ∧ run ≠ []
        ∧ (∀ d ∈ run, inClass d = true)
        ∧ EndsRun inClass rest := by
  constructor
  · intro h
    unfold run? at h
    split at h
    · cases h
    next nonempty =>
      obtain ⟨rfl, rfl⟩
          : text.takeWhile inClass = run ∧ text.dropWhile inClass = rest := by
        simpa using h
      exact ⟨List.takeWhile_append_dropWhile.symm, nonempty,
        fun d member => List.mem_takeWhile_imp member, endsRun_dropWhile inClass text⟩
  · rintro ⟨rfl, nonempty, all, ends⟩
    exact run?_run nonempty all ends

/-- A text that does not begin with layout is not changed by skipping that. -/
theorem skipLayout_of_endsRun (h : EndsRun isLayout text) : skipLayout text = text := by
  cases text with
  | nil => rfl
  | cons c text =>
      have begun : isLayout c = false := h c rfl
      simp [skipLayout, begun]

/-- Layout in front of the character is skipped, and what is left does not begin with layout. -/
theorem dropSpaced?_eq_some_iff
    : dropSpaced? c text = some rest
      ↔ ∃ behind, skipLayout text = c :: behind ∧ skipLayout behind = rest := by
  simp only [dropSpaced?, Option.map_eq_some_iff, dropChar?_eq_some_iff]

theorem dropSpaced?_cons (layout : isLayout c = false) (behind : List Char)
    : dropSpaced? c (c :: behind) = some (skipLayout behind) :=
  dropSpaced?_eq_some_iff.mpr
    ⟨behind, skipLayout_of_endsRun (endsRun_cons layout behind), rfl⟩

-----------------------------------------------------------------------------------------
-- What is left is the end of the text
-----------------------------------------------------------------------------------------

theorem suffix_dropText? {start : List Char} (h : dropText? start text = some rest)
    : rest <:+ text :=
  ⟨start, (dropText?_eq_some_iff.mp h).symm⟩

theorem suffix_dropChar? (h : dropChar? c text = some rest) : rest <:+ text :=
  ⟨[c], (dropChar?_eq_some_iff.mp h).symm⟩

theorem suffix_run? {inClass : Char → Bool} {run : List Char}
    (h : run? inClass text = some (run, rest))
    : rest <:+ text :=
  ⟨run, (run?_eq_some_iff.mp h).1.symm⟩

/-- The layout that is skipped on both sides stands in front of what is left. -/
theorem suffix_dropSpaced? (h : dropSpaced? c text = some rest) : rest <:+ text := by
  obtain ⟨behind, begun, rfl⟩ := dropSpaced?_eq_some_iff.mp h
  have front : c :: behind <:+ text := begun ▸ List.dropWhile_suffix _
  have inside : skipLayout behind <:+ c :: behind :=
    (List.dropWhile_suffix _).trans (List.suffix_cons _ _)
  exact inside.trans front

theorem trim_subset (text : List Char) : trim text ⊆ text := by
  intro c member
  have inner := (List.dropWhile_sublist _).subset (List.mem_reverse.mp member)
  exact (List.dropWhile_sublist _).subset (List.mem_reverse.mp inner)

-----------------------------------------------------------------------------------------
-- What is used up
-----------------------------------------------------------------------------------------

/-- Reading the text uses up what stands in front of `rest`. It looks no further than at the
character behind that, so another text may follow instead that begins alike.
-/
def Consumes (reads : List Char → List Char → Prop) (text rest : List Char) : Prop :=
  ∃ used, text = used ++ rest ∧ ∀ tail, BeginsLike tail rest → reads (used ++ tail) tail

/-- Reading the text uses up what stands in front of `rest`, and does not look further. -/
def Encloses (reads : List Char → List Char → Prop) (text rest : List Char) : Prop :=
  ∃ used, used ≠ [] ∧ text = used ++ rest ∧ ∀ tail, reads (used ++ tail) tail

theorem Encloses.consumes {reads : List Char → List Char → Prop} (h : Encloses reads text rest)
    : Consumes reads text rest := by
  obtain ⟨used, -, whole, again⟩ := h
  exact ⟨used, whole, fun tail _ => again tail⟩

/-- What holds of every text that begins with what was used up may be weakened. -/
theorem Encloses.imp {reads others : List Char → List Char → Prop}
    (h : Encloses reads text rest) (weaken : ∀ text rest, reads text rest → others text rest)
    : Encloses others text rest := by
  obtain ⟨used, nonempty, whole, again⟩ := h
  exact ⟨used, nonempty, whole, fun tail => weaken _ _ (again tail)⟩

/-- If nothing is looked at behind the second reading, nothing is behind both. -/
theorem Consumes.encloses {reads goesOn : List Char → List Char → Prop} {behind : List Char}
    (first : Consumes reads text behind) (second : Encloses goesOn behind rest)
    : Encloses (fun text rest => ∃ behind, reads text behind ∧ goesOn behind rest) text rest := by
  obtain ⟨front, rfl, again⟩ := first
  obtain ⟨used, nonempty, rfl, goes⟩ := second
  obtain ⟨c, used, rfl⟩ := List.exists_cons_of_ne_nil nonempty
  refine ⟨front ++ c :: used, List.append_ne_nil_of_right_ne_nil _ nonempty,
    (List.append_assoc ..).symm, ?_⟩
  intro tail
  rw [List.append_assoc]
  exact ⟨_, again _ (beginsLike_cons c _ _), goes tail⟩

theorem consumes_dropText? {start : List Char} (h : dropText? start text = some rest)
    : Consumes (fun text rest => dropText? start text = some rest) text rest :=
  ⟨start, dropText?_eq_some_iff.mp h, fun tail _ => dropText?_append start tail⟩

theorem encloses_dropChar? (h : dropChar? c text = some rest)
    : Encloses (fun text rest => dropChar? c text = some rest) text rest :=
  ⟨[c], List.cons_ne_nil c [], dropChar?_eq_some_iff.mp h, fun tail => dropChar?_cons c tail⟩

/-- The run is taken from every text in which it ends at the same character, or at the end. -/
theorem consumes_run? {inClass : Char → Bool} {run : List Char}
    (h : run? inClass text = some (run, rest))
    : Consumes (fun text rest => run? inClass text = some (run, rest)) text rest := by
  obtain ⟨rfl, nonempty, all, ends⟩ := run?_eq_some_iff.mp h
  exact ⟨run, rfl, fun tail alike => run?_run nonempty all (ends.of_beginsLike alike)⟩

/-- The layout on both sides is used up with the character. -/
theorem consumes_dropSpaced? (h : dropSpaced? c text = some rest)
    : Consumes (fun text rest => dropSpaced? c text = some rest) text rest := by
  obtain ⟨behind, begun, rfl⟩ := dropSpaced?_eq_some_iff.mp h
  obtain ⟨before, whole, skipped⟩ := exists_run isLayout text
  obtain ⟨after, left, skipped_behind⟩ := exists_run isLayout behind
  refine ⟨before ++ c :: after, ?_, ?_⟩
  · rw [List.append_assoc, List.cons_append]
    exact whole.trans (congrArg _ (begun.trans (congrArg _ left)))
  · intro tail alike
    have alike_front : BeginsLike (c :: (after ++ tail)) (text.dropWhile isLayout) := by
      rw [show text.dropWhile isLayout = c :: behind from begun]
      exact beginsLike_cons c _ _
    rw [List.append_assoc, List.cons_append]
    exact dropSpaced?_eq_some_iff.mpr
      ⟨after ++ tail, (skipped _ alike_front).2, (skipped_behind tail alike).2⟩

end RobotPuzzle.Text
