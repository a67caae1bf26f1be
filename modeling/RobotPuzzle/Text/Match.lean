import RobotPuzzle.Text.Blank

/-! Matching at the beginning of a text. Each function yields what is left behind the match,
and a lemma says that this is shorter.
-/

namespace RobotPuzzle.Text

/-- The text behind the character. -/
def dropChar? (c : Char) : List Char → Option (List Char)
  | [] => none
  | d :: rest => if d = c then some rest else none

/-- The text behind the character and the layout on both sides of it. -/
def dropSpaced? (c : Char) (text : List Char) : Option (List Char) :=
  (dropChar? c (skipLayout text)).map skipLayout

/-- The text behind a given beginning. -/
def dropText? : (start text : List Char) → Option (List Char)
  | [], text => some text
  | _ :: _, [] => none
  | s :: start, c :: text => if c = s then dropText? start text else none

/-- The longest run of characters of a class, if there is at least one, and the text behind
it.
-/
def run? (inClass : Char → Bool) (text : List Char) : Option (List Char × List Char) :=
  match text.takeWhile inClass with
  | [] => none
  | found => some (found, text.dropWhile inClass)

theorem length_skipLayout (text : List Char) : (skipLayout text).length ≤ text.length :=
  (List.dropWhile_sublist _).length_le

theorem length_trim (text : List Char) : (trim text).length ≤ text.length := by
  have front := (List.dropWhile_sublist (l := text) isBlank).length_le
  have back := (List.dropWhile_sublist
    (l := (text.dropWhile isBlank).reverse) isBlank).length_le
  simp only [List.length_reverse] at back
  simp only [trim, List.length_reverse]
  omega

theorem length_dropChar? {c : Char} {text rest : List Char}
    (h : dropChar? c text = some rest) : text.length = rest.length + 1 := by
  unfold dropChar? at h
  split at h
  · simp at h
  · simp at h
    simp [h.2]

theorem length_dropSpaced? {c : Char} {text rest : List Char}
    (h : dropSpaced? c text = some rest) : rest.length < text.length := by
  obtain ⟨behind, dropped, rfl⟩ := Option.map_eq_some_iff.mp h
  have := length_dropChar? dropped
  have := length_skipLayout text
  have := length_skipLayout behind
  omega

theorem length_dropText? {start text rest : List Char}
    (h : dropText? start text = some rest) : rest.length ≤ text.length := by
  fun_induction dropText? start text with
  | case1 => simp_all
  | case2 => simp at h
  | case3 s start text ih => exact Nat.le_succ_of_le (ih h)
  | case4 => simp at h

/-- Nothing is dropped from a text that begins with another character or is empty. -/
theorem dropText?_eq_none {c : Char} {start text : List Char} (h : text.head? ≠ some c)
    : dropText? (c :: start) text = none := by
  cases text with
  | nil => rfl
  | cons d text =>
      have other : d ≠ c := by
        rintro rfl
        exact h rfl
      exact if_neg other

theorem length_run? {inClass : Char → Bool} {text found rest : List Char}
    (h : run? inClass text = some (found, rest)) : rest.length < text.length := by
  unfold run? at h
  split at h
  · simp at h
  next nonempty =>
    obtain ⟨rfl, rfl⟩
        : text.takeWhile inClass = found ∧ text.dropWhile inClass = rest := by
      simpa using h
    have whole := congrArg List.length
      (List.takeWhile_append_dropWhile (p := inClass) (l := text))
    have := List.length_pos_iff.mpr nonempty
    simp only [List.length_append] at whole
    omega

end RobotPuzzle.Text
