import RobotPuzzle.Proofs.Script.FlatSkipping

/-! However deep blocks stand in each other, the flat reader keeps the actions of a script, in
their order. It cuts a block off at the first closing brace, so what it reads next has headers
without a closing brace in it, and closing braces without a header. Such fragments of scripts
have actions too, and cutting one in two at a brace loses none of them.
-/

namespace RobotPuzzle

mutual

/-- The actions in a statement, in the order of its text and at whatever depth. -/
def Statement.actions : Statement → List Action
  | .act action => [action]
  | .times _ body => Script.actions body
  | .when _ body => Script.actions body
  | .loop _ body => Script.actions body

def Script.actions : Script → List Action
  | [] => []
  | statement :: script => statement.actions ++ Script.actions script

end

namespace Script

/-- A header does nothing itself. -/
theorem Header.actions_close (header : Header) (body : Script)
    : (header.close body).actions = Script.actions body := by
  cases header with
  | times count => rfl
  | guarded guard condition => cases guard <;> rfl

-----------------------------------------------------------------------------------------
-- Fragments
-----------------------------------------------------------------------------------------

/-- The tokens are a part of those of a script, with these actions in it; braces need not come
in pairs.
-/
inductive Fragment : List Token → List Action → Prop
  | nil : Fragment [] []
  | act (action : Action) {call stop behind actions}
    (parens : Optionally [.openParen, .closeParen] call)
    (semicolon : Optionally [.semicolon] stop) (later : Fragment behind actions)
    : Fragment (.word action.name :: call ++ stop ++ behind) (action :: actions)
  | header {head header behind actions} (headed : DerivesHeader head header)
    (unlike : ∀ condition ∈ header.conditions, EndsInNoAction condition.toList)
    (later : Fragment behind actions)
    : Fragment (head ++ .openBrace :: behind) actions
  | closeBrace {behind actions} (later : Fragment behind actions)
    : Fragment (.closeBrace :: behind) actions

/-- A header and its block in front of a fragment. -/
theorem Fragment.close {head inner behind : List Token} {header : Header} {body : Script}
    {actions : List Action} (headed : DerivesHeader head header)
    (unlike : ∀ condition ∈ (header.close body).conditions, EndsInNoAction condition.toList)
    (block : (∀ condition ∈ Script.conditions body, EndsInNoAction condition.toList)
      → Fragment (inner ++ .closeBrace :: behind) (Script.actions body ++ actions))
    : Fragment (head ++ (.openBrace :: inner ++ [.closeBrace]) ++ behind)
        ((header.close body).actions ++ actions) := by
  rw [header.conditions_close] at unlike
  obtain ⟨asked, within⟩ := List.forall_mem_append.mp unlike
  rw [header.actions_close]
  simpa using Fragment.header headed asked (block within)

mutual

/-- A statement in front of a fragment makes another one, by cases over how it is derived. -/
theorem DerivesStatement.fragment {first behind : List Token} {statement : Statement}
    {actions : List Action} (h : DerivesStatement first statement)
    (unlike : ∀ condition ∈ statement.conditions, EndsInNoAction condition.toList)
    (later : Fragment behind actions)
    : Fragment (first ++ behind) (statement.actions ++ actions) := by
  match h with
  | .act action parens semicolon => exact .act action parens semicolon later
  | .times value (.braces inside) =>
      exact .close (.times value) unlike (inside.fragment · later.closeBrace)
  | .when guard (.braces inside) =>
      exact .close (.guarded .when guard) unlike (inside.fragment · later.closeBrace)
  | .loop guard (.braces inside) =>
      exact .close (.guarded .loop guard) unlike (inside.fragment · later.closeBrace)

/-- A script in front of a fragment makes another one, one statement at a time. -/
theorem DerivesScript.fragment {found behind : List Token} {script : Script}
    {actions : List Action} (h : DerivesScript found script)
    (unlike : ∀ condition ∈ Script.conditions script, EndsInNoAction condition.toList)
    (later : Fragment behind actions)
    : Fragment (found ++ behind) (Script.actions script ++ actions) := by
  match h with
  | .nil => exact later
  | .cons head tail =>
      obtain ⟨first, others⟩ := List.forall_mem_append.mp unlike
      rw [Script.actions, List.append_assoc, List.append_assoc]
      exact head.fragment first (tail.fragment others later)

end

/-- A fragment begins with a word or a brace, if there is anything in it. -/
theorem Fragment.endsAction {found : List Token} {actions : List Action}
    (h : Fragment found actions)
    : EndsAction found := by
  cases h with
  | header headed => cases headed <;> exact ⟨by simp, by simp⟩
  | _ => exact ⟨by simp, by simp⟩

theorem DerivesHeader.known {head : List Token} {header : Header} (h : DerivesHeader head header)
    : Known head := by
  intro c
  cases h with
  | times value => simp
  | guarded guard holds => cases holds <;> simp

/-- All tokens of a fragment are known, by induction over it, so blanks around it are layout. -/
theorem Fragment.known {found : List Token} {actions : List Action} (h : Fragment found actions)
    : Known found := by
  induction h with
  | nil => exact fun _ => List.not_mem_nil
  | act action parens semicolon later ih =>
      intro c
      have behind := ih c
      cases parens <;> cases semicolon <;> simpa using behind
  | header headed unlike later ih =>
      intro c
      simpa using ⟨headed.known c, ih c⟩
  | closeBrace later ih =>
      intro c
      simpa using ih c

-----------------------------------------------------------------------------------------
-- Cutting a fragment at a brace
-----------------------------------------------------------------------------------------

/-- What stands before a token is not where the token is, so a cut at the token is behind it. -/
theorem exists_append_of_append_cons {front later inner behind : List Token} {token : Token}
    (same : front ++ later = inner ++ token :: behind) (absent : token ∉ front)
    : ∃ between, inner = front ++ between ∧ later = between ++ token :: behind := by
  rcases List.append_eq_append_iff.mp same with ⟨between, before, after⟩ | ⟨between, rfl, after⟩
  · exact ⟨between, before, after⟩
  · cases between with
    | nil => exact ⟨[], by simp, after.symm⟩
    | cons other between =>
        obtain ⟨rfl, -⟩ := List.cons.inj after
        simp at absent

/-- No header holds a closing brace, so a fragment is never cut within one. -/
theorem DerivesHeader.closeBrace_not_mem {head : List Token} {header : Header}
    (h : DerivesHeader head header)
    : .closeBrace ∉ head := by
  cases h with
  | times value => simp
  | guarded guard holds => cases holds <;> simp

/-- Where a fragment is cut in two at its first closing brace, each part is a fragment, and the
actions are those of the first and then those of the second. By induction over the fragment.
-/
theorem Fragment.split {found inner behind : List Token} {actions : List Action}
    (h : Fragment found actions) (same : found = inner ++ .closeBrace :: behind)
    (first : .closeBrace ∉ inner)
    : ∃ before after,
        Fragment inner before ∧ Fragment behind after ∧ actions = before ++ after := by
  induction h generalizing inner with
  | nil => simp at same
  | act action parens semicolon later ih =>
      obtain ⟨between, rfl, left⟩ := exists_append_of_append_cons same (by
        cases parens <;> cases semicolon <;> simp)
      obtain ⟨before, after, inside, outside, rfl⟩ :=
        ih left (fun member => first (List.mem_append_right _ member))
      exact ⟨action :: before, after, .act action parens semicolon inside, outside, rfl⟩
  | header headed unlike later ih =>
      rw [List.append_cons] at same
      obtain ⟨between, rfl, left⟩ := exists_append_of_append_cons same (by
        simpa using headed.closeBrace_not_mem)
      obtain ⟨before, after, inside, outside, rfl⟩ :=
        ih left (fun member => first (List.mem_append_right _ member))
      refine ⟨before, after, ?_, outside, rfl⟩
      rw [← List.append_cons]
      exact .header headed unlike inside
  | closeBrace later ih =>
      cases inner with
      | nil =>
          obtain ⟨-, rfl⟩ := List.cons.inj same
          exact ⟨[], _, .nil, later, rfl⟩
      | cons token inner =>
          obtain ⟨rfl, -⟩ := List.cons.inj same
          simp at first

-----------------------------------------------------------------------------------------
-- What is read from a fragment
-----------------------------------------------------------------------------------------

/-- Once the statement is known to be made of the shape, the shape stands for it. -/
theorem ReadsFlat.of_made {text rest : List Char} {shape : Shape} {statement : Statement}
    {script : Script} (found : Shape.find? text = some (shape, rest))
    (made : (shape.excerpt text rest).statement = .ok statement) (later : ReadsFlat rest script)
    : ReadsFlat text (statement :: script) :=
  .cons found ((Shape.find?_foundIn found).formed.spells made) later

/-- The flat reader reads something from every text whose tokens are a fragment, and that has the
actions of the fragment. By induction over the number of tokens: they become fewer with each
action, with each header or brace that is skipped, and both in a block and behind it.
-/
theorem exists_readsFlat_of_fragment {text : List Char} {actions : List Action}
    (h : Fragment (tokens text) actions)
    : ∃ script, ReadsFlat text script ∧ Script.actions script = actions := by
  induction count : (tokens text).length using Nat.strong_induction_on
    generalizing text actions with
  | _ n ih =>
      subst count
      generalize same : tokens text = found at h ih
      have onward {front behind : List Token} {actions : List Action} (skips : Skips front behind)
          (whole : found = front ++ behind) (nonempty : front ≠ [])
          (later : Fragment behind actions)
          : ∃ script, ReadsFlat text script ∧ Script.actions script = actions := by
        obtain ⟨rest, skipped, rfl⟩ := skips text (same.trans whole)
        have shorter : (tokens rest).length < found.length := by
          have := List.length_pos_iff.mpr nonempty
          simp only [whole, List.length_append]
          omega
        obtain ⟨script, reads, kept⟩ := ih _ shorter later rfl
        exact ⟨script, reads.of_find?_eq skipped, kept⟩
      cases h with
      | nil => exact ⟨[], .nil (Shape.find?_eq_none same), rfl⟩
      | act action parens semicolon later =>
          obtain ⟨shape, rest, first, made, rfl⟩ :=
            finds_act action same parens semicolon later.endsAction
          obtain ⟨script, reads, kept⟩ := ih _ (by simp; omega) later rfl
          exact ⟨.act action :: script, .of_made first made reads, congrArg (action :: ·) kept⟩
      | @closeBrace behind _ later =>
          have brace : Skips [.closeBrace] behind :=
            skips_symbol (c := '\x7d') (by decide +kernel)
          exact onward brace rfl (List.cons_ne_nil _ _) later
      | @header head _ behind _ headed unlike later =>
          by_cases passed : .greater ∈ head ∨ .closeBrace ∉ behind
          · exact onward (headed.skips unlike passed) (List.append_cons ..) (by simp) later
          obtain ⟨calls, closed⟩ := not_or.mp passed
          obtain ⟨inner, outer, rfl, first⟩ :=
            List.eq_append_cons_of_mem (Classical.not_not.mp closed)
          obtain ⟨before, after, inside, outside, rfl⟩ := later.split rfl first
          obtain ⟨shape, block, rest, matched, rfl, rfl, spelled⟩ :=
            find?_of_header headed calls same first
          have trimmed := tokens_trim inside.known
          rw [← trimmed] at inside
          obtain ⟨body, body_reads, body_kept⟩ := ih _ (by simp [trimmed]; omega) inside rfl
          obtain ⟨script, reads, kept⟩ := ih _ (by simp; omega) outside rfl
          have made := spelled body (readFlat_eq_ok_iff.mpr body_reads)
          refine ⟨_, .of_made matched made reads, ?_⟩
          rw [Script.actions, Header.actions_close, body_kept, kept]

/-- The flat reader reads every script that the strict one does, if no condition ends with the
name of an action. Blocks may come apart, but no action is lost, added or moved.
-/
theorem readFlat_keeps_actions {text : List Char} {script : Script}
    (read : readStrict text = .ok script)
    (unlike : ∀ condition ∈ Script.conditions script, EndsInNoAction condition.toList)
    : ∃ flat, readFlat text = .ok flat ∧ Script.actions flat = Script.actions script := by
  have derives := (readStrict_eq_ok_iff text script).mp read
  have fragment := derives.fragment unlike .nil
  rw [List.append_nil, List.append_nil] at fragment
  obtain ⟨flat, reads, kept⟩ := exists_readsFlat_of_fragment fragment
  exact ⟨flat, readFlat_eq_ok_iff.mpr reads, kept⟩

/-- Blocks that come apart, behind headers that are skipped: there is a keyword at the end of a
condition, the name of an action at the beginning of another, and a comparison.
-/
def nestedText : List Char :=
  ("repeat (2) \x7b if(xif()) \x7b while(energy > 0) \x7b move(); \x7d pickUp \x7d turnLeft() "
    ++ "\x7d\nwhile(moved()) \x7b turnRight \x7d").toList

def nestedScript : Script :=
  [.times 2
      [.when "xif" [.loop "energy>0" [.act .move], .act .pickUp], .act .turnLeft],
    .loop "moved" [.act .turnRight]]

theorem readFlat_keeps_actions_of_nested
    : readStrict nestedText = .ok nestedScript
      ∧ ∃ flat,
          readFlat nestedText = .ok flat
          ∧ Script.actions flat = [.move, .pickUp, .turnLeft, .turnRight] := by
  have read : readStrict nestedText = .ok nestedScript := by decide +kernel
  have unlike
      : ∀ condition ∈ Script.conditions nestedScript, EndsInNoAction condition.toList := by
    decide
  exact ⟨read, readFlat_keeps_actions read unlike⟩

end Script

end RobotPuzzle
