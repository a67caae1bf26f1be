import RobotPuzzle.Script.Strict

/-! The grammar of scripts, over tokens. It says which script a list of tokens writes, and
nothing about how a reader would find out.
-/

namespace RobotPuzzle.Script

/-- What may stand or be left out. -/
inductive Optionally (part : List Token) : List Token → Prop
  | absent : Optionally part []
  | present : Optionally part part

/-- A condition is a call, kept as the name that is called, or the comparison of energy with a
zero that is spelled with one digit.
-/
inductive DerivesCondition : List Token → String → Prop
  | call (name : String) : DerivesCondition [.word name, .openParen, .closeParen] name
  | energy : DerivesCondition [.word "energy", .greater, .number ['0']] "energy>0"

mutual

/-- A statement is an action, with parentheses and a semicolon if one likes, or a block under a
header. The value of a count is that of a 32-bit word.
-/
inductive DerivesStatement : List Token → Statement → Prop
  | act (action : Action) {call stop}
    (parens : Optionally [.openParen, .closeParen] call)
    (semicolon : Optionally [.semicolon] stop)
    : DerivesStatement (.word action.name :: call ++ stop) (.act action)
  | times {digits block body} {count : UInt32}
    (value : Text.digitsValue digits = count.toNat) (inside : DerivesBlock block body)
    : DerivesStatement
        ([.word "repeat", .openParen, .number digits, .closeParen] ++ block)
        (.times count body)
  | when {asked condition block body} (guard : DerivesCondition asked condition)
    (inside : DerivesBlock block body)
    : DerivesStatement ([.word "if", .openParen] ++ asked ++ [.closeParen] ++ block)
        (.when condition body)
  | loop {asked condition block body} (guard : DerivesCondition asked condition)
    (inside : DerivesBlock block body)
    : DerivesStatement ([.word "while", .openParen] ++ asked ++ [.closeParen] ++ block)
        (.loop condition body)

/-- A block is a script in braces. -/
inductive DerivesBlock : List Token → List Statement → Prop
  | braces {inner body} (inside : DerivesScript inner body)
    : DerivesBlock (.openBrace :: inner ++ [.closeBrace]) body

inductive DerivesScript : List Token → Script → Prop
  | nil : DerivesScript [] []
  | cons {first rest statement script} (head : DerivesStatement first statement)
    (tail : DerivesScript rest script)
    : DerivesScript (first ++ rest) (statement :: script)

end

theorem DerivesStatement.script {tokens : List Token} {statement : Statement}
    (h : DerivesStatement tokens statement)
    : DerivesScript tokens [statement] := by
  simpa using DerivesScript.cons h .nil

/-- Scripts that follow each other are one script, by induction over the statements of the
first.
-/
theorem DerivesScript.append {left right : List Token} {first second : Script}
    (hl : DerivesScript left first) (hr : DerivesScript right second)
    : DerivesScript (left ++ right) (first ++ second) := by
  match hl with
  | .nil => exact hr
  | .cons head tail =>
      rw [List.append_assoc]
      exact .cons head (tail.append hr)

/-- A statement may follow a script whose statements are kept last first. -/
theorem DerivesScript.snoc {left right : List Token} {done : List Statement}
    {statement : Statement} (hl : DerivesScript left done.reverse)
    (hr : DerivesStatement right statement)
    : DerivesScript (left ++ right) (statement :: done).reverse := by
  rw [List.reverse_cons]
  exact hl.append hr.script

end RobotPuzzle.Script
