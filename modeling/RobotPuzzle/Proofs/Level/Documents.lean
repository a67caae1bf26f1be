import RobotPuzzle.Proofs.Json.Completeness
import RobotPuzzle.Proofs.Json.Writing
import RobotPuzzle.Proofs.Level.Decoding

/-! Documents of levels. Each level but one with a custom goal can be written down, and however
that is done it is read back unchanged.
-/

namespace RobotPuzzle

open Json (IsPlain Value Writable WritableMember)

namespace Level

/-- The document is a JSON text of a value that describes the level. -/
def WrittenIn (level : Level) (document : String) : Prop :=
  ∃ value, Json.WritesSpaced document.toList value ∧ Describes level value

theorem WrittenIn.of_writes {level : Level} {document : String} {text : List Char}
    {value : Value} (written : Json.Writes text value) (same : document = String.ofList text)
    (h : Describes level value)
    : level.WrittenIn document :=
  ⟨value, by rw [same, String.toList_ofList]; exact written.spaced, h⟩

/-- What is loaded is the level that is read, if it passes validation. -/
theorem ofText_of_read {document : String} {level : Level}
    (h : Level.read document = .ok level)
    : Level.ofText document = level.validate.map fun _ => level := by
  rw [ofText, h]
  change (level.validate.bind fun _ => .ok level) = _
  cases level.validate <;> rfl

/-- A level that is loaded is one that a world can be built from. -/
theorem ofText_eq_ok_iff {document : String} {level : Level}
    : Level.ofText document = .ok level
      ↔ Level.read document = .ok level ∧ level.validate = .ok () := by
  cases found : Level.read document with
  | error error => simp [ofText, found, bind, Except.bind]
  | ok other =>
      rw [ofText_of_read found]
      cases valid : other.validate with
      | error error =>
          simp only [Except.map, reduceCtorEq, Except.ok.injEq, false_iff, not_and]
          rintro rfl
          simp [valid]
      | ok _ =>
          simp only [Except.map, Except.ok.injEq, iff_self_and]
          rintro rfl
          exact valid

/-- A document is read as the level that is written in it: the text as the value, and the value as
the level.
-/
theorem WrittenIn.read_eq {level : Level} {document : String} (h : level.WrittenIn document)
    : Level.read document = .ok level := by
  obtain ⟨value, written, describes⟩ := h
  rw [Level.read, Json.read?_of_writes written, Option.bind_some, describes.level?]

-----------------------------------------------------------------------------------------
-- Levels that can be written down
-----------------------------------------------------------------------------------------

/-- The fields can be written as the members of an object. -/
theorem exists_gives {names : List String} {fields : List (Option Value)}
    (plain : ∀ name ∈ names, IsPlain name)
    (h : ∀ field ∈ fields, ∀ value ∈ field, Writable value)
    : ∃ members, Gives names fields members ∧ Writable (.object members) := by
  refine ⟨_, ⟨[], by simp, .refl _⟩, Json.writable_object ?_⟩
  rw [List.append_nil]
  fun_induction givenFields names fields with
  | case1 name names value fields ih =>
      obtain ⟨first, others⟩ := List.forall_mem_cons.mp plain
      obtain ⟨written, more⟩ := List.forall_mem_cons.mp h
      exact List.forall_mem_cons.mpr
        ⟨Json.writableMember first (written value rfl), ih others more⟩
  | case2 name names fields ih =>
      exact ih (List.forall_mem_cons.mp plain).2 (List.forall_mem_cons.mp h).2
  | case3 => simp

theorem exists_describesPosition (place : Position)
    : ∃ value, DescribesPosition place value ∧ Writable value := by
  obtain ⟨members, gives, written⟩
      : ∃ members,
          Gives ["x", "y"] [some (.ofInt place.x.toInt), some (.ofInt place.y.toInt)] members
          ∧ Writable (.object members) :=
    exists_gives (by decide +kernel) (by simp [Json.writable_ofInt])
  exact ⟨_, .object gives, written⟩

theorem exists_describesElement (element : Element)
    : ∃ value, DescribesElement element value ∧ Writable value := by
  have kind : Writable (.ofName element.kind.name) :=
    Json.writable_ofName (by cases element.kind <;> decide +kernel)
  obtain ⟨members, gives, written⟩
      : ∃ members,
          Gives ["type", "x", "y"]
            [some (.ofName element.kind.name), some (.ofInt element.place.x.toInt),
              some (.ofInt element.place.y.toInt)] members
          ∧ Writable (.object members) :=
    exists_gives (by decide +kernel) (by simp [kind, Json.writable_ofInt])
  exact ⟨_, .object gives, written⟩

/-- Any elements are described by the array of their descriptions, by induction over them. -/
theorem exists_describesElements (elements : List Element)
    : ∃ value, DescribesElements elements value ∧ Writable value := by
  have items : ∃ items, List.Forall₂ DescribesElement elements items
      ∧ ∀ item ∈ items, Writable item := by
    induction elements with
    | nil => exact ⟨[], .nil, nofun⟩
    | cons element elements ih =>
        obtain ⟨item, described, written⟩ := exists_describesElement element
        obtain ⟨items, all, writtenAll⟩ := ih
        exact ⟨item :: items, .cons described all,
          List.forall_mem_cons.mpr ⟨written, writtenAll⟩⟩
  obtain ⟨items, all, written⟩ := items
  exact ⟨_, .array all, Json.writable_array written⟩

/-- Every goal but a custom one is described by an object with its type, and no goal by `null`. -/
theorem exists_describesGoal {goal : Option Goal} (h : ∀ custom, goal ≠ some (.custom custom))
    : ∃ value, DescribesGoal goal value ∧ Writable value := by
  have type {name : String} (plain : IsPlain name)
      : WritableMember (some "type", .ofName name) :=
    Json.writableMember (by decide +kernel) (Json.writable_ofName plain)
  match goal with
  | none => exact ⟨_, .none, _, .null⟩
  | some .reachFlag =>
      have reach := type (by decide +kernel : IsPlain "reachFlag")
      exact ⟨_, .reachFlag, Json.writable_object (by simpa using reach)⟩
  | some .reachFlagSafely =>
      have reach := type (by decide +kernel : IsPlain "reachFlagSafely")
      exact ⟨_, .reachFlagSafely, Json.writable_object (by simpa using reach)⟩
  | some (.collectGems count) =>
      have collect := type (by decide +kernel : IsPlain "collectGems")
      have amount : WritableMember (some "count", .ofInt count.toNat) :=
        Json.writableMember (by decide +kernel) (Json.writable_ofInt _)
      exact ⟨_, .collectGems (.refl _), Json.writable_object (by simpa using ⟨collect, amount⟩)⟩
  | some (.custom custom) => exact absurd rfl (h custom)

/-- A level is written down with all of its fields. -/
theorem exists_writtenIn {level : Level} (h : ∀ custom, level.goal ≠ some (.custom custom))
    : ∃ document, level.WrittenIn document := by
  obtain ⟨place, hplace, placeWritten⟩ := exists_describesPosition level.startPosition
  obtain ⟨elements, helements, elementsWritten⟩ := exists_describesElements level.elements
  obtain ⟨goal, hgoal, goalWritten⟩ := exists_describesGoal h
  have direction : Writable (.ofName level.startDirection.name) :=
    Json.writable_ofName (by cases level.startDirection <;> decide +kernel)
  obtain ⟨members, gives, text, written⟩
      : ∃ members,
          Gives ["size", "startPos", "startDirection", "startEnergy", "elements", "goal"]
            [some (.ofInt level.size.toNat), some place,
              some (.ofName level.startDirection.name), some (.ofInt level.startEnergy.toInt),
              some elements, some goal] members
          ∧ Writable (.object members) :=
    exists_gives (by decide +kernel)
      (by simp [Json.writable_ofInt, placeWritten, direction, elementsWritten, goalWritten])
  have describes : Describes level (.object members) :=
    .object (.given rfl) (.given hplace) (.given rfl) (.given rfl) (.given helements)
      (.given hgoal) gives
  exact ⟨_, .of_writes written rfl describes⟩

end Level

-----------------------------------------------------------------------------------------
-- Documents are read back
-----------------------------------------------------------------------------------------

/-- Every level without a custom goal can be written down, and every document in which it is
written, in whatever order and layout, without what is as by default and with whatever else, is
read as that level. It is loaded if it passes validation.
-/
theorem documents_are_read_back (level : Level)
    (h : ∀ custom, level.goal ≠ some (.custom custom))
    : (∃ document, level.WrittenIn document)
      ∧ ∀ document,
          level.WrittenIn document
          → Level.read document = .ok level
            ∧ Level.ofText document = level.validate.map fun _ => level :=
  ⟨Level.exists_writtenIn h, fun _ written =>
    ⟨written.read_eq, Level.ofText_of_read written.read_eq⟩⟩

/-- A document with its members in reverse order, the type of its goal behind the count, and notes
that are no part of a level. The gem is off the grid, so the level is read but not loaded.
-/
theorem documents_are_read_back_from_the_end
    : let level : Level :=
        { size := 3, elements := [⟨.gem, ⟨2, -1⟩⟩], goal := some (.collectGems 2) }
      let document :=
        "\x7b\"note\": [[]], \"goal\": \x7b\"count\": 2, \"type\": \"collectGems\"\x7d, "
          ++ "\"elements\": [\x7b\"note\": 1.5e9, \"y\": -1, \"x\": 2, \"type\": \"gem\"\x7d], "
          ++ "\"size\": 3\x7d"
      (∀ custom, level.goal ≠ some (.custom custom))
      ∧ level.WrittenIn document
      ∧ (∃ document, level.WrittenIn document)
      ∧ Level.read document = .ok level
      ∧ Level.ofText document = .error (.elementOffGrid ⟨.gem, ⟨2, -1⟩⟩) := by
  intro level document
  have written : level.WrittenIn document := by
    have bare := Json.isLayout_nil
    have space : Json.IsLayout [' '] := by simp [Json.IsLayout]
    have member {front name text value} (before : Json.IsLayout front) (plain : IsPlain name)
        (h : Json.Writes text value) :=
      Json.WritesMember.mk before (Json.writesString_of_isPlain plain) bare (.mk space h bare)
    have number (n : Int) := Json.Writes.number (Json.writesNumber_ofInt n)
    have word {name} (plain : IsPlain name) :=
      Json.Writes.string (Json.writesString_of_isPlain plain)
    have digit (c : Char) (h : c.isDigit = true) : Json.IsDigits [c] := ⟨by simp, by simpa⟩
    have decimal := Json.Writes.number (.parts .absent ⟨digit '1' rfl, by simp⟩
      (.point (digit '5' rfl)) (.lower (.plain (digit '9' rfl))))
    have gem := Json.Writes.object
      (.more (member bare (by decide +kernel : IsPlain "note") decimal)
        (.more (member space (by decide +kernel : IsPlain "y") (number (-1)))
          (.more (member space (by decide +kernel : IsPlain "x") (number 2))
            (.last (member space (by decide +kernel : IsPlain "type")
              (word (by decide +kernel : IsPlain "gem")))))))
    have goal := Json.Writes.object
      (.more (member bare (by decide +kernel : IsPlain "count") (number 2))
        (.last (member space (by decide +kernel : IsPlain "type")
          (word (by decide +kernel : IsPlain "collectGems")))))
    have note := Json.Writes.array (.last (.mk bare (.emptyArray bare) bare))
    have whole := Json.Writes.object
      (.more (member bare (by decide +kernel : IsPlain "note") note)
        (.more (member space (by decide +kernel : IsPlain "goal") goal)
          (.more (member space (by decide +kernel : IsPlain "elements")
              (.array (.last (.mk bare gem bare))))
            (.last (member space (by decide +kernel : IsPlain "size") (number 3))))))
    refine .of_writes whole (by decide +kernel) ?_
    exact .object (.given rfl) .leftOut .leftOut .leftOut
      (.given (.array (.cons
        (.object ⟨[("note", _)], by simp, List.perm_reverse.mp (.refl _)⟩) .nil)))
      (.given (.collectGems (List.perm_reverse.mp (.refl _))))
      ⟨[("note", _)], by simp, List.perm_reverse.mp (.refl _)⟩
  have invalid : level.validate = .error (.elementOffGrid ⟨.gem, ⟨2, -1⟩⟩) := by
    decide +kernel
  have ⟨exists_document, read⟩ := documents_are_read_back level nofun
  obtain ⟨same, loaded⟩ := read document written
  exact ⟨nofun, written, exists_document, same, loaded.trans (by rw [invalid]; rfl)⟩

end RobotPuzzle
