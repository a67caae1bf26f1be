import RobotPuzzle.Proofs.Json.Grammar

/-! Values that can be written: arrays and objects can be if their parts can. -/

namespace RobotPuzzle.Json

/-- Some text writes the value. -/
def Writable (value : Value) : Prop :=
  ∃ text, Writes text value

-----------------------------------------------------------------------------------------
-- Numbers and names
-----------------------------------------------------------------------------------------

/-- Only zero is written with a zero in front, by induction over the digits. -/
theorem eq_zero_of_toDigits_eq_cons {n : Nat} {digits : List Char}
    (h : Nat.toDigits 10 n = '0' :: digits)
    : n = 0 := by
  induction n using Nat.strongRecOn generalizing digits with
  | ind n ih =>
      rcases Nat.lt_or_ge n 10 with small | large
      · rw [Nat.toDigits_of_lt_base small] at h
        exact (by decide : ∀ k < 10, k.digitChar = '0' → k = 0) n small (List.cons.inj h).1
      · rw [Nat.toDigits_of_base_le (by decide) large] at h
        obtain ⟨c, behind, same⟩ := List.exists_cons_of_ne_nil
          (Nat.toDigits_ne_nil : Nat.toDigits 10 (n / 10) ≠ [])
        rw [same, List.cons_append] at h
        have zero := ih (n / 10) (by omega) (same.trans (by rw [(List.cons.inj h).1]))
        omega

/-- The decimal digits of a number are a whole number, for none but zero has a zero in front. -/
theorem isWhole_toDigits (n : Nat) : IsWhole (Nat.toDigits 10 n) where
  nonempty := Nat.toDigits_ne_nil
  digits _ member := Nat.isDigit_of_mem_toDigits (by decide) (by decide) member
  leading digits same := by
    obtain rfl := eq_zero_of_toDigits_eq_cons same
    exact (List.cons.inj same).2.symm

/-- An integer is written as its digits, behind a minus sign if it is negative. -/
theorem writesNumber_ofInt (n : Int)
    : WritesNumber ((if n < 0 then ['-'] else []) ++ Nat.toDigits 10 n.natAbs ++ [] ++ [])
        ⟨decide (n < 0), Nat.toDigits 10 n.natAbs, none, none⟩ := by
  refine .parts ?_ (isWhole_toDigits _) .absent .absent
  split
  next negative => simpa [negative] using WritesSign.minus
  next positive => simpa [positive] using WritesSign.absent

theorem writable_ofInt (n : Int) : Writable (.ofInt n) :=
  ⟨_, .number (writesNumber_ofInt n)⟩

/-- All characters may stand in a string as they are. -/
def IsPlain (name : String) : Prop :=
  ∀ c ∈ name.toList, IsUnescaped c

instance (c : Char) : Decidable (IsUnescaped c) :=
  decidable_of_iff (' '.toNat ≤ c.toNat ∧ c ≠ '"' ∧ c ≠ '\\')
    ⟨fun ⟨a, b, c⟩ => ⟨a, b, c⟩, fun ⟨a, b, c⟩ => ⟨a, b, c⟩⟩

instance (name : String) : Decidable (IsPlain name) :=
  List.decidableBAll IsUnescaped name.toList

/-- Plain characters are written as themselves, by induction over them. -/
theorem writesPieces_map_char {chars : List Char} (h : ∀ c ∈ chars, IsUnescaped c)
    : WritesPieces chars (chars.map .char) := by
  induction chars with
  | nil => exact .nil
  | cons c chars ih =>
      obtain ⟨first, others⟩ := List.forall_mem_cons.mp h
      exact .plain first (ih others)

theorem standFor_map_char (chars : List Char) : StandFor (chars.map .char) chars := by
  induction chars with
  | nil => exact .nil
  | cons c chars ih => exact .char c ih

/-- A plain name is written between quotes. -/
theorem writesString_of_isPlain {name : String} (h : IsPlain name)
    : WritesString ('"' :: name.toList ++ ['"']) (some name) := by
  simpa using WritesString.readable (writesPieces_map_char h) (standFor_map_char name.toList)

theorem writable_ofName {name : String} (plain : IsPlain name) : Writable (.ofName name) :=
  ⟨_, .string (writesString_of_isPlain plain)⟩

-----------------------------------------------------------------------------------------
-- Arrays and objects
-----------------------------------------------------------------------------------------

theorem isLayout_nil : IsLayout [] :=
  nofun

theorem Writes.spaced {text : List Char} {value : Value} (h : Writes text value)
    : WritesSpaced text value := by
  simpa using WritesSpaced.mk isLayout_nil h isLayout_nil

/-- Items that can be written can be written with commas between them, by induction over those
behind the first.
-/
theorem exists_writesItems {item : Value} {items : List Value} (first : Writable item)
    (others : ∀ item ∈ items, Writable item)
    : ∃ text, WritesItems text (item :: items) := by
  obtain ⟨text, written⟩ := first
  induction items generalizing item text with
  | nil => exact ⟨text, .last written.spaced⟩
  | cons next items ih =>
      obtain ⟨⟨behind, nextWritten⟩, more⟩ := List.forall_mem_cons.mp others
      obtain ⟨rest, writtenRest⟩ := ih more behind nextWritten
      exact ⟨_, .more written.spaced writtenRest⟩

/-- An array can be written if its items can; an empty one needs layout only. -/
theorem writable_array {items : List Value} (h : ∀ item ∈ items, Writable item)
    : Writable (.array items) := by
  cases items with
  | nil => exact ⟨_, .emptyArray isLayout_nil⟩
  | cons item items =>
      obtain ⟨first, others⟩ := List.forall_mem_cons.mp h
      obtain ⟨text, written⟩ := exists_writesItems first others
      exact ⟨_, .array written⟩

/-- A member with a plain name and a value that can be written. -/
def WritableMember (member : Content × Value) : Prop :=
  ∃ text, WritesMember text member

theorem writableMember {name : String} {value : Value} (plain : IsPlain name)
    (h : Writable value)
    : WritableMember (some name, value) := by
  obtain ⟨text, written⟩ := h
  exact ⟨_, .mk isLayout_nil (writesString_of_isPlain plain) isLayout_nil written.spaced⟩

/-- Members can be written with commas between them, in the same way. -/
theorem exists_writesMembers {member : Content × Value} {members : List (Content × Value)}
    (first : WritableMember member) (others : ∀ member ∈ members, WritableMember member)
    : ∃ text, WritesMembers text (member :: members) := by
  obtain ⟨text, written⟩ := first
  induction members generalizing member text with
  | nil => exact ⟨text, .last written⟩
  | cons next members ih =>
      obtain ⟨⟨behind, nextWritten⟩, more⟩ := List.forall_mem_cons.mp others
      obtain ⟨rest, writtenRest⟩ := ih more behind nextWritten
      exact ⟨_, .more written writtenRest⟩

/-- An object can be written if its members can. -/
theorem writable_object {members : List (Content × Value)}
    (h : ∀ member ∈ members, WritableMember member)
    : Writable (.object members) := by
  cases members with
  | nil => exact ⟨_, .emptyObject isLayout_nil⟩
  | cons member members =>
      obtain ⟨first, others⟩ := List.forall_mem_cons.mp h
      obtain ⟨text, written⟩ := exists_writesMembers first others
      exact ⟨_, .object written⟩

end RobotPuzzle.Json
