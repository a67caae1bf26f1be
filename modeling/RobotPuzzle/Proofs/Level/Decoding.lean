import RobotPuzzle.Proofs.Json.Magnitude
import RobotPuzzle.Proofs.Level.Descriptions

/-! A value that describes a level is taken apart to that level: first the fields of a record are
found among its members, then each field is understood.
-/

namespace RobotPuzzle.Level

open Document
open Json (Content Number Value)

-----------------------------------------------------------------------------------------
-- Fields
-----------------------------------------------------------------------------------------

variable {name : String} {names : List String} {field : Option Value}
variable {fields : List (Option Value)} {members : List (Content × Value)}

/-- What is given goes by one of the names, by recursion over names and fields. -/
theorem mem_names_of_mem_givenFields {member : String × Value}
    (h : member ∈ givenFields names fields)
    : member.1 ∈ names := by
  fun_induction givenFields names fields with
  | case1 name names value fields ih =>
      rcases List.mem_cons.mp h with rfl | behind
      · exact List.mem_cons_self
      · exact List.mem_cons_of_mem _ (ih behind)
  | case2 name names fields ih => exact List.mem_cons_of_mem _ (ih h)
  | case3 => cases h

/-- The first field counts among the further members as far as the others are concerned. -/
theorem Gives.tail (h : Gives (name :: names) (field :: fields) members) (apart : name ∉ names)
    : Gives names fields members := by
  obtain ⟨further, others, same⟩ := h
  have outside : ∀ member ∈ further, member.1 ∉ names := fun member listed known =>
    others member listed (List.mem_cons_of_mem _ known)
  cases field with
  | none => exact ⟨further, outside, same⟩
  | some value =>
      refine ⟨(name, value) :: further, List.forall_mem_cons.mpr ⟨apart, outside⟩, ?_⟩
      exact same.trans (List.perm_middle.symm.map _)

/-- The first field is found under its name, since nothing else has that name. -/
theorem Gives.member?_head (h : Gives (name :: names) (field :: fields) members)
    (apart : name ∉ names)
    : member? members name = some field := by
  obtain ⟨further, others, same⟩ := h
  have none_further : ∀ member ∈ further, member.1 ≠ name := fun member listed known =>
    others member listed (known ▸ List.mem_cons_self)
  have none_given : ∀ member ∈ givenFields names fields, member.1 ≠ name :=
    fun member listed known => apart (known ▸ mem_names_of_mem_givenFields listed)
  have nothing
      : ((givenFields names fields ++ further).map fun member =>
          ((some member.1, member.2) : Content × Value)).filter (·.1 == some name) = [] := by
    simp only [List.filter_eq_nil_iff, List.mem_map, List.mem_append]
    rintro _ ⟨member, listed | listed, rfl⟩
    · simpa using none_given member listed
    · simpa using none_further member listed
  have found := same.filter (·.1 == some name)
  cases field with
  | none =>
      rw [givenFields, nothing, List.perm_nil] at found
      rw [member?, found]
  | some value =>
      rw [givenFields, List.cons_append, List.map_cons,
        List.filter_cons_of_pos (by simp), nothing, List.perm_singleton] at found
      rw [member?, found]

/-- All fields are found under their names if no two names are the same, by induction over the
names.
-/
theorem Gives.mapM_member? (h : Gives names fields members) (apart : names.Nodup)
    (full : names.length = fields.length)
    : names.mapM (member? members) = some fields := by
  induction names generalizing fields with
  | nil =>
      obtain rfl := List.length_eq_zero_iff.mp full.symm
      rfl
  | cons name names ih =>
      obtain ⟨field, fields, rfl⟩ := List.exists_cons_of_length_eq_add_one full.symm
      obtain ⟨first, others⟩ := List.nodup_cons.mp apart
      rw [List.mapM_cons, h.member?_head first,
        ih (h.tail first) others (Nat.succ.inj full)]
      rfl

/-- The fields are found in an object that gives them. -/
theorem Gives.fields?_eq (h : Gives names fields members) (apart : names.Nodup)
    (full : names.length = fields.length)
    : fields? names (.object members) = some fields := by
  have readable : members.all (·.1.isSome) = true := by
    obtain ⟨further, -, same⟩ := h
    rw [List.all_eq_true]
    intro member listed
    obtain ⟨_, _, rfl⟩ := List.mem_map.mp (same.mem_iff.mp listed)
    rfl
  rw [fields?, if_pos readable, h.mapM_member? apart full]

-----------------------------------------------------------------------------------------
-- Plain values
-----------------------------------------------------------------------------------------

/-- A number is read back from its digits and its sign. -/
theorem integer?_ofInt (n : Int) : integer? (.ofInt n) = some n := by
  have digits : Text.digitsValue (Nat.toDigits 10 n.natAbs) = n.natAbs :=
    Nat.ofDigitChars_ten_toDigits
  simp only [Value.ofInt, integer?, Number.integer?, Option.isSome_none, Bool.or_self,
    Bool.false_eq_true, if_false, digits, Bool.not_eq_true', decide_eq_false_iff_not]
  split
  next positive => exact congrArg some (Int.natAbs_of_nonneg (Int.not_lt.mp positive))
  next negative =>
    rw [if_neg (by omega)]
    exact congrArg some (by omega)

theorem int32?_ofInt (n : Int32) : int32? (.ofInt n.toInt) = some n := by
  have low := n.le_toInt
  have high := n.toInt_lt
  rw [int32?, integer?_ofInt, Option.bind_eq_bind, Option.bind_some, if_pos (by omega),
    Int32.ofInt_toInt]

theorem word32?_ofInt (n : UInt32) : word32? (.ofInt n.toNat) = some n := by
  rw [word32?, integer?_ofInt, Option.bind_eq_bind, Option.bind_some, if_pos (by omega),
    Int.toNat_natCast]
  exact Text.word32?_eq_some_iff.mpr rfl

theorem word64?_ofInt (n : UInt64) : word64? (.ofInt n.toNat) = some n := by
  have high : n.toNat < 0x10000000000000000 := n.toNat_lt
  rw [word64?, integer?_ofInt, Option.bind_eq_bind, Option.bind_some, if_pos (by omega),
    Int.toNat_natCast, UInt64.ofNat_toNat]

theorem direction?_ofName (direction : Direction)
    : direction? (.ofName direction.name) = some direction := by
  cases direction <;> rfl

theorem kind?_ofName (kind : ElementKind)
    : choice? ElementKind.name ElementKind.all (.ofName kind.name) = some kind := by
  cases kind <;> rfl

-----------------------------------------------------------------------------------------
-- Positions and elements
-----------------------------------------------------------------------------------------

theorem DescribesPosition.position? {place : Position} {value : Value}
    (h : DescribesPosition place value)
    : position? value = some place := by
  obtain ⟨gives⟩ := h
  simp [Document.position?, gives.fields?_eq (by decide) rfl, int32?_ofInt]

theorem DescribesElement.element? {element : Element} {value : Value}
    (h : DescribesElement element value)
    : element? value = some element := by
  obtain ⟨gives⟩ := h
  simp [Document.element?, gives.fields?_eq (by decide) rfl, int32?_ofInt, kind?_ofName]

/-- Descriptions of elements are read one by one, in their order. -/
theorem DescribesElements.elements? {elements : List Element} {value : Value}
    (h : DescribesElements elements value)
    : elements? value = some elements := by
  obtain ⟨items⟩ := h
  rw [Document.elements?]
  induction items with
  | nil => rfl
  | cons head _ ih =>
      rw [List.mapM_cons, head.element?, ih]
      rfl

-----------------------------------------------------------------------------------------
-- Goals
-----------------------------------------------------------------------------------------

/-- A 32-bit word is far from too large for a double. -/
theorem fits_ofInt (room : Nat) (n : UInt32) : fits room (.ofInt n.toNat) = true := by
  have small : n.toNat < 0x100000000 := n.toNat_lt
  rw [Value.ofInt, fits, Int.natAbs_natCast, Json.isTooLarge_toDigits]
  · rfl
  · omega

/-- An object fits if its keys are readable and its values fit, by induction over its members. -/
theorem membersFit_iff {room : Nat} {members : List (Content × Value)}
    : membersFit room members = true
      ↔ ∀ member ∈ members, member.1.isSome = true ∧ fits room member.2 = true := by
  induction members with
  | nil => simp [membersFit]
  | cons member members ih => simp [membersFit, ih]

/-- A description of a goal is read as that goal: its type is found among its members wherever it
stands, and all of them fit.
-/
theorem DescribesGoal.optionalGoal? {goal : Option Goal} {value : Value}
    (h : DescribesGoal goal value)
    : optionalGoal? value = some goal := by
  cases h with
  | none => rfl
  | reachFlag => rfl
  | reachFlagSafely => rfl
  | @collectGems count members same =>
      have gives : Gives ["type", "count"]
          [some (.ofName "collectGems"), some (.ofInt count.toNat)] members :=
        ⟨[], by simp, same⟩
      have type := gives.member?_head (by decide)
      have amount := (gives.tail (by decide)).member?_head (by simp)
      have fit : membersFit goalRoom members = true := by
        rw [membersFit_iff]
        intro member listed
        have known := same.mem_iff.mp listed
        simp only [List.mem_cons, List.not_mem_nil, or_false] at known
        rcases known with rfl | rfl
        · exact ⟨rfl, rfl⟩
        · exact ⟨rfl, fits_ofInt goalRoom count⟩
      have understood : goal? (.object members) = some (.collectGems count) := by
        rw [goal?, fit, type]
        change goalOfMembers? "collectGems" members = _
        rw [goalOfMembers?, amount]
        change (word32? (.ofInt count.toNat)).bind (some ∘ Goal.collectGems) = _
        rw [word32?_ofInt]
        rfl
      rw [Document.optionalGoal?, understood, Option.map_some]
      nofun

-----------------------------------------------------------------------------------------
-- Levels
-----------------------------------------------------------------------------------------

/-- A field is understood whether it is written or left out. -/
theorem Tells.orDefault {α : Type} {default a : α} {is : α → Value → Prop}
    {read? : Value → Option α} {field : Option Value} (h : Tells default is a field)
    (understood : ∀ value, is a value → read? value = some a)
    : orDefault default read? field = some a := by
  cases h with
  | leftOut => rfl
  | given described => exact understood _ described

/-- A value is understood as the level that it describes. -/
theorem Describes.level? {level : Level} {value : Value} (h : Describes level value)
    : level? value = some level := by
  obtain @⟨_, place, heading, _, _, _, _, size, position, direction, energy, elements, goal,
    gives⟩ := h
  have found := gives.fields?_eq (by decide) rfl
  have hsize := size.orDefault fun _ same => same ▸ word64?_ofInt level.size
  have hposition : orDefault default position? place = some level.startPosition :=
    position.orDefault fun _ described => described.position?
  have hdirection : orDefault default direction? heading = some level.startDirection :=
    direction.orDefault fun _ same => same ▸ direction?_ofName level.startDirection
  have henergy := energy.orDefault fun _ same => same ▸ int32?_ofInt level.startEnergy
  have helements := elements.orDefault fun _ described => described.elements?
  have hgoal := goal.orDefault fun _ described => described.optionalGoal?
  rw [Document.level?, levelFields, found]
  simp [hsize, hposition, hdirection, henergy, helements, hgoal]

end RobotPuzzle.Level
