import RobotPuzzle.Proofs.Json.Completeness
import RobotPuzzle.Proofs.Json.Writing
import RobotPuzzle.Proofs.Text.Matches

/-! What is read as a value is in the grammar. Each scanner takes off a text what the grammar has
for it, and the reader keeps in its frames what has been written of the arrays and objects that
are open.
-/

namespace RobotPuzzle.Json

-----------------------------------------------------------------------------------------
-- Strings
-----------------------------------------------------------------------------------------

instance (c : Char) (n : Nat) : Decidable (IsHexDigit c n) :=
  inferInstanceAs (Decidable (n < 16 ∧ (c = n.digitChar ∨ c = n.digitChar.toUpper)))

/-- What is read as a hexadecimal digit is one of its value. Only ASCII characters are, and these
are all gone through.
-/
theorem isHexDigit_of_hexDigit? {c : Char} {n : Nat} (h : hexDigit? c = some n)
    : IsHexDigit c n := by
  have ascii : ∀ k < 0x80, ∀ n ∈ hexDigit? (Char.ofNat k), IsHexDigit (Char.ofNat k) n := by
    decide +kernel
  have small : c.toNat < 0x80 := by
    unfold hexDigit? at h
    split at h
    next digit => exact Nat.lt_of_le_of_lt (Char.isDigit_iff_toNat.mp digit).2 (by decide)
    split at h
    next lower => exact Nat.lt_of_le_of_lt (UInt32.le_iff_toNat_le.mp lower.2) (by decide)
    split at h
    next upper => exact Nat.lt_of_le_of_lt (UInt32.le_iff_toNat_le.mp upper.2) (by decide)
    cases h
  have known := ascii c.toNat small
  rw [Char.ofNat_toNat] at known
  exact known n h

theorem escapes_of_shortEscape? {letter c : Char} (h : shortEscape? letter = some c)
    : Escapes letter c := by
  unfold shortEscape? at h
  split at h
  all_goals cases h
  all_goals constructor

/-- Four digits that are read as a unit are its digits, so they write it. -/
theorem writesPieces_of_hexUnit? {a b c d : Char} {code : Nat} {text : List Char}
    {pieces : List Piece} (h : hexUnit? a b c d = some code)
    (behind : WritesPieces text pieces)
    : WritesPieces ('\\' :: 'u' :: a :: b :: c :: d :: text) (.unit code :: pieces) := by
  simp only [hexUnit?, Option.bind_eq_bind, Option.bind_eq_some_iff] at h
  obtain ⟨w, hw, x, hx, y, hy, z, hz, same⟩ := h
  have ha := isHexDigit_of_hexDigit? hw
  have hb := isHexDigit_of_hexDigit? hx
  have hc := isHexDigit_of_hexDigit? hy
  have hd := isHexDigit_of_hexDigit? hz
  have small : w < 16 ∧ x < 16 ∧ y < 16 ∧ z < 16 := ⟨ha.1, hb.1, hc.1, hd.1⟩
  have whole : ((w * 16 + x) * 16 + y) * 16 + z = code := Option.some.inj same
  have first : code / 0x1000 = w := by omega
  have second : code / 0x100 % 0x10 = x := by omega
  have third : code / 0x10 % 0x10 = y := by omega
  have fourth : code % 0x10 = z := by omega
  exact .unit (by rwa [first]) (by rwa [second]) (by rwa [third]) (by rwa [fourth]) behind

/-- A string is scanned as the pieces that it is written in, by induction over them. -/
theorem writesPieces_of_scanString {text rest : List Char} {pieces : List Piece}
    (h : scanString text = some (pieces, rest))
    : ∃ body, text = body ++ '"' :: rest ∧ WritesPieces body pieces := by
  fun_induction scanString text generalizing pieces rest with
  | case1 => cases h
  | case2 =>
      obtain ⟨rfl, rfl⟩ : [] = pieces ∧ _ = rest := by simpa using h
      exact ⟨[], rfl, .nil⟩
  | case3 a b c d text ih =>
      simp only [Option.bind_eq_bind, Option.bind_eq_some_iff, Prod.exists] at h
      obtain ⟨code, unit, behind, _, found, same⟩ := h
      obtain ⟨rfl, rfl⟩ : .unit code :: behind = pieces ∧ _ = rest := by simpa using same
      obtain ⟨body, rfl, written⟩ := ih found
      exact ⟨'\\' :: 'u' :: a :: b :: c :: d :: body, rfl,
        writesPieces_of_hexUnit? unit written⟩
  | case4 letter text _ ih =>
      simp only [Option.bind_eq_bind, Option.bind_eq_some_iff, Prod.exists] at h
      obtain ⟨c, escape, behind, _, found, same⟩ := h
      obtain ⟨rfl, rfl⟩ : .char c :: behind = pieces ∧ _ = rest := by simpa using same
      obtain ⟨body, rfl, written⟩ := ih found
      exact ⟨'\\' :: letter :: body, rfl, .escape (escapes_of_shortEscape? escape) written⟩
  | case5 => cases h
  | case6 c text notQuote _ _ notControl ih =>
      simp only [Option.bind_eq_bind, Option.bind_eq_some_iff, Prod.exists] at h
      obtain ⟨behind, _, found, same⟩ := h
      obtain ⟨rfl, rfl⟩ : .char c :: behind = pieces ∧ _ = rest := by simpa using same
      obtain ⟨body, rfl, written⟩ := ih found
      have plain : IsUnescaped c := {
        notControl := Nat.le_of_not_lt fun below =>
          notControl (Or.inl (UInt32.lt_iff_toNat_lt.mpr below))
        notQuote
        notBackslash := fun backslash => notControl (Or.inr backslash)
      }
      exact ⟨c :: body, rfl, .plain plain written⟩

/-- A string has the content that its pieces are joined to. -/
theorem writesString_of_scanString {text rest : List Char} {pieces : List Piece}
    (h : scanString text = some (pieces, rest))
    : ∃ name,
        '"' :: text = name ++ rest
        ∧ WritesString name ((joinPieces pieces).map String.ofList) := by
  obtain ⟨body, rfl, written⟩ := writesPieces_of_scanString h
  refine ⟨'"' :: body ++ ['"'], by simp, ?_⟩
  cases joined : joinPieces pieces with
  | none =>
      refine .unreadable written fun chars stand => ?_
      rw [stand.joinPieces] at joined
      cases joined
  | some chars => exact .readable written (standFor_of_joinPieces written.isBasic joined)

-----------------------------------------------------------------------------------------
-- Numbers
-----------------------------------------------------------------------------------------

theorem isDigits_of_scanDigits {text digits rest : List Char}
    (h : scanDigits text = some (digits, rest))
    : text = digits ++ rest ∧ IsDigits digits := by
  obtain ⟨same, nonempty, all, -⟩ := Text.run?_eq_some_iff.mp h
  exact ⟨same, nonempty, all⟩

/-- What is scanned as a whole number is one: where a zero stands in front, nothing more is scanned.
-/
theorem isWhole_of_scanWhole {text digits rest : List Char}
    (h : scanWhole text = some (digits, rest))
    : text = digits ++ rest ∧ IsWhole digits := by
  unfold scanWhole at h
  split at h
  · obtain ⟨rfl, rfl⟩ : ['0'] = digits ∧ _ = rest := by simpa using h
    exact ⟨rfl, ⟨by simp, by simp⟩, by simp⟩
  next other =>
    obtain ⟨rfl, isDigits⟩ := isDigits_of_scanDigits h
    refine ⟨rfl, isDigits, ?_⟩
    rintro more rfl
    exact absurd rfl (other _)

/-- What is scanned as a fraction writes it; without a point, that is nothing. -/
theorem writesFraction_of_scanFraction {text rest : List Char} {fraction : Option (List Char)}
    (h : scanFraction text = some (fraction, rest))
    : ∃ points, text = points ++ rest ∧ WritesFraction points fraction := by
  unfold scanFraction at h
  split at h
  · simp only [Option.map_eq_some_iff, Prod.exists] at h
    obtain ⟨digits, _, found, same⟩ := h
    obtain ⟨rfl, rfl⟩ : some digits = fraction ∧ _ = rest := by simpa using same
    obtain ⟨rfl, isDigits⟩ := isDigits_of_scanDigits found
    exact ⟨'.' :: digits, rfl, .point isDigits⟩
  · obtain ⟨rfl, rfl⟩ : none = fraction ∧ _ = rest := by simpa using h
    exact ⟨[], rfl, .absent⟩

/-- What is scanned as a power writes it, with the sign that was taken off. -/
theorem writesPower_of_scanPower {text rest : List Char} {power : Exponent}
    (h : scanPower text = some (power, rest))
    : ∃ written, text = written ++ rest ∧ WritesPower written power := by
  unfold scanPower at h
  split at h
  all_goals
    simp only [Option.map_eq_some_iff, Prod.exists] at h
    obtain ⟨digits, _, found, same⟩ := h
    obtain ⟨rfl, rfl⟩ : _ = power ∧ _ = rest := by simpa using same
    obtain ⟨rfl, isDigits⟩ := isDigits_of_scanDigits found
  · exact ⟨'-' :: digits, rfl, .minus isDigits⟩
  · exact ⟨'+' :: digits, rfl, .plus isDigits⟩
  · exact ⟨digits, rfl, .plain isDigits⟩

/-- What is scanned as an exponent writes it, with either letter. -/
theorem writesExponent_of_scanExponent {text rest : List Char} {exponent : Option Exponent}
    (h : scanExponent text = some (exponent, rest))
    : ∃ powers, text = powers ++ rest ∧ WritesExponent powers exponent := by
  unfold scanExponent at h
  split at h
  iterate 2
    simp only [Option.map_eq_some_iff, Prod.exists] at h
    obtain ⟨power, _, found, same⟩ := h
    obtain ⟨rfl, rfl⟩ : some power = exponent ∧ _ = rest := by simpa using same
    obtain ⟨written, rfl, writes⟩ := writesPower_of_scanPower found
    first
      | exact ⟨'e' :: written, rfl, .lower writes⟩
      | exact ⟨'E' :: written, rfl, .upper writes⟩
  obtain ⟨rfl, rfl⟩ : none = exponent ∧ _ = rest := by simpa using h
  exact ⟨[], rfl, .absent⟩

/-- The parts that are scanned one behind the other write a number, with the sign in front of them.
-/
theorem writesNumber_of_scanMagnitude {text rest sign : List Char} {negative : Bool}
    {number : Number} (h : scanMagnitude negative text = some (number, rest))
    (signed : WritesSign sign negative)
    : ∃ written, sign ++ text = written ++ rest ∧ WritesNumber written number := by
  simp only [scanMagnitude, Option.bind_eq_bind, Option.bind_eq_some_iff, Prod.exists] at h
  obtain ⟨whole, _, hwhole, fraction, _, hfraction, exponent, _, hexponent, same⟩ := h
  obtain ⟨rfl, rfl⟩ : _ = number ∧ _ = rest := by simpa using same
  obtain ⟨rfl, digits⟩ := isWhole_of_scanWhole hwhole
  obtain ⟨points, rfl, point⟩ := writesFraction_of_scanFraction hfraction
  obtain ⟨powers, rfl, power⟩ := writesExponent_of_scanExponent hexponent
  exact ⟨_, by simp only [List.append_assoc], .parts signed digits point power⟩

theorem writesNumber_of_scanNumber {text rest : List Char} {number : Number}
    (h : scanNumber text = some (number, rest))
    : ∃ written, text = written ++ rest ∧ WritesNumber written number := by
  unfold scanNumber at h
  split at h
  · exact writesNumber_of_scanMagnitude h .minus
  · exact writesNumber_of_scanMagnitude h .absent

-----------------------------------------------------------------------------------------
-- Tokens
-----------------------------------------------------------------------------------------

/-- The text is the token, with nothing before or behind it. -/
inductive Spells : List Char → Token → Prop
  | openArray : Spells ['['] .openArray
  | closeArray : Spells [']'] .closeArray
  | openObject : Spells ['\x7b'] .openObject
  | closeObject : Spells ['\x7d'] .closeObject
  | colon : Spells [':'] .colon
  | comma : Spells [','] .comma
  | scalar {text value} (h : Writes text value) : Spells text (.scalar value)

/-- What is scanned as a token spells it, by cases over what it begins with. -/
theorem spells_of_scanToken {text rest : List Char} {token : Token}
    (h : scanToken text = some (token, rest))
    : ∃ piece, text = piece ++ rest ∧ Spells piece token := by
  unfold scanToken at h
  split at h
  case h_10 =>
    simp only [Option.map_eq_some_iff, Prod.exists] at h
    obtain ⟨pieces, _, found, same⟩ := h
    obtain ⟨rfl, rfl⟩ : _ = token ∧ _ = rest := by simpa using same
    obtain ⟨name, split, written⟩ := writesString_of_scanString found
    exact ⟨name, split, .scalar (.string written)⟩
  case h_11 =>
    simp only [Option.map_eq_some_iff, Prod.exists] at h
    obtain ⟨number, _, found, same⟩ := h
    obtain ⟨rfl, rfl⟩ : _ = token ∧ _ = rest := by simpa using same
    obtain ⟨written, split, writes⟩ := writesNumber_of_scanNumber found
    exact ⟨written, split, .scalar (.number writes)⟩
  all_goals obtain ⟨rfl, rfl⟩ : _ = token ∧ _ = rest := by simpa using h
  · exact ⟨_, rfl, .openArray⟩
  · exact ⟨_, rfl, .closeArray⟩
  · exact ⟨_, rfl, .openObject⟩
  · exact ⟨_, rfl, .closeObject⟩
  · exact ⟨_, rfl, .colon⟩
  · exact ⟨_, rfl, .comma⟩
  · exact ⟨_, rfl, .scalar .null⟩
  · exact ⟨_, rfl, .scalar .true⟩
  · exact ⟨_, rfl, .scalar .false⟩

-----------------------------------------------------------------------------------------
-- Items and members at the end
-----------------------------------------------------------------------------------------

theorem IsLayout.append {left right : List Char} (hl : IsLayout left) (hr : IsLayout right)
    : IsLayout (left ++ right) := by
  intro c member
  rcases List.mem_append.mp member with first | second
  · exact hl c first
  · exact hr c second

theorem WritesSpaced.append {text space : List Char} {value : Value}
    (h : WritesSpaced text value) (layout : IsLayout space)
    : WritesSpaced (text ++ space) value := by
  obtain ⟨before, inside, behind⟩ := h
  rw [List.append_assoc]
  exact .mk before inside (behind.append layout)

/-- One more item may stand behind those that have been written, by recursion over these. -/
theorem WritesItems.snoc {text body : List Char} {items : List Value} {item : Value}
    (h : WritesItems text items) (last : WritesSpaced body item)
    : WritesItems (text ++ ',' :: body) (items ++ [item]) := by
  cases h with
  | last first => exact .more first (.last last)
  | more first behind =>
      rw [List.append_assoc]
      exact .more first (behind.snoc last)

/-- So may one more member. -/
theorem WritesMembers.snoc {text body : List Char} {members : List (Content × Value)}
    {member : Content × Value} (h : WritesMembers text members)
    (last : WritesMember body member)
    : WritesMembers (text ++ ',' :: body) (members ++ [member]) := by
  cases h with
  | last first => exact .more first (.last last)
  | more first behind =>
      rw [List.append_assoc]
      exact .more first (behind.snoc last)

-----------------------------------------------------------------------------------------
-- Open arrays and objects
-----------------------------------------------------------------------------------------

/-- A text of this kind, and then a bracket with more behind it. -/
def Opened (outer : List Char → Prop) (bracket : Char) (inner text : List Char) : Prop :=
  ∃ before space, text = before ++ (space ++ bracket :: inner) ∧ outer before ∧ IsLayout space

/-- Behind the text a value is due, inside these frames: it would be one more item, or the value
of one more member, behind what has been written of each.
-/
def Opens : List Frame → List Char → Prop
  | [], text => text = []
  | .array items :: outer, text =>
      ∃ inner,
        Opened (Opens outer) '[' inner text
        ∧ ∀ {body item},
            WritesSpaced body item → WritesItems (inner ++ body) (items.reverse ++ [item])
  | .object members key :: outer, text =>
      ∃ inner,
        Opened (Opens outer) '\x7b' inner text
        ∧ ∀ {body value},
            WritesSpaced body value
            → WritesMembers (inner ++ body) (members.reverse ++ [(key, value)])

variable {outer : List Char → Prop} {bracket : Char} {inner text space piece : List Char}

theorem Opened.start (h : outer text) (layout : IsLayout space)
    : Opened outer bracket [] (text ++ (space ++ [bracket])) :=
  ⟨text, space, rfl, h, layout⟩

/-- What is written behind an open bracket stands inside it. -/
theorem Opened.append (h : Opened outer bracket inner text) (more : List Char)
    : Opened outer bracket (inner ++ more) (text ++ more) := by
  obtain ⟨before, space, rfl, opens, layout⟩ := h
  exact ⟨before, space, by simp, opens, layout⟩

/-- What has been written from a bracket on is a value once it has been closed. -/
theorem Opened.close {tail : List Char} {value : Value} (h : Opened outer bracket inner text)
    (closed : Writes (bracket :: inner ++ tail) value)
    : ∃ before body, text ++ tail = before ++ body ∧ outer before ∧ WritesSpaced body value := by
  obtain ⟨before, space, rfl, opens, layout⟩ := h
  refine ⟨before, space ++ (bracket :: inner ++ tail), by simp, opens, ?_⟩
  simpa using WritesSpaced.mk layout closed isLayout_nil

-----------------------------------------------------------------------------------------
-- Reading
-----------------------------------------------------------------------------------------

/-- What has been written when the reader has come this far. -/
def Progress.HasRead : Progress → List Char → Prop
  | .valueDue outer, text => Opens outer text
  | .firstItem outer, text => Opened (Opens outer) '[' [] text
  | .firstKey outer, text => Opened (Opens outer) '\x7b' [] text
  | .keyDue outer members, text =>
      ∃ inner,
        Opened (Opens outer) '\x7b' inner text
        ∧ ∀ {body member},
            WritesMember body member
            → WritesMembers (inner ++ body) (members.reverse ++ [member])
  | .colonDue outer members key, text =>
      ∃ inner,
        Opened (Opens outer) '\x7b' inner text
        ∧ ∀ {space body value},
            IsLayout space
            → WritesSpaced body value
            → WritesMembers (inner ++ (space ++ ':' :: body)) (members.reverse ++ [(key, value)])
  | .complete value outer, text =>
      ∃ before body, text = before ++ body ∧ Opens outer before ∧ WritesSpaced body value

namespace Progress

/-- A token that begins a value where one is due has been written there, by cases over the token. -/
theorem HasRead.beginValue {frames : List Frame} {token : Token} {next : Progress}
    (h : Opens frames text) (layout : IsLayout space) (spelled : Spells piece token)
    (begins : beginValue frames token = some next)
    : next.HasRead (text ++ (space ++ piece)) := by
  cases spelled with
  | openArray =>
      obtain rfl := Option.some.inj begins
      exact .start h layout
  | openObject =>
      obtain rfl := Option.some.inj begins
      exact .start h layout
  | @scalar _ value written =>
      obtain rfl := Option.some.inj begins
      exact ⟨text, space ++ piece, rfl, h,
        by simpa using WritesSpaced.mk layout written isLayout_nil⟩
  | _ => cases begins

/-- Only a string begins a member, and the colon and the value are due behind it. -/
theorem HasRead.beginMember {frames : List Frame} {members : List (Content × Value)}
    {token : Token} {next : Progress} (h : (keyDue frames members).HasRead text)
    (layout : IsLayout space) (spelled : Spells piece token)
    (begins : beginMember frames members token = some next)
    : next.HasRead (text ++ (space ++ piece)) := by
  obtain ⟨inner, opened, more⟩ := h
  cases spelled with
  | scalar written =>
      cases written with
      | string named =>
          obtain rfl := Option.some.inj begins
          refine ⟨inner ++ (space ++ piece), opened.append _, ?_⟩
          intro gap body value behind inside
          simpa using more (.mk layout named behind inside)
      | _ => cases begins
  | _ => cases begins

/-- A comma or a bracket behind a value goes with the innermost frame. -/
theorem HasRead.goOn {frames : List Frame} {value : Value} {token : Token} {next : Progress}
    (h : (complete value frames).HasRead text) (layout : IsLayout space)
    (spelled : Spells piece token) (goes : goOn value frames token = some next)
    : next.HasRead (text ++ (space ++ piece)) := by
  obtain ⟨before, body, rfl, opens, written⟩ := h
  have spaced := written.append layout
  match frames, opens with
  | [], _ => cases spelled <;> cases goes
  | .array items :: frames, ⟨inner, opened, more⟩ =>
      have items_written := more spaced
      cases spelled with
      | comma =>
          obtain rfl := Option.some.inj goes
          refine ⟨inner ++ (body ++ space ++ [',']), by simpa using opened.append _, ?_⟩
          intro next item written
          simpa using items_written.snoc written
      | closeArray =>
          obtain rfl := Option.some.inj goes
          obtain ⟨front, value, same, outside, array⟩ :=
            (opened.append (body ++ space)).close (.array items_written)
          exact ⟨front, value, by simpa using same, outside, by simpa using array⟩
      | _ => cases goes
  | .object members key :: frames, ⟨inner, opened, more⟩ =>
      have members_written := more spaced
      cases spelled with
      | comma =>
          obtain rfl := Option.some.inj goes
          refine ⟨inner ++ (body ++ space ++ [',']), by simpa using opened.append _, ?_⟩
          intro next member written
          simpa using members_written.snoc written
      | closeObject =>
          obtain rfl := Option.some.inj goes
          obtain ⟨front, value, same, outside, object⟩ :=
            (opened.append (body ++ space)).close (.object members_written)
          exact ⟨front, value, by simpa using same, outside, by simpa using object⟩
      | _ => cases goes

/-- A token with layout in front of it is written behind what has been read, by cases over the
states of the reader.
-/
theorem HasRead.step {progress next : Progress} {token : Token} (h : progress.HasRead text)
    (layout : IsLayout space) (spelled : Spells piece token)
    (step : progress.step token = some next)
    : next.HasRead (text ++ (space ++ piece)) := by
  cases progress with
  | valueDue frames => exact beginValue h layout spelled step
  | firstItem frames =>
      have opened : Opened (Opens frames) '[' [] text := h
      have due : Opens (.array [] :: frames) text := ⟨[], opened, fun written => .last written⟩
      cases spelled with
      | closeArray =>
          obtain rfl := Option.some.inj step
          obtain ⟨front, value, same, outside, array⟩ :=
            (opened.append space).close (.emptyArray layout)
          exact ⟨front, value, by simpa using same, outside, array⟩
      | openArray => exact beginValue due layout .openArray step
      | openObject => exact beginValue due layout .openObject step
      | scalar written => exact beginValue due layout (.scalar written) step
      | _ => cases step
  | firstKey frames =>
      have opened : Opened (Opens frames) '\x7b' [] text := h
      have due : (keyDue frames []).HasRead text :=
        ⟨[], opened, fun written => .last written⟩
      cases spelled with
      | closeObject =>
          obtain rfl := Option.some.inj step
          obtain ⟨front, value, same, outside, object⟩ :=
            (opened.append space).close (.emptyObject layout)
          exact ⟨front, value, by simpa using same, outside, object⟩
      | scalar written => exact beginMember due layout (.scalar written) step
      | _ => cases step
  | keyDue frames members => exact beginMember h layout spelled step
  | colonDue frames members key =>
      obtain ⟨inner, opened, more⟩ := h
      cases spelled with
      | colon =>
          obtain rfl := Option.some.inj step
          refine ⟨inner ++ (space ++ [':']), opened.append _, ?_⟩
          intro body value written
          simpa using more layout written
      | _ => cases step
  | complete value frames => exact goOn h layout spelled step

end Progress

-----------------------------------------------------------------------------------------
-- Whole texts
-----------------------------------------------------------------------------------------

theorem isLayout_takeWhile (text : List Char) : IsLayout (text.takeWhile Text.isLayout) :=
  fun _ member => isLayout_iff.mp (List.mem_takeWhile_imp member)

/-- Where a text is not used up, a token is read first. -/
theorem Progress.run_eq_some_of_cons {progress last : Progress} {text begun : List Char}
    {c : Char} (behind : Text.skipLayout text = c :: begun)
    (run : progress.run text = some last)
    : ∃ token rest next,
        scanToken (c :: begun) = some (token, rest)
        ∧ progress.step token = some next
        ∧ next.run rest = some last := by
  rw [Progress.run, tokens_of_skipLayout_cons behind] at run
  obtain ⟨read, found, steps⟩ := Option.bind_eq_some_iff.mp run
  obtain ⟨⟨token, rest⟩, scanned, rest_read⟩ := Option.bind_eq_some_iff.mp found
  obtain ⟨later, tokens, rfl⟩ := Option.map_eq_some_iff.mp rest_read
  rw [List.foldlM_cons] at steps
  obtain ⟨next, step, steps⟩ := Option.bind_eq_some_iff.mp steps
  exact ⟨token, rest, next, scanned, step, by rw [Progress.run, tokens, Option.bind_some, steps]⟩

/-- All that the reader takes in is written, up to layout at the end. The recursion is over the
text that is left, which each token makes shorter.
-/
theorem Progress.HasRead.run {progress last : Progress} {text : List Char}
    (h : progress.HasRead text) (rest : List Char) (run : progress.run rest = some last)
    : ∃ read space, rest = read ++ space ∧ IsLayout space ∧ last.HasRead (text ++ read) := by
  have parts : rest.takeWhile Text.isLayout ++ Text.skipLayout rest = rest :=
    List.takeWhile_append_dropWhile
  have layout := isLayout_takeWhile rest
  generalize rest.takeWhile Text.isLayout = space at parts layout
  cases behind : Text.skipLayout rest with
  | nil =>
      rw [Progress.run, tokens_of_skipLayout_nil behind] at run
      obtain rfl : progress = last := Option.some.inj run
      rw [behind, List.append_nil] at parts
      exact ⟨[], space, parts.symm, layout, by simpa using h⟩
  | cons c begun =>
      obtain ⟨token, later, next, scanned, step, run⟩ := run_eq_some_of_cons behind run
      have shorter : later.length < rest.length := by
        have := length_scanToken scanned
        rw [← parts, behind, List.length_append]
        omega
      obtain ⟨piece, split, spelled⟩ := spells_of_scanToken scanned
      obtain ⟨read, last_space, rfl, last_layout, has_read⟩ :=
        (h.step layout spelled step).run later run
      refine ⟨space ++ piece ++ read, last_space, ?_, last_layout, by simpa using has_read⟩
      rw [← parts, behind, split]
      simp only [List.append_assoc]
termination_by rest.length

/-- What is read from a text is written there. -/
theorem writesSpaced_of_read? {text : List Char} {value : Value}
    (h : read? text = some value)
    : WritesSpaced text value := by
  rw [Progress.read?_eq] at h
  obtain ⟨last, run, done⟩ := Option.bind_eq_some_iff.mp h
  have nothing : (Progress.valueDue []).HasRead [] := rfl
  obtain ⟨read, space, rfl, layout, has_read⟩ := nothing.run text run
  match last, done with
  | .complete _ [], rfl =>
      obtain ⟨_, body, same, rfl, written⟩ := has_read
      rw [List.nil_append, List.nil_append] at same
      exact same ▸ written.append layout

/-- The reader takes the texts of the grammar, each as what it writes, and no others. -/
theorem read?_eq_some_iff {text : List Char} {value : Value}
    : read? text = some value ↔ WritesSpaced text value :=
  ⟨writesSpaced_of_read?, read?_of_writes⟩

/-- A text writes one value at most. -/
theorem WritesSpaced.unique {text : List Char} {first second : Value}
    (hf : WritesSpaced text first) (hs : WritesSpaced text second)
    : first = second :=
  Option.some.inj ((read?_of_writes hf).symm.trans (read?_of_writes hs))

end RobotPuzzle.Json
