import Aeon.JsonReading

namespace Aeon.Json

open List (append_assoc cons_append length_append length_cons length_nil
  mem_cons_of_mem mem_cons_self mem_singleton nil_append)

/-!
# A dumped value is a source

What `json.dumps` writes is in the reader's grammar, so the reader gives it back.
-/

/-! ## Strings -/

theorem hex4_digits
    {unit : Nat}
    (small : unit < 0x10000) :
    Hex4 ((unicodeEscape unit).drop 2) unit := by
  have digit (value : Nat) : hexValue (hexDigit (value % 0x10)) =
      some (value % 0x10) :=
    hexValue_hexDigit _ (Nat.mod_lt _ (by decide))
  have lead : hexValue (hexDigit (unit / 0x1000)) = some (unit / 0x1000) :=
    hexValue_hexDigit _ (by omega)
  have spells := Hex4.digits lead (digit (unit / 0x100)) (digit (unit / 0x10))
    (digit unit)
  have value : ((unit / 0x1000 * 16 + unit / 0x100 % 0x10) * 16 +
      unit / 0x10 % 0x10) * 16 + unit % 0x10 = unit := by
    omega
  rwa [value] at spells

theorem StringBody.escapeChar
    (char : Char)
    {body text : Bytes}
    (rest : StringBody body text) :
    StringBody (escapeChar char ++ body) (String.utf8EncodeChar char ++ text) := by
  have valid : char.toNat < 0xd800 ∨
      (0xdfff < char.toNat ∧ char.toNat < 0x110000) := char.valid
  have ascii {value : Nat} (same : char.toNat = value) (small : value ≤ 0x7f) :
      String.utf8EncodeChar char = [UInt8.ofNat value] := by
    rw [← codePointBytes_toNat, same, codePointBytes, if_pos small]
  have simple {escaped : UInt8} {value : Nat} (same : char.toNat = value)
      (small : value ≤ 0x7f)
      (escape : simpleEscape escaped = some (UInt8.ofNat value)) :
      StringBody (0x5c :: escaped :: body) (String.utf8EncodeChar char ++ text) := by
    rw [ascii same small]
    exact .simple escape rest
  unfold Json.escapeChar
  simp only
  split
  next same => exact simple same (by decide) (by decide)
  split
  next same => exact simple same (by decide) (by decide)
  split
  next same => exact simple same (by decide) (by decide)
  split
  next same => exact simple same (by decide) (by decide)
  split
  next same => exact simple same (by decide) (by decide)
  split
  next same => exact simple same (by decide) (by decide)
  split
  next same => exact simple same (by decide) (by decide)
  split
  next unescaped unquoted _ _ _ _ _ printable =>
    have value : (UInt8.ofNat char.toNat).toNat = char.toNat := by
      rw [UInt8.toNat_ofNat']
      omega
    rw [ascii rfl (by omega)]
    refine .plain ?_ ?_ ?_ rest
    · rw [UInt8.lt_iff_toNat_lt, value]
      exact Nat.not_lt.mpr printable.1
    · intro same
      rw [same] at value
      exact unquoted value.symm
    · intro same
      rw [same] at value
      exact unescaped value.symm
  split
  next basic =>
    -- No scalar value is a surrogate.
    have single : Unpaired char.toNat body := by
      intro isHigh
      simp only [isHighSurrogate, Bool.and_eq_true, decide_eq_true_eq] at isHigh
      omega
    rw [← unpaired_toNat]
    exact .unicode (hex4_digits basic) single rest
  next astral =>
    have isHigh : isHighSurrogate (0xd800 + (char.toNat - 0x10000) / 0x400) = true := by
      simp only [isHighSurrogate, Bool.and_eq_true, decide_eq_true_eq]
      omega
    have isLow : isLowSurrogate (0xdc00 + (char.toNat - 0x10000) % 0x400) = true := by
      simp only [isLowSurrogate, Bool.and_eq_true, decide_eq_true_eq]
      omega
    have spelled := StringBody.pair (hex4_digits (by omega)) isHigh
      (hex4_digits (by omega)) isLow rest
    have joined : 0x10000 + (0xd800 + (char.toNat - 0x10000) / 0x400 - 0xd800) * 0x400 +
        (0xdc00 + (char.toNat - 0x10000) % 0x400 - 0xdc00) = char.toNat := by
      omega
    rw [joined, unpaired_toNat] at spelled
    exact spelled

theorem stringBody_text (text : List Char) :
    StringBody (text.flatMap escapeChar) (Utf8.encode text) := by
  induction text with
  | nil => exact .done
  | cons char text ih =>
    rw [List.flatMap_cons, Utf8.encode_cons]
    exact ih.escapeChar char

/-! ## Numbers -/

/-- A dumped integer is the literal of a number. -/
theorem numberText_decimal (value : Nat) : NumberText (decimal value) := by
  obtain ⟨first, others, shape, zero⟩ := decimal_head value
  have whole : WholePart (decimal value) := by
    by_cases isZero : first = 0x30
    · rw [shape, zero isZero, isZero]
      exact .zero
    · refine .digits ⟨decimal_digits value, by simp [shape]⟩ ?_
      simpa [shape] using isZero
  simpa using NumberText.parts (Or.inl rfl) whole .absent .absent

/-! ## Values -/

/-- The elements, their blanks and the line break in front of the bracket. -/
theorem exists_items
    (level : Nat)
    (first : PythonValue)
    (others : List PythonValue)
    (each : ∀ element ∈ first :: others,
      Source (dumps (level + 1) element) element.toJson) :
    ∃ items : List Item,
      items ≠ [] ∧ (∀ item ∈ items, item.Spaced) ∧
        (∀ item ∈ items, Source item.text item.value) ∧
        items.map Item.value = elementsToJson (first :: others) ∧
        separated (items.map Item.source) =
          newline (level + 1) ++ (dumps (level + 1) first ++
            (dumpElements (level + 1) others ++ newline level)) := by
  have spaced := blank_newline (level + 1)
  induction others generalizing first with
  | nil =>
    refine ⟨[⟨newline (level + 1), dumps (level + 1) first, newline level,
      first.toJson⟩], by simp, ?_, ?_, rfl, by simp [separated, Item.source, dumpElements]⟩
    · simpa using ⟨spaced, blank_newline level⟩
    · simpa using each first mem_cons_self
  | cons second more ih =>
    obtain ⟨items, nonempty, blanks, sources, values, text⟩ :=
      ih second fun element listed =>
        each element (mem_cons_of_mem first listed)
    refine ⟨⟨newline (level + 1), dumps (level + 1) first, [], first.toJson⟩ :: items,
      by simp, ?_, ?_, by simp [values, elementsToJson], ?_⟩
    · exact List.forall_mem_cons.mpr ⟨⟨spaced, List.forall_mem_nil _⟩, blanks⟩
    · exact List.forall_mem_cons.mpr ⟨each first mem_cons_self, sources⟩
    · obtain ⟨item, items, rfl⟩ := List.exists_cons_of_ne_nil nonempty
      rw [List.map_cons, List.map_cons, separated, ← List.map_cons, text]
      simp [Item.source, dumpElements]

/-- The members, their blanks and the line break in front of the brace. -/
theorem exists_members
    (level : Nat)
    (first : List Char × PythonValue)
    (others : List (List Char × PythonValue))
    (each : ∀ member ∈ first :: others,
      Source (dumps (level + 1) member.2) member.2.toJson) :
    ∃ members : List Member,
      members ≠ [] ∧ (∀ member ∈ members, member.Spaced) ∧
        (∀ member ∈ members, Source member.item.text member.item.value) ∧
        members.map Member.entry = membersToJson (first :: others) ∧
        members.map Member.key =
          ((first :: others).map Prod.fst).map Utf8.encode ∧
        separated (members.map Member.source) =
          newline (level + 1) ++ (encodeString first.1 ++ (bytes ": " ++
            (dumps (level + 1) first.2 ++
              (dumpMembers (level + 1) others ++ newline level)))) := by
  have spaced := blank_newline (level + 1)
  induction others generalizing first with
  | nil =>
    refine ⟨[⟨newline (level + 1), first.1.flatMap escapeChar, Utf8.encode first.1,
      [], ⟨[0x20], dumps (level + 1) first.2, newline level, first.2.toJson⟩⟩],
      by simp, ?_, ?_, rfl, rfl, ?_⟩
    · exact List.forall_mem_singleton.mpr ⟨spaced, stringBody_text first.1,
        List.forall_mem_nil _, blank_space, blank_newline level⟩
    · exact List.forall_mem_singleton.mpr (each first mem_cons_self)
    · simp [separated, Member.source, Item.source, dumpMembers, encodeString,
        bytes_colon]
  | cons second more ih =>
    obtain ⟨members, nonempty, blanks, sources, entries, keys, text⟩ :=
      ih second fun member listed =>
        each member (mem_cons_of_mem first listed)
    refine ⟨⟨newline (level + 1), first.1.flatMap escapeChar, Utf8.encode first.1,
      [], ⟨[0x20], dumps (level + 1) first.2, [], first.2.toJson⟩⟩ :: members,
      by simp, ?_, ?_, by simp [entries, membersToJson, Member.entry],
      by simp [keys], ?_⟩
    · exact List.forall_mem_cons.mpr ⟨⟨spaced, stringBody_text first.1,
        List.forall_mem_nil _, blank_space, List.forall_mem_nil _⟩, blanks⟩
    · exact List.forall_mem_cons.mpr ⟨each first mem_cons_self, sources⟩
    · obtain ⟨member, members, rfl⟩ := List.exists_cons_of_ne_nil nonempty
      rw [List.map_cons, List.map_cons, separated, ← List.map_cons, text]
      simp [Member.source, Item.source, dumpMembers, encodeString, bytes_colon]

theorem ElementsExact.mem
    {elements : List PythonValue}
    (exact : ElementsExact elements)
    {element : PythonValue}
    (listed : element ∈ elements) :
    element.Exact := by
  induction elements with
  | nil => exact absurd listed (by simp)
  | cons first rest ih =>
    rcases List.mem_cons.mp listed with rfl | later
    · exact exact.1
    · exact ih exact.2 later

theorem MembersExact.mem
    {members : List (List Char × PythonValue)}
    (exact : MembersExact members)
    {member : List Char × PythonValue}
    (listed : member ∈ members) :
    member.2.Exact := by
  induction members with
  | nil => exact absurd listed (by simp)
  | cons first rest ih =>
    rcases List.mem_cons.mp listed with rfl | later
    · exact exact.1
    · exact ih exact.2 later

theorem PythonValue.Exact.source :
    ∀ {value : PythonValue}, value.Exact →
      ∀ level, Source (dumps level value) value.toJson
  | .int value, small, _ => by
    have small : value < 2 ^ 53 := small
    refine .number (numberText_decimal value) ?_
    show stod (decimal value) = _
    rw [stod, decimalValue_decimal, Binary64.nearest_natCast small]
  | .str text, _, _ => .string (stringBody_text text)
  | .list [], _, _ => .emptyArray (show Blank [] from nofun)
  | .dict [], _, _ => .emptyObject (show Blank [] from nofun)
  | .list (first :: others), exact, level => by
    have exact : ElementsExact (first :: others) := exact
    obtain ⟨items, nonempty, blanks, sources, values, text⟩ :=
      exists_items level first others fun element listed =>
        (exact.mem listed).source (level + 1)
    have isSource := Source.array nonempty blanks sources
    rw [values, text] at isSource
    simpa [dumps, PythonValue.toJson] using isSource
  | .dict (first :: others), exact, level => by
    have exact : MembersExact (first :: others) ∧
      ((first :: others).map Prod.fst).Nodup := exact
    obtain ⟨members, nonempty, blanks, sources, entries, keys, text⟩ :=
      exists_members level first others fun member listed =>
        (exact.1.mem listed).source (level + 1)
    have isSource := Source.object nonempty blanks
      (by rw [keys]; exact exact.2.map Utf8.encode_injective) sources
    rw [entries, text] at isSource
    simpa [dumps, PythonValue.toJson] using isSource
termination_by value => sizeOf value
decreasing_by
  · have := List.sizeOf_lt_of_mem listed
    simp only [PythonValue.list.sizeOf_spec]
    omega
  · have := List.sizeOf_lt_of_mem listed
    obtain ⟨key, value⟩ := member
    simp only [PythonValue.dict.sizeOf_spec]
    simp only [Prod.mk.sizeOf_spec] at this
    omega

theorem parse_dumps
    {value : PythonValue}
    (exact : value.Exact) :
    parse (dumps 0 value) = .ok value.toJson :=
  (exact.source 0).parse

end Aeon.Json
