import Aeon.JsonSources

namespace Aeon.Json

open List (append_assoc cons_append length_append length_cons length_nil map_cons
  mem_cons_of_mem mem_cons_self nil_append singleton_append)

/-!
# Sources are read wherever they stand

The reader gives the value of every source back, between blanks and in front of
anything a number may end at.  Two nested calls read at least one byte between them,
so twice the length of the source is depth enough.
-/

/-- A value does not start with a blank or a closing bracket. -/
theorem Source.head
    {text : Bytes}
    {value : JsonValue}
    (isSource : Source text value) :
    ∃ first rest,
      text = first :: rest ∧ isWhitespace first = Bool.false ∧ first ≠ 0x5d ∧
        first ≠ 0x7d := by
  cases isSource with
  | null => exact ⟨_, _, rfl, by decide⟩
  | true => exact ⟨_, _, rfl, by decide⟩
  | false => exact ⟨_, _, rfl, by decide⟩
  | number isNumber rounds =>
    obtain ⟨first, rest, shape, starts⟩ := isNumber.head
    refine ⟨first, rest, shape, ?_⟩
    rcases starts with rfl | digit
    · decide
    · have other {byte : UInt8} (letter : isDigit byte = Bool.false) :
          first ≠ byte := by
        rintro rfl
        simp [letter] at digit
      refine ⟨?_, other (by decide), other (by decide)⟩
      by_contra blank
      simp only [isWhitespace, Bool.not_eq_false, Bool.or_eq_true,
        decide_eq_true_eq] at blank
      rcases blank with ((rfl | rfl) | rfl) | rfl <;>
        exact absurd digit (by decide)
  | string => exact ⟨_, _, rfl, by decide⟩
  | emptyArray => exact ⟨_, _, rfl, by decide⟩
  | array => exact ⟨_, _, rfl, by decide⟩
  | emptyObject => exact ⟨_, _, rfl, by decide⟩
  | object => exact ⟨_, _, rfl, by decide⟩

/-- The reader gives the value back, wherever its text stands. -/
def Reads
    (text : Bytes)
    (value : JsonValue) : Prop :=
  ∀ depth position lead rest,
    Blank lead → Stops rest → 2 * text.length ≤ depth →
      parseValue depth ⟨position, lead ++ (text ++ rest)⟩ =
        .ok (value, ⟨position + lead.length + text.length, rest⟩)

/-! ## Elements -/

section Elements

variable
    {items : List Item}
    (spaced : ∀ item ∈ items, item.Spaced)
    (reads : ∀ item ∈ items, Reads item.text item.value)

include spaced reads

/-- The elements of an array are read one by one. -/
theorem parseElements_reads
    (nonempty : items ≠ [])
    {depth : Nat}
    (position : Nat)
    (values : List JsonValue)
    (rest : Bytes)
    (enough :
      2 * (separated (items.map Item.source)).length < depth) :
    parseElements depth values
        ⟨position, separated (items.map Item.source) ++ 0x5d :: rest⟩ =
      .ok (values ++ items.map Item.value,
        ⟨position + (separated (items.map Item.source)).length + 1,
          rest⟩) := by
  induction items generalizing depth position values with
  | nil => exact absurd rfl nonempty
  | cons item items ih =>
    obtain ⟨depth, rfl⟩ : ∃ fewer, depth = fewer + 1 :=
      ⟨depth - 1, by omega⟩
    have itemSpaced := spaced item mem_cons_self
    have readItem :=
      reads item mem_cons_self depth position item.lead
    cases items with
    | nil =>
      have length :
          (separated ([item].map Item.source)).length =
            item.lead.length + item.text.length + item.trail.length := by
        simp [separated, Item.source, Nat.add_assoc]
      rw [length] at enough
      have value :=
        readItem (item.trail ++ 0x5d :: rest) itemSpaced.lead
          (itemSpaced.trail.stops (by decide)) (by omega)
      have text :
          separated ([item].map Item.source) ++ 0x5d :: rest =
            item.lead ++ (item.text ++ (item.trail ++ 0x5d :: rest)) := by
        simp [separated, Item.source]
      rw [text, parseElements, value, ok_bind]
      simp only [skipWhitespace_blank _ itemSpaced.trail rest
        (show isWhitespace 0x5d = false by decide), List.head?_cons,
        if_true, Cursor.skip_one, length]
      simp only [map_cons, List.map_nil, Except.ok.injEq,
        Prod.mk.injEq, Cursor.mk.injEq, true_and, and_true]
      omega
    | cons second others =>
      have length :
          (separated ((item :: second :: others).map
            Item.source)).length =
            item.lead.length + item.text.length + item.trail.length + 1 +
              (separated ((second :: others).map Item.source)).length := by
        simp [separated, Item.source]
        omega
      rw [length] at enough ⊢
      have behind :=
        ih
          (fun other member =>
            spaced other (mem_cons_of_mem item member))
          (fun other member =>
            reads other (mem_cons_of_mem item member))
          (by simp)
          (position + item.lead.length + item.text.length +
            item.trail.length + 1)
          (values ++ [item.value])
          (by omega :
            2 * (separated ((second :: others).map
              Item.source)).length < depth)
      have value :=
        readItem
          (item.trail ++ 0x2c ::
            (separated ((second :: others).map Item.source) ++
              0x5d :: rest))
          itemSpaced.lead (itemSpaced.trail.stops (by decide)) (by omega)
      have text :
          separated ((item :: second :: others).map Item.source) ++
              0x5d :: rest =
            item.lead ++ (item.text ++ (item.trail ++ 0x2c ::
              (separated ((second :: others).map Item.source) ++
                0x5d :: rest))) := by
        simp [separated, Item.source]
      rw [text, parseElements, value, ok_bind]
      simp only [skipWhitespace_blank _ itemSpaced.trail _
        (show isWhitespace 0x2c = false by decide), List.head?_cons,
        show ¬ (some (0x2c : UInt8) = some 0x5d) by decide, if_false,
        expect_cons, ok_bind, behind]
      simp only [map_cons, append_assoc, cons_append,
        nil_append, Except.ok.injEq, Prod.mk.injEq, Cursor.mk.injEq,
        true_and, and_true]
      omega

end Elements

/-! ## Members -/

theorem lookup_none
    {values : List (Bytes × JsonValue)}
    {key : Bytes}
    (absent : key ∉ values.map Prod.fst) :
    values.lookup key = none := by
  rw [List.lookup_eq_none_iff]
  intro entry listed
  have other : key ≠ entry.1 := by
    rintro rfl
    exact absent (List.mem_map_of_mem listed)
  simpa using other

section Members

variable
    {members : List Member}
    (spaced : ∀ member ∈ members, member.Spaced)
    (reads : ∀ member ∈ members, Reads member.item.text member.item.value)

theorem Member.source_length
    (member : Member) :
    member.source.length =
      member.lead.length + member.name.length + member.gap.length +
        member.item.lead.length + member.item.text.length +
        member.item.trail.length + 3 := by
  simp [Member.source, Item.source]
  omega

theorem Member.reads_value
    {member : Member}
    (isSpaced : member.Spaced)
    (readsValue : Reads member.item.text member.item.value)
    {depth : Nat}
    {byte : UInt8}
    (position : Nat)
    (values : List (Bytes × JsonValue))
    (rest : Bytes)
    (ends : isDigit byte = false ∧ byte ≠ 0x2e ∧ byte ≠ 0x65 ∧ byte ≠ 0x45)
    (visible : isWhitespace byte = false)
    (fresh : member.key ∉ values.map Prod.fst)
    (enough : 2 * member.item.text.length ≤ depth) :
    parseMembers (depth + 1) values
        ⟨position, member.source ++ byte :: rest⟩ =
      if byte = 0x7d then
        .ok (values ++ [member.entry],
          ⟨position + member.source.length + 1, rest⟩)
      else
        expect ⟨position + member.source.length, byte :: rest⟩ 0x2c >>=
          parseMembers depth (values ++ [member.entry]) := by
  have text :
      member.source ++ byte :: rest =
        member.lead ++ 0x22 :: (member.name ++ 0x22 :: (member.gap ++
          0x3a :: (member.item.lead ++ (member.item.text ++
            (member.item.trail ++ byte :: rest))))) := by
    simp [Member.source, Item.source]
  have value :=
    readsValue depth
      (position + member.lead.length + member.name.length + 2 +
        member.gap.length + 1)
      member.item.lead (member.item.trail ++ byte :: rest)
      isSpaced.item.lead (isSpaced.item.trail.stops ends) enough
  have length :
      position + member.lead.length + member.name.length + 2 +
          member.gap.length + 1 + member.item.lead.length +
          member.item.text.length + member.item.trail.length =
        position + member.source.length := by
    rw [member.source_length]
    omega
  rw [text, parseMembers]
  simp only [skipWhitespace_blank _ isSpaced.lead _
    (show isWhitespace 0x22 = false by decide), List.head?_cons, ne_eq,
    not_true, if_false, isSpaced.spells.parseString, ok_bind,
    skipWhitespace_blank _ isSpaced.gap _
    (show isWhitespace 0x3a = false by decide), expect_cons, value,
    lookup_none fresh, Option.isSome_none, Bool.false_eq_true,
    skipWhitespace_blank _ isSpaced.item.trail _ visible, length,
    Option.some.injEq, Cursor.skip_one, Member.entry]

include spaced reads

/-- The members of an object are read one by one. -/
theorem parseMembers_reads
    (nonempty : members ≠ [])
    {depth : Nat}
    (position : Nat)
    (values : List (Bytes × JsonValue))
    (unique :
      (values.map Prod.fst ++ members.map Member.key).Nodup)
    (rest : Bytes)
    (enough :
      2 * (separated (members.map Member.source)).length < depth) :
    parseMembers depth values
        ⟨position, separated (members.map Member.source) ++ 0x7d :: rest⟩ =
      .ok (values ++ members.map Member.entry,
        ⟨position + (separated (members.map Member.source)).length + 1,
          rest⟩) := by
  induction members generalizing depth position values with
  | nil => exact absurd rfl nonempty
  | cons member members ih =>
    obtain ⟨depth, rfl⟩ : ∃ fewer, depth = fewer + 1 :=
      ⟨depth - 1, by omega⟩
    have isSpaced := spaced member mem_cons_self
    have readsValue := reads member mem_cons_self
    have fresh : member.key ∉ values.map Prod.fst := by
      intro listed
      exact (List.nodup_append.mp unique).2.2 _ listed _
        mem_cons_self rfl
    have short := member.source_length
    cases members with
    | nil =>
      change 2 * member.source.length < depth + 1 at enough
      exact Member.reads_value isSpaced readsValue position values rest
        (by decide) (by decide) fresh (by omega)
    | cons second others =>
      have length :
          (separated ((member :: second :: others).map
            Member.source)).length =
            member.source.length + 1 +
              (separated ((second :: others).map
                Member.source)).length := by
        simp [separated]
        omega
      rw [length] at enough ⊢
      have text :
          separated ((member :: second :: others).map Member.source) ++
              0x7d :: rest =
            member.source ++ 0x2c ::
              (separated ((second :: others).map Member.source) ++
                0x7d :: rest) := by
        simp [separated]
      have stillUnique :
          ((values ++ [member.entry]).map Prod.fst ++
            (second :: others).map Member.key).Nodup := by
        simpa [Member.entry] using unique
      have behind :=
        ih
          (fun other listed =>
            spaced other (mem_cons_of_mem member listed))
          (fun other listed =>
            reads other (mem_cons_of_mem member listed))
          (by simp) (position + member.source.length + 1)
          (values ++ [member.entry]) stillUnique
          (by omega :
            2 * (separated ((second :: others).map
              Member.source)).length < depth)
      rw [text, Member.reads_value isSpaced readsValue position values _
        (by decide) (by decide) fresh (by omega), if_neg (by decide),
        expect_cons, ok_bind, behind]
      simp only [map_cons, append_assoc, cons_append,
        nil_append, Except.ok.injEq, Prod.mk.injEq, Cursor.mk.injEq,
        true_and, and_true]
      omega

end Members

/-! ## Values -/

variable {value : JsonValue}
variable {first : UInt8}
variable {text : Bytes}

theorem literal_reads
    {literal : String}
    {others : Bytes}
    (shape : bytes literal = first :: others)
    (visible : isWhitespace first = false)
    (dispatch : ∀ depth position rest,
      parseValue (depth + 1) ⟨position, first :: rest⟩ =
        parseLiteral ⟨position, first :: rest⟩ literal value) :
    Reads (bytes literal) value := by
  intro depth position lead rest blank _ enough
  obtain ⟨depth, rfl⟩ : ∃ fewer, depth = fewer + 1 :=
    ⟨depth - 1, by
      have := congrArg List.length shape
      rw [length_cons] at this
      omega⟩
  have here :
      parseValue (depth + 1) ⟨position, lead ++ (bytes literal ++ rest)⟩ =
        parseValue (depth + 1)
          ⟨position + lead.length, bytes literal ++ rest⟩ := by
    rw [shape, cons_append, parseValue, parseValue,
      skipWhitespace_blank position blank _ visible,
      skipWhitespace_cons _ _ visible]
  have starts : (bytes literal).isPrefixOf (bytes literal ++ rest) = true :=
    List.isPrefixOf_iff_prefix.mpr (List.prefix_append _ _)
  rw [here]
  conv => lhs; rw [shape, cons_append]
  rw [dispatch, ← cons_append, ← shape, parseLiteral]
  simp only [starts, if_true, Cursor.skip_append]

/-- A number is read as its nearest double. -/
theorem number_reads
    {number : ℚ}
    (isNumber : NumberText text)
    (rounds : stod text = some number) :
    Reads text (.number number) := by
  intro depth position lead rest blank stops enough
  obtain ⟨first, others, shape, visible, -⟩ :=
    (Source.number isNumber rounds).head
  have starts : first = 0x2d ∨ isDigit first = true := by
    obtain ⟨byte, behind, sameShape, starts⟩ := isNumber.head
    obtain ⟨rfl, -⟩ := List.cons.inj (shape.symm.trans sameShape)
    exact starts
  have other
      {byte : UInt8}
      (letter : isDigit byte = false ∧ byte ≠ 0x2d) :
      first ≠ byte := by
    rintro rfl
    rcases starts with minus | digit
    · exact letter.2 minus
    · simp [letter.1] at digit
  obtain ⟨depth, rfl⟩ : ∃ fewer, depth = fewer + 1 :=
    ⟨depth - 1, by
      rw [shape, length_cons] at enough
      omega⟩
  have read := isNumber.reads rounds stops (position + lead.length)
  rw [shape, cons_append] at read ⊢
  rw [parseValue, skipWhitespace_blank position blank _ visible]
  simp only [other (show isDigit 0x6e = false ∧ (0x6e : UInt8) ≠ 0x2d by decide),
    other (show isDigit 0x74 = false ∧ (0x74 : UInt8) ≠ 0x2d by decide),
    other (show isDigit 0x66 = false ∧ (0x66 : UInt8) ≠ 0x2d by decide),
    other (show isDigit 0x22 = false ∧ (0x22 : UInt8) ≠ 0x2d by decide),
    other (show isDigit 0x5b = false ∧ (0x5b : UInt8) ≠ 0x2d by decide),
    other (show isDigit 0x7b = false ∧ (0x7b : UInt8) ≠ 0x2d by decide),
    if_false, read]

/-- A string is read as the text it spells. -/
theorem string_reads
    {body text : Bytes}
    (spells : StringBody body text) :
    Reads (0x22 :: (body ++ [0x22])) (.string text) := by
  intro depth position lead rest blank _ enough
  obtain ⟨depth, rfl⟩ : ∃ fewer, depth = fewer + 1 :=
    ⟨depth - 1, by
      rw [length_cons] at enough
      omega⟩
  have read := spells.parseString (position + lead.length) rest
  rw [cons_append, append_assoc, singleton_append, parseValue,
    skipWhitespace_blank position blank _ (by decide)]
  simp only [show ((0x22 : UInt8) = 0x6e) = False by decide,
    show ((0x22 : UInt8) = 0x74) = False by decide,
    show ((0x22 : UInt8) = 0x66) = False by decide, if_false, if_true, read,
    ok_bind]
  simp only [length_cons, length_append, length_nil,
    Except.ok.injEq, Prod.mk.injEq, Cursor.mk.injEq, true_and, and_true]
  omega

section

variable
    (depth position : Nat)
    {lead space : Bytes}
    (blank : Blank lead)
    (spaceBlank : Blank space)
    (visible : isWhitespace first = false)
    (rest : Bytes)

include depth position blank spaceBlank visible rest

/-- An opening bracket, its blanks and whatever follows them. -/
theorem parseValue_array :
    parseValue (depth + 1)
        ⟨position, lead ++ 0x5b :: (space ++ first :: rest)⟩ =
      if first = 0x5d then
        .ok (.array [], ⟨position + lead.length + 1 + space.length + 1, rest⟩)
      else
        parseElements depth []
            ⟨position + lead.length + 1 + space.length, first :: rest⟩ >>=
          fun (elements, closed) => .ok (.array elements, closed) := by
  rw [parseValue_bracket (skipWhitespace_blank position blank _ (by decide))]
  simp only [skipWhitespace_blank _ spaceBlank _ visible, List.head?_cons,
    Option.some.injEq, Cursor.skip_one]

/-- An opening brace, its blanks and whatever follows them. -/
theorem parseValue_object :
    parseValue (depth + 1)
        ⟨position, lead ++ 0x7b :: (space ++ first :: rest)⟩ =
      if first = 0x7d then
        .ok (.object [], ⟨position + lead.length + 1 + space.length + 1, rest⟩)
      else
        parseMembers depth []
            ⟨position + lead.length + 1 + space.length, first :: rest⟩ >>=
          fun (members, closed) => .ok (.object members, closed) := by
  rw [parseValue_brace (skipWhitespace_blank position blank _ (by decide))]
  simp only [skipWhitespace_blank _ spaceBlank _ visible, List.head?_cons,
    Option.some.injEq, Cursor.skip_one]

end

section

variable
    {space : Bytes}
    (spaceBlank : Blank space)

include spaceBlank

theorem emptyArray_reads :
    Reads (0x5b :: (space ++ [0x5d])) (.array []) := by
  intro depth position lead rest blank _ enough
  obtain ⟨depth, rfl⟩ : ∃ fewer, depth = fewer + 1 :=
    ⟨depth - 1, by
      rw [length_cons] at enough
      omega⟩
  rw [cons_append, append_assoc, singleton_append,
    parseValue_array depth position blank spaceBlank (by decide), if_pos rfl]
  simp only [length_cons, length_append, length_nil,
    Except.ok.injEq, Prod.mk.injEq, Cursor.mk.injEq, true_and, and_true]
  omega

theorem emptyObject_reads :
    Reads (0x7b :: (space ++ [0x7d])) (.object []) := by
  intro depth position lead rest blank _ enough
  obtain ⟨depth, rfl⟩ : ∃ fewer, depth = fewer + 1 :=
    ⟨depth - 1, by
      rw [length_cons] at enough
      omega⟩
  rw [cons_append, append_assoc, singleton_append,
    parseValue_object depth position blank spaceBlank (by decide), if_pos rfl]
  simp only [length_cons, length_append, length_nil,
    Except.ok.injEq, Prod.mk.injEq, Cursor.mk.injEq, true_and, and_true]
  omega

end

section

variable
    {items : List Item}
    (nonempty : items ≠ [])
    (spaced : ∀ item ∈ items, item.Spaced)
    (each : ∀ item ∈ items, Source item.text item.value)
    (reads : ∀ item ∈ items, Reads item.text item.value)

include nonempty spaced each reads

theorem exists_items_opened :
    ∃ space first tail, ∃ others : List Item,
      Blank space ∧ others ≠ [] ∧ (∀ item ∈ others, item.Spaced) ∧
        (∀ item ∈ others, Reads item.text item.value) ∧
        others.map Item.value = items.map Item.value ∧
        separated (items.map Item.source) = space ++ first :: tail ∧
        separated (others.map Item.source) = first :: tail ∧
        isWhitespace first = false ∧ first ≠ 0x5d := by
  cases items with
  | nil => exact absurd rfl nonempty
  | cons item items =>
    have itemSpaced := spaced item mem_cons_self
    obtain ⟨first, behind, shape, visible, notBracket, -⟩ :=
      (each item mem_cons_self).head
    have starts :
        ∃ tail,
          separated (({ item with lead := [] } :: items).map Item.source) =
            first :: tail := by
      cases items with
      | nil => exact ⟨_, by simp [separated, Item.source, shape]; rfl⟩
      | cons => exact ⟨_, by simp [separated, Item.source, shape]; rfl⟩
    obtain ⟨tail, starts⟩ := starts
    refine ⟨item.lead, first, tail, { item with lead := [] } :: items,
      itemSpaced.lead, by simp, ?_, ?_, rfl, ?_, starts, visible,
      notBracket⟩
    · intro other listed
      rcases List.mem_cons.mp listed with rfl | later
      · exact ⟨List.forall_mem_nil _, itemSpaced.trail⟩
      · exact spaced other (mem_cons_of_mem item later)
    · intro other listed
      rcases List.mem_cons.mp listed with rfl | later
      · exact reads item mem_cons_self
      · exact reads other (mem_cons_of_mem item later)
    · rw [← starts, map_cons, map_cons, ← separated_lead]
      rfl

/-- An array is read if its elements are, -/
theorem array_reads :
    Reads (0x5b :: (separated (items.map Item.source) ++ [0x5d]))
      (.array (items.map Item.value)) := by
  intro depth position lead rest blank _ enough
  obtain ⟨depth, rfl⟩ : ∃ fewer, depth = fewer + 1 :=
    ⟨depth - 1, by
      rw [length_cons] at enough
      omega⟩
  obtain ⟨space, first, tail, others, spaceBlank, othersNonempty,
    othersSpaced, othersReads, values, layout, starts, visible,
    notBracket⟩ := exists_items_opened nonempty spaced each reads
  rw [layout] at enough ⊢
  simp only [length_cons, length_append, length_nil] at enough
  have elements :=
    parseElements_reads othersSpaced othersReads othersNonempty
      (position + lead.length + 1 + space.length) [] rest
      (show 2 * (separated (others.map Item.source)).length < depth by
        rw [starts, length_cons]
        omega)
  rw [starts] at elements
  rw [cons_append, append_assoc, append_assoc,
    singleton_append, cons_append,
    parseValue_array depth position blank spaceBlank visible,
    if_neg notBracket, ← cons_append, elements, ok_bind, values]
  simp only [nil_append, length_cons, length_append,
    length_nil, Except.ok.injEq, Prod.mk.injEq, Cursor.mk.injEq,
    true_and, and_true]
  omega

end

section

variable
    {members : List Member}
    (nonempty : members ≠ [])
    (spaced : ∀ member ∈ members, member.Spaced)

include nonempty spaced

theorem exists_members_opened
    (reads : ∀ member ∈ members, Reads member.item.text member.item.value) :
    ∃ space tail, ∃ others : List Member,
      Blank space ∧ others ≠ [] ∧ (∀ member ∈ others, member.Spaced) ∧
        (∀ member ∈ others, Reads member.item.text member.item.value) ∧
        others.map Member.entry = members.map Member.entry ∧
        separated (members.map Member.source) = space ++ 0x22 :: tail ∧
        separated (others.map Member.source) = 0x22 :: tail := by
  cases members with
  | nil => exact absurd rfl nonempty
  | cons member members =>
    have isSpaced := spaced member mem_cons_self
    have starts :
        ∃ tail,
          separated
              (({ member with lead := [] } :: members).map Member.source) =
            0x22 :: tail := by
      cases members with
      | nil => exact ⟨_, by simp [separated, Member.source]; rfl⟩
      | cons => exact ⟨_, by simp [separated, Member.source]; rfl⟩
    obtain ⟨tail, starts⟩ := starts
    refine ⟨member.lead, tail, { member with lead := [] } :: members,
      isSpaced.lead, by simp, ?_, ?_, rfl, ?_, starts⟩
    · intro other listed
      rcases List.mem_cons.mp listed with rfl | later
      · exact ⟨List.forall_mem_nil _, isSpaced.spells, isSpaced.gap, isSpaced.item⟩
      · exact spaced other (mem_cons_of_mem member later)
    · intro other listed
      rcases List.mem_cons.mp listed with rfl | later
      · exact reads member mem_cons_self
      · exact reads other (mem_cons_of_mem member later)
    · rw [← starts, map_cons, map_cons, ← separated_lead]
      rfl

/-- and an object with distinct keys if its members are. -/
theorem object_reads
    (unique : (members.map Member.key).Nodup)
    (reads : ∀ member ∈ members, Reads member.item.text member.item.value) :
    Reads (0x7b :: (separated (members.map Member.source) ++ [0x7d]))
      (.object (members.map Member.entry)) := by
  intro depth position lead rest blank _ enough
  obtain ⟨depth, rfl⟩ : ∃ fewer, depth = fewer + 1 :=
    ⟨depth - 1, by
      rw [length_cons] at enough
      omega⟩
  obtain ⟨space, tail, others, spaceBlank, othersNonempty, othersSpaced,
    othersReads, entries, layout, starts⟩ :=
    exists_members_opened nonempty spaced reads
  rw [layout] at enough ⊢
  simp only [length_cons, length_append, length_nil] at enough
  have othersUnique : (others.map Member.key).Nodup := by
    rw [← map_fst_entry, entries, map_fst_entry]
    exact unique
  have read :=
    parseMembers_reads othersSpaced othersReads othersNonempty
      (position + lead.length + 1 + space.length) [] othersUnique rest
      (show 2 * (separated (others.map Member.source)).length < depth by
        rw [starts, length_cons]
        omega)
  rw [starts] at read
  rw [cons_append, append_assoc, append_assoc,
    singleton_append, cons_append,
    parseValue_object depth position blank spaceBlank (by decide),
    if_neg (by decide), ← cons_append, read, ok_bind, entries]
  simp only [nil_append, length_cons, length_append,
    length_nil, Except.ok.injEq, Prod.mk.injEq, Cursor.mk.injEq,
    true_and, and_true]
  omega

end

/-- Whatever is a source of a value is read as that value. -/
theorem Source.reads
    (isSource : Source text value) :
    Reads text value := by
  induction isSource with
  | null =>
    refine literal_reads (show bytes "null" = 0x6e :: bytes "ull" by decide)
      (by decide) ?_
    intro depth position rest
    rw [parseValue, skipWhitespace_cons _ _ (by decide)]
    rfl
  | true =>
    refine literal_reads (show bytes "true" = 0x74 :: bytes "rue" by decide)
      (by decide) ?_
    intro depth position rest
    rw [parseValue, skipWhitespace_cons _ _ (by decide)]
    rfl
  | false =>
    refine literal_reads (show bytes "false" = 0x66 :: bytes "alse" by decide)
      (by decide) ?_
    intro depth position rest
    rw [parseValue, skipWhitespace_cons _ _ (by decide)]
    rfl
  | number isNumber rounds => exact number_reads isNumber rounds
  | string spells => exact string_reads spells
  | emptyArray blank => exact emptyArray_reads blank
  | array nonempty spaced each reads =>
    exact array_reads nonempty spaced each reads
  | emptyObject blank => exact emptyObject_reads blank
  | object nonempty spaced unique _ reads =>
    exact object_reads nonempty spaced unique reads

/-! ## Documents -/

/-- A whole document too. -/
theorem Source.parse
    (isSource : Source text value) :
    Json.parse text = .ok value := by
  obtain ⟨first, rest, shape, visible, -⟩ := isSource.head
  have read :=
    isSource.reads (2 * text.length + 2) 0 [] [] nofun nofun (by omega)
  rw [nil_append, List.append_nil] at read
  have starts : skipWhitespace { rest := text } = ⟨0, text⟩ := by
    rw [shape]
    exact skipWhitespace_cons 0 rest visible
  rw [Json.parse, starts, read, ok_bind]
  rfl

/-- What is accepted is a source of what is returned. -/
theorem parse_ok
    (parsed : parse text = .ok value) :
    ∃ before source behind,
      Blank before ∧ Blank behind ∧ Source source value ∧
        text = before ++ (source ++ behind) := by
  unfold parse at parsed
  obtain ⟨⟨read, after⟩, readValue, parsed⟩ := bind_eq_ok.mp parsed
  simp only at parsed
  obtain ⟨before, beforeBlank, movedBefore⟩ :=
    skipWhitespace_advances { rest := text }
  obtain ⟨lead, source, leadBlank, isSource, movedValue⟩ :=
    (readsSources _).value readValue
  obtain ⟨behind, behindBlank, movedBehind⟩ := skipWhitespace_advances after
  split at parsed
  · next ended =>
      simp only [Except.ok.injEq] at parsed
      subst parsed
      refine ⟨before ++ lead, source, behind, beforeBlank.append leadBlank,
        behindBlank, isSource, ?_⟩
      have whole :=
        ((movedBefore.trans movedValue).trans movedBehind).rest
      rw [List.isEmpty_iff.mp ended] at whole
      simpa using whole
  · cases parsed

end Aeon.Json
