import Aeon.JsonNumbers

namespace Aeon.Json

/-!
# The texts the reader accepts

`Source text value` says that `text` is the source of one value, without blanks
around it.  The reader accepts exactly such texts between blanks, and reads each of
them alike wherever it stands.  The layout of an array or an object is kept, so that
the source of every element can be pointed at.
-/

/-- A value's text with the blanks around it. -/
structure Item where
  lead : Bytes
  text : Bytes
  trail : Bytes
  value : JsonValue

/-- A member's key literal, its colon and its value, with the blanks around them. -/
structure Member where
  lead : Bytes
  name : Bytes
  key : Bytes
  gap : Bytes
  item : Item

/-- The bytes of an element. -/
def Item.source (item : Item) : Bytes :=
  item.lead ++ (item.text ++ item.trail)

/-- The bytes of a member. -/
def Member.source (member : Member) : Bytes :=
  member.lead ++
    0x22 :: (member.name ++ 0x22 :: (member.gap ++ 0x3a :: member.item.source))

/-- What an object keeps of a member. -/
def Member.entry (member : Member) : Bytes × JsonValue :=
  (member.key, member.item.value)

/-- The parts with a comma between them. -/
def separated : List Bytes → Bytes
  | [] => []
  | [last] => last
  | first :: second :: rest => first ++ 0x2c :: separated (second :: rest)

/-- Only blanks stand around the value. -/
structure Item.Spaced (item : Item) : Prop where
  lead : Blank item.lead
  trail : Blank item.trail

/-- Only blanks stand around the key and the value, and the key is spelled out. -/
structure Member.Spaced (member : Member) : Prop where
  lead : Blank member.lead
  spells : StringBody member.name member.key
  gap : Blank member.gap
  item : member.item.Spaced

/-- The source of one value. -/
inductive Source : Bytes → JsonValue → Prop where
  | null : Source (bytes "null") .null
  | true : Source (bytes "true") (.bool true)
  | false : Source (bytes "false") (.bool false)
  | number
      {text : Bytes}
      {number : ℚ}
      (isNumber : NumberText text)
      (rounds : stod text = some number) :
      Source text (.number number)
  | string
      {body text : Bytes}
      (spells : StringBody body text) :
      Source (0x22 :: (body ++ [0x22])) (.string text)
  | emptyArray
      {space : Bytes}
      (blank : Blank space) :
      Source (0x5b :: (space ++ [0x5d])) (.array [])
  | array
      {items : List Item}
      (nonempty : items ≠ [])
      (spaced : ∀ item ∈ items, item.Spaced)
      (each : ∀ item ∈ items, Source item.text item.value) :
      Source (0x5b :: (separated (items.map Item.source) ++ [0x5d]))
        (.array (items.map Item.value))
  | emptyObject
      {space : Bytes}
      (blank : Blank space) :
      Source (0x7b :: (space ++ [0x7d])) (.object [])
  | object
      {members : List Member}
      (nonempty : members ≠ [])
      (spaced : ∀ member ∈ members, member.Spaced)
      (unique : (members.map Member.key).Nodup)
      (each : ∀ member ∈ members,
        Source member.item.text member.item.value) :
      Source (0x7b :: (separated (members.map Member.source) ++ [0x7d]))
        (.object (members.map Member.entry))

/-! ## Layout -/

/-- More blanks in front of the first part. -/
theorem separated_lead
    (space first : Bytes)
    (rest : List Bytes) :
    separated ((space ++ first) :: rest) =
      space ++ separated (first :: rest) := by
  cases rest with
  | nil => rfl
  | cons second rest => simp [separated]

theorem Blank.append
    {first second : Bytes}
    (before : Blank first)
    (behind : Blank second) :
    Blank (first ++ second) := by
  intro byte listed
  rcases List.mem_append.mp listed with early | late
  · exact before byte early
  · exact behind byte late

theorem Blank.stops
    {trail rest : Bytes}
    {byte : UInt8}
    (blank : Blank trail)
    (ends : isDigit byte = false ∧ byte ≠ 0x2e ∧ byte ≠ 0x65 ∧ byte ≠ 0x45) :
    Stops (trail ++ byte :: rest) := by
  cases trail with
  | nil => exact stops_cons rest ends
  | cons space trail =>
    refine stops_cons _ ?_
    have isBlank := blank space List.mem_cons_self
    simp only [isWhitespace, Bool.or_eq_true, decide_eq_true_eq] at isBlank
    rcases isBlank with ((rfl | rfl) | rfl) | rfl <;> decide

/-! ## What is read is a source -/

theorem parseLiteral_ok
    {cursor after : Cursor}
    {literal : String}
    {value read : JsonValue}
    (parsed : parseLiteral cursor literal value = .ok (read, after)) :
    read = value ∧ Advances cursor (bytes literal) after := by
  unfold parseLiteral at parsed
  split at parsed
  · next here =>
      simp only [Except.ok.injEq, Prod.mk.injEq] at parsed
      obtain ⟨rfl, rfl⟩ := parsed
      obtain ⟨rest, shape⟩ := List.isPrefixOf_iff_prefix.mp here
      exact ⟨rfl, Advances.skip shape.symm⟩
  · cases parsed

/-- What a call with this depth left may return. -/
structure ReadsSources (depth : Nat) : Prop where
  value :
    ∀ {start after value},
      parseValue depth start = .ok (value, after) →
        ∃ lead text,
          Blank lead ∧ Source text value ∧
            Advances start (lead ++ text) after
  elements :
    ∀ {values start read after},
      parseElements depth values start = .ok (read, after) →
        ∃ items : List Item,
          items ≠ [] ∧ (∀ item ∈ items, item.Spaced) ∧
            (∀ item ∈ items, Source item.text item.value) ∧
            read = values ++ items.map Item.value ∧
            Advances start
              (separated (items.map Item.source) ++ [0x5d]) after
  members :
    ∀ {values start read after},
      parseMembers depth values start = .ok (read, after) →
        (values.map Prod.fst).Nodup →
          ∃ members : List Member,
            members ≠ [] ∧ (∀ member ∈ members, member.Spaced) ∧
              (∀ member ∈ members,
                Source member.item.text member.item.value) ∧
              (read.map Prod.fst).Nodup ∧
              read = values ++ members.map Member.entry ∧
              Advances start
                (separated (members.map Member.source) ++ [0x7d]) after

/-- Blanks in front of the elements go to the first one. -/
theorem exists_items_lead
    {items : List Item}
    {space : Bytes}
    (blank : Blank space)
    (nonempty : items ≠ [])
    (spaced : ∀ item ∈ items, item.Spaced)
    (each : ∀ item ∈ items, Source item.text item.value) :
    ∃ others : List Item,
      others ≠ [] ∧ (∀ item ∈ others, item.Spaced) ∧
        (∀ item ∈ others, Source item.text item.value) ∧
        others.map Item.value = items.map Item.value ∧
        separated (others.map Item.source) =
          space ++ separated (items.map Item.source) := by
  cases items with
  | nil => exact absurd rfl nonempty
  | cons first rest =>
    have spacedFirst := spaced first List.mem_cons_self
    refine ⟨{ first with lead := space ++ first.lead } :: rest, by simp,
      ?_, ?_, rfl, ?_⟩
    · intro item member
      rcases List.mem_cons.mp member with rfl | later
      · exact ⟨blank.append spacedFirst.lead, spacedFirst.trail⟩
      · exact spaced item (List.mem_cons_of_mem first later)
    · intro item member
      rcases List.mem_cons.mp member with rfl | later
      · exact each first List.mem_cons_self
      · exact each item (List.mem_cons_of_mem first later)
    · rw [List.map_cons, List.map_cons, ← separated_lead]
      simp [Item.source]

theorem exists_members_lead
    {members : List Member}
    {space : Bytes}
    (blank : Blank space)
    (nonempty : members ≠ [])
    (spaced : ∀ member ∈ members, member.Spaced)
    (each : ∀ member ∈ members,
      Source member.item.text member.item.value) :
    ∃ others : List Member,
      others ≠ [] ∧ (∀ member ∈ others, member.Spaced) ∧
        (∀ member ∈ others, Source member.item.text member.item.value) ∧
        others.map Member.entry = members.map Member.entry ∧
        separated (others.map Member.source) =
          space ++ separated (members.map Member.source) := by
  cases members with
  | nil => exact absurd rfl nonempty
  | cons first rest =>
    have spacedFirst := spaced first List.mem_cons_self
    refine ⟨{ first with lead := space ++ first.lead } :: rest, by simp,
      ?_, ?_, rfl, ?_⟩
    · intro member listed
      rcases List.mem_cons.mp listed with rfl | later
      · exact ⟨blank.append spacedFirst.lead, spacedFirst.spells,
          spacedFirst.gap, spacedFirst.item⟩
      · exact spaced member (List.mem_cons_of_mem first later)
    · intro member listed
      rcases List.mem_cons.mp listed with rfl | later
      · exact each first List.mem_cons_self
      · exact each member (List.mem_cons_of_mem first later)
    · rw [List.map_cons, List.map_cons, ← separated_lead]
      simp [Member.source]

theorem map_fst_entry
    (members : List Member) :
    (members.map Member.entry).map Prod.fst = members.map Member.key := by
  simp [Member.entry]

section

variable
    {depth : Nat}
    {cursor inside after : Cursor}
    {space : Bytes}
    {value : JsonValue}
    (reads : ReadsSources depth)
    (blank : Blank space)

include reads blank

theorem ReadsSources.array
    (opened : Advances cursor ([0x5b] ++ space) inside)
    (read :
      (if inside.rest.head? = some 0x5d then
        .ok (.array [], inside.skip 1)
      else do
        let (elements, closed) ← parseElements depth [] inside
        .ok (.array elements, closed)) = Except.ok (value, after)) :
    ∃ text, Source text value ∧ Advances cursor text after := by
  split at read
  · next closes =>
      simp only [Except.ok.injEq, Prod.mk.injEq] at read
      obtain ⟨rfl, rfl⟩ := read
      exact ⟨_, .emptyArray blank, opened.trans (Advances.skip_one closes)⟩
  · obtain ⟨⟨elements, closed⟩, readElements, read⟩ := bind_eq_ok.mp read
    simp only [Except.ok.injEq, Prod.mk.injEq] at read
    obtain ⟨rfl, rfl⟩ := read
    obtain ⟨items, nonempty, spaced, each, valuesEq, moved⟩ :=
      reads.elements readElements
    obtain ⟨others, othersNonempty, othersSpaced, othersEach, othersValues,
      othersSource⟩ := exists_items_lead blank nonempty spaced each
    have array := Source.array othersNonempty othersSpaced othersEach
    rw [othersValues] at array
    rw [valuesEq, List.nil_append]
    refine ⟨_, array, ?_⟩
    rw [othersSource]
    simpa using opened.trans moved

theorem ReadsSources.object
    (opened : Advances cursor ([0x7b] ++ space) inside)
    (read :
      (if inside.rest.head? = some 0x7d then
        .ok (.object [], inside.skip 1)
      else do
        let (members, closed) ← parseMembers depth [] inside
        .ok (.object members, closed)) = Except.ok (value, after)) :
    ∃ text, Source text value ∧ Advances cursor text after := by
  split at read
  · next closes =>
      simp only [Except.ok.injEq, Prod.mk.injEq] at read
      obtain ⟨rfl, rfl⟩ := read
      exact ⟨_, .emptyObject blank, opened.trans (Advances.skip_one closes)⟩
  · obtain ⟨⟨entries, closed⟩, readMembers, read⟩ := bind_eq_ok.mp read
    simp only [Except.ok.injEq, Prod.mk.injEq] at read
    obtain ⟨rfl, rfl⟩ := read
    obtain ⟨members, nonempty, spaced, each, unique, entriesEq, moved⟩ :=
      reads.members readMembers List.nodup_nil
    obtain ⟨others, othersNonempty, othersSpaced, othersEach, othersEntries,
      othersSource⟩ := exists_members_lead blank nonempty spaced each
    rw [List.nil_append] at entriesEq
    have keys : (others.map Member.key).Nodup := by
      rw [← map_fst_entry, othersEntries, ← entriesEq]
      exact unique
    have object :=
      Source.object othersNonempty othersSpaced keys othersEach
    rw [othersEntries] at object
    rw [entriesEq]
    refine ⟨_, object, ?_⟩
    rw [othersSource]
    simpa using opened.trans moved

end

variable {depth : Nat}
variable {start after : Cursor}

theorem ReadsSources.next_value
    {value : JsonValue}
    (reads : ReadsSources depth)
    (read : parseValue (depth + 1) start = .ok (value, after)) :
    ∃ lead text,
      Blank lead ∧ Source text value ∧ Advances start (lead ++ text) after := by
  obtain ⟨lead, blank, movedLead⟩ := skipWhitespace_advances start
  unfold parseValue at read
  simp only at read
  generalize skipWhitespace start = cursor at read movedLead
  have behind
      (found : ∃ text, Source text value ∧ Advances cursor text after) :
      ∃ lead text,
        Blank lead ∧ Source text value ∧
          Advances start (lead ++ text) after := by
    obtain ⟨text, isSource, moved⟩ := found
    exact ⟨lead, text, blank, isSource, movedLead.trans moved⟩
  have literal
      {literal : String}
      {constant : JsonValue}
      (isSource : Source (bytes literal) constant)
      (parsed :
        parseLiteral cursor literal constant = .ok (value, after)) :
      ∃ text, Source text value ∧ Advances cursor text after := by
    obtain ⟨rfl, moved⟩ := parseLiteral_ok parsed
    exact ⟨bytes literal, isSource, moved⟩
  apply behind
  split at read
  · cases read
  · next byte rest here =>
      have head : cursor.rest.head? = some byte := by rw [here]; rfl
      obtain ⟨space, spaceBlank, movedSpace⟩ :=
        skipWhitespace_advances (cursor.skip 1)
      have opened := (Advances.skip_one head).trans movedSpace
      split at read
      · exact literal .null read
      · split at read
        · exact literal .true read
        · split at read
          · exact literal .false read
          · split at read
            · obtain ⟨⟨text, closed⟩, readString, read⟩ := bind_eq_ok.mp read
              simp only [Except.ok.injEq, Prod.mk.injEq] at read
              obtain ⟨rfl, rfl⟩ := read
              obtain ⟨body, spells, shape, moved⟩ := parseString_ok readString
              refine ⟨_, .string spells, ?_, ?_⟩
              · rw [shape]
                simp
              · rw [moved]
                simp
                omega
            · split at read
              · next bracket =>
                  subst bracket
                  exact reads.array spaceBlank opened read
              · split at read
                · next brace =>
                    subst brace
                    exact reads.object spaceBlank opened read
                · obtain ⟨text, number, isNumber, rounds, rfl, moved⟩ :=
                    parseNumber_ok read
                  exact ⟨text, .number isNumber rounds, moved⟩

theorem ReadsSources.next_elements
    {values read : List JsonValue}
    (reads : ReadsSources depth)
    (parsed : parseElements (depth + 1) values start = .ok (read, after)) :
    ∃ items : List Item,
      items ≠ [] ∧ (∀ item ∈ items, item.Spaced) ∧
        (∀ item ∈ items, Source item.text item.value) ∧
        read = values ++ items.map Item.value ∧
        Advances start (separated (items.map Item.source) ++ [0x5d]) after := by
  unfold parseElements at parsed
  obtain ⟨⟨value, middle⟩, readValue, parsed⟩ := bind_eq_ok.mp parsed
  obtain ⟨lead, text, leadBlank, isSource, movedValue⟩ :=
    reads.value readValue
  obtain ⟨trail, trailBlank, movedTrail⟩ := skipWhitespace_advances middle
  have movedItem := movedValue.trans movedTrail
  simp only at parsed
  generalize skipWhitespace middle = next at parsed movedItem
  split at parsed
  · next closes =>
      simp only [Except.ok.injEq, Prod.mk.injEq] at parsed
      obtain ⟨rfl, rfl⟩ := parsed
      refine ⟨[⟨lead, text, trail, value⟩], by simp, ?_, ?_, rfl, ?_⟩
      · simp only [List.mem_singleton, forall_eq]
        exact ⟨leadBlank, trailBlank⟩
      · simp only [List.mem_singleton, forall_eq]
        exact isSource
      · simpa [separated, Item.source] using
          movedItem.trans (Advances.skip_one closes)
  · obtain ⟨comma, expected, parsed⟩ := bind_eq_ok.mp parsed
    obtain ⟨items, nonempty, spaced, each, readEq, moved⟩ :=
      reads.elements parsed
    refine ⟨⟨lead, text, trail, value⟩ :: items, by simp, ?_, ?_, ?_, ?_⟩
    · intro item member
      rcases List.mem_cons.mp member with rfl | later
      · exact ⟨leadBlank, trailBlank⟩
      · exact spaced item later
    · intro item member
      rcases List.mem_cons.mp member with rfl | later
      · exact isSource
      · exact each item later
    · rw [readEq]
      simp
    · cases items with
      | nil => exact absurd rfl nonempty
      | cons second rest =>
        simpa [separated, Item.source] using
          movedItem.trans ((expect_ok expected).trans moved)

theorem ReadsSources.next_members
    {values read : List (Bytes × JsonValue)}
    (reads : ReadsSources depth)
    (parsed : parseMembers (depth + 1) values start = .ok (read, after))
    (distinct : (values.map Prod.fst).Nodup) :
    ∃ members : List Member,
      members ≠ [] ∧ (∀ member ∈ members, member.Spaced) ∧
        (∀ member ∈ members, Source member.item.text member.item.value) ∧
        (read.map Prod.fst).Nodup ∧
        read = values ++ members.map Member.entry ∧
        Advances start
          (separated (members.map Member.source) ++ [0x7d]) after := by
  obtain ⟨lead, leadBlank, movedLead⟩ := skipWhitespace_advances start
  unfold parseMembers at parsed
  simp only at parsed
  generalize skipWhitespace start = cursor at parsed movedLead
  split at parsed
  · cases parsed
  · obtain ⟨⟨key, named⟩, readKey, parsed⟩ := bind_eq_ok.mp parsed
    obtain ⟨name, spells, keyShape, keyMoved⟩ := parseString_ok readKey
    have movedKey :
        Advances cursor (0x22 :: (name ++ [0x22])) named := by
      refine ⟨?_, ?_⟩
      · rw [keyShape]
        simp
      · rw [keyMoved]
        simp
        omega
    obtain ⟨gap, gapBlank, movedGap⟩ := skipWhitespace_advances named
    obtain ⟨colon, expectedColon, parsed⟩ := bind_eq_ok.mp parsed
    have movedColon := movedGap.trans (expect_ok expectedColon)
    obtain ⟨⟨value, middle⟩, readValue, parsed⟩ := bind_eq_ok.mp parsed
    obtain ⟨pad, text, padBlank, isSource, movedValue⟩ :=
      reads.value readValue
    simp only at parsed
    split at parsed
    · cases parsed
    · next fresh =>
        obtain ⟨trail, trailBlank, movedTrail⟩ :=
          skipWhitespace_advances middle
        generalize skipWhitespace middle = next at parsed movedTrail
        have movedMember :=
          movedLead.trans (movedKey.trans (movedColon.trans
            (movedValue.trans movedTrail)))
        have longer : ((values ++ [(key, value)]).map Prod.fst).Nodup := by
          rw [List.map_append, List.nodup_append]
          refine ⟨distinct, by simp, ?_⟩
          intro earlier listed other same
          obtain rfl : other = key := by simpa using same
          rintro rfl
          obtain ⟨entry, member, rfl⟩ := List.mem_map.mp listed
          have missing : ∀ value, (entry.1, value) ∉ values := by
            simpa using fresh
          exact missing entry.2 member
        have memberSpaced :
            Member.Spaced ⟨lead, name, key, gap,
              ⟨pad, text, trail, value⟩⟩ :=
          ⟨leadBlank, spells, gapBlank, ⟨padBlank, trailBlank⟩⟩
        split at parsed
        · next closes =>
            simp only [Except.ok.injEq, Prod.mk.injEq] at parsed
            obtain ⟨rfl, rfl⟩ := parsed
            refine ⟨[⟨lead, name, key, gap, ⟨pad, text, trail, value⟩⟩],
              by simp, ?_, ?_, longer, rfl, ?_⟩
            · simp only [List.mem_singleton, forall_eq]
              exact memberSpaced
            · simp only [List.mem_singleton, forall_eq]
              exact isSource
            · simpa [separated, Member.source, Item.source] using
                movedMember.trans (Advances.skip_one closes)
        · obtain ⟨comma, expectedComma, parsed⟩ := bind_eq_ok.mp parsed
          obtain ⟨members, nonempty, spaced, each, unique, readEq, moved⟩ :=
            reads.members parsed longer
          refine ⟨⟨lead, name, key, gap, ⟨pad, text, trail, value⟩⟩ ::
            members, by simp, ?_, ?_, unique, ?_, ?_⟩
          · intro member listed
            rcases List.mem_cons.mp listed with rfl | later
            · exact memberSpaced
            · exact spaced member later
          · intro member listed
            rcases List.mem_cons.mp listed with rfl | later
            · exact isSource
            · exact each member later
          · rw [readEq]
            simp [Member.entry]
          · cases members with
            | nil => exact absurd rfl nonempty
            | cons second rest =>
              simpa [separated, Member.source, Item.source] using
                movedMember.trans ((expect_ok expectedComma).trans moved)

theorem readsSources
    (depth : Nat) :
    ReadsSources depth := by
  induction depth with
  | zero =>
    refine ⟨?_, ?_, ?_⟩
    · intro start after value read
      cases read
    · intro values start read after parsed
      cases parsed
    · intro values start read after parsed _
      cases parsed
  | succ depth ih =>
    exact ⟨ih.next_value,
      ih.next_elements,
      ih.next_members⟩

end Aeon.Json
