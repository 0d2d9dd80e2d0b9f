import Aeon.JsonSpanValues

namespace Aeon.JsonSpan

open Json (Blank Cursor Item JsonValue Member Source StringBody separated
  isWhitespace parse)
open List (length_append length_cons mem_cons_of_mem mem_cons_self)

/-!
# The scanner finds what the reader reads

An object's text is laid out as the reader accepts it.  The scanner walks over the
same layout: it stops at the member whose key the reader gives that name, and cuts
out that member's value without the blanks around it.
-/

/-- The layout of an object. -/
structure ObjectText where
  before : Bytes
  space : Bytes
  members : List Member
  behind : Bytes
  blankBefore : Blank before
  blankSpace : Blank space
  blankBehind : Blank behind
  spaced : ∀ member ∈ members, member.Spaced
  each : ∀ member ∈ members, Source member.item.text member.item.value
  unique : (members.map Member.key).Nodup

/-- The bytes in front of a member's value. -/
def opening (member : Member) : Bytes :=
  member.lead ++
    0x22 :: (member.name ++ 0x22 :: (member.gap ++ 0x3a :: member.item.lead))

/-- The bytes in front of the value that stands behind the members `early`. -/
def front : List Member → Member → Bytes
  | [], member => opening member
  | first :: early, member => first.source ++ 0x2c :: front early member

namespace ObjectText

/-- The document's bytes. -/
def text (layout : ObjectText) : Bytes :=
  layout.before ++ 0x7b :: (layout.space ++
    (separated (layout.members.map Member.source) ++ 0x7d :: layout.behind))

/-- The document's bytes in front of a member's value. -/
def front
    (layout : ObjectText)
    (early : List Member)
    (member : Member) : Bytes :=
  layout.before ++ 0x7b :: (layout.space ++ JsonSpan.front early member)

end ObjectText

/-- The first and the last byte are no blanks. -/
structure Trimmed (text : Bytes) : Prop where
  first : ∃ byte rest, text = byte :: rest ∧ isWhitespace byte = false
  last : ∃ byte rest, text = rest ++ [byte] ∧ isWhitespace byte = false

/-! ## Layout -/

/-- What the reader accepts as an object is laid out as one. -/
theorem exists_objectText
    {body : Bytes}
    {entries : List (Bytes × JsonValue)}
    (parsed : parse body = .ok (.object entries)) :
    ∃ layout : ObjectText,
      layout.text = body ∧ layout.members.map Member.entry = entries := by
  obtain ⟨before, source, behind, blankBefore, blankBehind, isSource, rfl⟩ :=
    Json.parse_ok parsed
  cases isSource with
  | @emptyObject space blank =>
    refine ⟨⟨before, space, [], behind, blankBefore, blank, blankBehind,
      List.forall_mem_nil _, List.forall_mem_nil _, List.nodup_nil⟩, ?_, rfl⟩
    simp [ObjectText.text, separated]
  | @object members _ spaced unique each =>
    refine ⟨⟨before, [], members, behind, blankBefore, List.forall_mem_nil _, blankBehind,
      spaced, each, unique⟩, ?_, rfl⟩
    simp [ObjectText.text]

/-- The value stands behind its front. -/
theorem separated_eq_front
    (early : List Member)
    (member : Member)
    (late : List Member) :
    ∃ after,
      separated ((early ++ member :: late).map Member.source) =
        front early member ++ (member.item.text ++ after) := by
  induction early with
  | nil =>
    cases late with
    | nil =>
      refine ⟨member.item.trail, ?_⟩
      simp [separated, front, opening, Member.source, Item.source]
    | cons second others =>
      refine ⟨member.item.trail ++ 0x2c ::
        separated ((second :: others).map Member.source), ?_⟩
      simp [separated, front, opening, Member.source, Item.source]
  | cons first early ih =>
    obtain ⟨after, layout⟩ := ih
    refine ⟨after, ?_⟩
    have behind :
        separated ((first :: early ++ member :: late).map Member.source) =
          first.source ++ 0x2c ::
            separated ((early ++ member :: late).map Member.source) := by
      cases early with
      | nil => rfl
      | cons second others => rfl
    rw [behind, layout]
    simp [front]

/-! ## Rounds -/

theorem skipSpace_blank
    (position : Nat)
    {lead : Bytes}
    (blank : Blank lead)
    {first : UInt8}
    (rest : Bytes)
    (visible : isWhitespace first = false) :
    skipSpace ⟨position, lead ++ first :: rest⟩ =
      ⟨position + lead.length, first :: rest⟩ :=
  Json.skipWhitespace_blank position blank rest visible

variable {space : Bytes}
variable {key : Bytes}
variable {member : Member}
variable {early late : List Member}

theorem rawMembers_comma
    (key : Bytes)
    (rounds position : Nat)
    (blank : Blank space)
    (rest : Bytes) :
    rawMembers key (rounds + 1) ⟨position, space ++ 0x2c :: rest⟩ =
      rawMembers key rounds ⟨position + space.length + 1, rest⟩ := by
  rw [rawMembers]
  simp only [skipSpace_blank position blank rest
    (show isWhitespace 0x2c = false by decide), Json.Cursor.skip_one]
  rfl

theorem rawMembers_close
    (key : Bytes)
    (rounds position : Nat)
    (blank : Blank space)
    (rest : Bytes) :
    rawMembers key (rounds + 1) ⟨position, space ++ 0x7d :: rest⟩ = none := by
  rw [rawMembers]
  simp only [skipSpace_blank position blank rest
    (show isWhitespace 0x7d = false by decide)]
  rfl

theorem endsScalar_trail
    {trail rest : Bytes}
    {byte : UInt8}
    (blank : Blank trail)
    (ends : scalarByte byte = false) :
    EndsScalar (trail ++ byte :: rest) := by
  intro first head
  cases trail with
  | nil =>
    cases head
    exact ends
  | cons space trail =>
    cases head
    have isBlank := blank first mem_cons_self
    simp only [isWhitespace, Bool.or_eq_true, decide_eq_true_eq] at isBlank
    rcases isBlank with ((rfl | rfl) | rfl) | rfl <;> decide

theorem rawMembers_member
    (ascii : Ascii key)
    (spaced : member.Spaced)
    (isSource : Source member.item.text member.item.value)
    (rounds position : Nat)
    (blank : Blank space)
    {byte : UInt8}
    (ends : scalarByte byte = false)
    (rest : Bytes) :
    rawMembers key (rounds + 1)
        ⟨position, space ++ (member.source ++ byte :: rest)⟩ =
      if member.key = key then
        some (position + space.length + (opening member).length,
          member.item.text)
      else
        rawMembers key rounds
          ⟨position + space.length + (opening member).length +
              member.item.text.length,
            member.item.trail ++ byte :: rest⟩ := by
  have text :
      space ++ (member.source ++ byte :: rest) =
        (space ++ member.lead) ++ 0x22 :: (member.name ++ 0x22 ::
          (member.gap ++ 0x3a :: (member.item.lead ++
            (member.item.text ++ (member.item.trail ++ byte :: rest))))) := by
    simp [Member.source, Item.source]
  rw [text]
  generalize behindValue :
    member.item.trail ++ byte :: rest = behind at *
  have ended : EndsScalar behind := by
    rw [← behindValue]
    exact endsScalar_trail spaced.item.trail ends
  have length := skipValue_source isSource ended
  obtain ⟨first, others, shape, visible, -⟩ := isSource.head
  have valueSpace (start : Nat) :
      skipSpace ⟨start, member.item.lead ++ (member.item.text ++ behind)⟩ =
        ⟨start + member.item.lead.length, member.item.text ++ behind⟩ := by
    rw [shape, List.cons_append]
    exact skipSpace_blank start spaced.item.lead _ visible
  generalize behindColon :
    member.item.lead ++ (member.item.text ++ behind) = value at valueSpace ⊢
  have closing :=
    (quoted_of_stringBody spaced.spells).stringSpan
      (member.gap ++ 0x3a :: value)
  have literal :
      (0x22 :: (member.name ++ 0x22 :: (member.gap ++ 0x3a :: value)) :
        Bytes) =
        (0x22 :: (member.name ++ [0x22])) ++ (member.gap ++ 0x3a :: value) := by
    simp
  have literalLength :
      member.name.length + 2 = (0x22 :: (member.name ++ [0x22]) : Bytes).length := by
    simp
  have spells := decodeJsonString_eq_iff spaced.spells ascii
  have offset :
      position + (space ++ member.lead).length + (member.name.length + 2) +
          member.gap.length + 1 + member.item.lead.length =
        position + space.length + (opening member).length := by
    simp [opening]
    omega
  rw [rawMembers]
  simp only [skipSpace_blank position (blank.append spaced.lead) _
    (show isWhitespace 0x22 = false by decide),
    show ((0x22 : UInt8) = 0x7d) = False by decide,
    show ((0x22 : UInt8) = 0x2c) = False by decide, ne_eq, not_true, if_false,
    closing]
  rw [if_neg (by simp), literal]
  simp only [literalLength, List.take_left, Json.Cursor.skip_append]
  simp only [← literalLength, skipSpace_blank _ spaced.gap _
    (show isWhitespace 0x3a = false by decide), List.head?_cons, not_true,
    if_false, Json.Cursor.skip_one, valueSpace, length, offset, spells]
  rw [if_neg (by simp)]
  simp only [List.take_left, Json.Cursor.skip_append]

/-! ## Runs -/

/-- A member that is passed by, with the comma behind it. -/
theorem rawMembers_pass
    (ascii : Ascii key)
    (spaced : member.Spaced)
    (isSource : Source member.item.text member.item.value)
    (other : member.key ≠ key)
    (rounds position : Nat)
    (blank : Blank space)
    (rest : Bytes) :
    rawMembers key (rounds + 2)
        ⟨position, space ++ (member.source ++ 0x2c :: rest)⟩ =
      rawMembers key rounds
        ⟨position + space.length + member.source.length + 1, rest⟩ := by
  rw [rawMembers_member ascii spaced isSource (rounds + 1) position blank
    (by decide), if_neg other, rawMembers_comma key rounds _ spaced.item.trail]
  congr 2
  simp [opening, Member.source, Item.source]
  omega

theorem rawMembers_found
    (ascii : Ascii key)
    (spaced : ∀ other ∈ early ++ member :: late, other.Spaced)
    (each : ∀ other ∈ early ++ member :: late,
      Source other.item.text other.item.value)
    (others : ∀ other ∈ early, other.key ≠ key)
    (named : member.key = key)
    {rounds : Nat}
    (enough : 2 * early.length < rounds)
    (position : Nat)
    (blank : Blank space)
    (behind : Bytes) :
    rawMembers key rounds
        ⟨position, space ++
          (separated ((early ++ member :: late).map Member.source) ++
            0x7d :: behind)⟩ =
      some (position + space.length + (front early member).length,
        member.item.text) := by
  induction early generalizing rounds position space with
  | nil =>
    obtain ⟨rounds, rfl⟩ : ∃ fewer, rounds = fewer + 1 :=
      ⟨rounds - 1, by omega⟩
    have memberSpaced := spaced member mem_cons_self
    have isSource := each member mem_cons_self
    cases late with
    | nil =>
      have found :=
        rawMembers_member ascii memberSpaced isSource rounds position
          blank (show scalarByte 0x7d = false by decide) behind
      rw [if_pos named] at found
      exact found
    | cons second others =>
      have found :=
        rawMembers_member ascii memberSpaced isSource rounds position
          blank (show scalarByte 0x2c = false by decide)
          (separated ((second :: others).map Member.source) ++
            0x7d :: behind)
      rw [if_pos named] at found
      simpa [separated, front] using found
  | cons first early ih =>
    obtain ⟨rounds, rfl⟩ : ∃ fewer, rounds = fewer + 2 :=
      ⟨rounds - 2, by
        rw [length_cons] at enough
        omega⟩
    have text :
        separated ((first :: early ++ member :: late).map Member.source) ++
            0x7d :: behind =
          first.source ++ 0x2c :: ([] ++
            (separated ((early ++ member :: late).map Member.source) ++
              0x7d :: behind)) := by
      cases early with
      | nil => simp [separated]
      | cons second others => simp [separated]
    rw [text, rawMembers_pass ascii (spaced first mem_cons_self)
      (each first mem_cons_self) (others first mem_cons_self)
      rounds position blank,
      ih
        (fun other listed => spaced other (mem_cons_of_mem _ listed))
        (fun other listed => each other (mem_cons_of_mem _ listed))
        (fun other listed => others other (mem_cons_of_mem _ listed))
        (by
          rw [length_cons] at enough
          omega)
        _ (show Blank [] from List.forall_mem_nil _)]
    simp only [front, length_append, length_cons, List.length_nil,
      Option.some.injEq, Prod.mk.injEq, and_true]
    omega

/-- Without a member of that name nothing is found. -/
theorem rawMembers_absent
    (ascii : Ascii key)
    {members : List Member}
    (spaced : ∀ member ∈ members, member.Spaced)
    (each : ∀ member ∈ members,
      Source member.item.text member.item.value)
    (others : ∀ member ∈ members, member.key ≠ key)
    {rounds : Nat}
    (enough : 2 * members.length < rounds)
    (position : Nat)
    (blank : Blank space)
    (behind : Bytes) :
    rawMembers key rounds
        ⟨position, space ++
          (separated (members.map Member.source) ++ 0x7d :: behind)⟩ =
      none := by
  induction members generalizing rounds position space with
  | nil =>
    obtain ⟨rounds, rfl⟩ : ∃ fewer, rounds = fewer + 1 :=
      ⟨rounds - 1, by omega⟩
    exact rawMembers_close key rounds position blank behind
  | cons first members ih =>
    obtain ⟨rounds, rfl⟩ : ∃ fewer, rounds = fewer + 2 :=
      ⟨rounds - 2, by
        rw [length_cons] at enough
        omega⟩
    have firstSpaced := spaced first mem_cons_self
    have isSource := each first mem_cons_self
    have other := others first mem_cons_self
    cases members with
    | nil =>
      have passed :=
        rawMembers_member ascii firstSpaced isSource (rounds + 1) position
          blank (show scalarByte 0x7d = false by decide) behind
      rw [if_neg other,
        rawMembers_close key rounds _ firstSpaced.item.trail] at passed
      exact passed
    | cons second later =>
      have text :
          separated ((first :: second :: later).map Member.source) ++
              0x7d :: behind =
            first.source ++ 0x2c :: ([] ++
              (separated ((second :: later).map Member.source) ++
                0x7d :: behind)) := by
        simp [separated]
      rw [text, rawMembers_pass ascii firstSpaced isSource other rounds
        position blank]
      exact ih
        (fun member listed =>
          spaced member (mem_cons_of_mem _ listed))
        (fun member listed => each member (mem_cons_of_mem _ listed))
        (fun member listed =>
          others member (mem_cons_of_mem _ listed))
        (by
          rw [length_cons] at enough
          omega)
        _ (show Blank [] from List.forall_mem_nil _)

/-- Every member takes more bytes than the rounds it needs. -/
theorem members_length_le
    (members : List Member) :
    2 * members.length ≤ (separated (members.map Member.source)).length := by
  induction members with
  | nil => exact Nat.zero_le _
  | cons first members ih =>
    have length := first.source_length
    cases members with
    | nil =>
      simp only [List.map_cons, List.map_nil, separated, length_cons,
        List.length_nil]
      omega
    | cons second later =>
      simp only [List.map_cons, separated, length_cons,
        length_append] at ih ⊢
      omega

/-! ## Documents -/

variable (layout : ObjectText)

/-- The scanner enters the braces. -/
theorem ObjectText.rawMember_eq
    (key : Bytes) :
    rawMember layout.text key =
      rawMembers key (layout.text.length + 1)
        ⟨layout.before.length + 1, layout.space ++
          (separated (layout.members.map Member.source) ++
            0x7d :: layout.behind)⟩ := by
  have opened :
      skipSpace { rest := layout.text } =
        ⟨0 + layout.before.length, 0x7b :: (layout.space ++
          (separated (layout.members.map Member.source) ++
            0x7d :: layout.behind))⟩ :=
    skipSpace_blank 0 layout.blankBefore _ (by decide)
  rw [rawMember]
  simp only [opened, List.head?_cons, ne_eq, not_true, if_false,
    Json.Cursor.skip_one, Nat.zero_add]

theorem ObjectText.rounds
    (layout : ObjectText) :
    2 * layout.members.length < layout.text.length + 1 := by
  have bound := members_length_le layout.members
  simp only [ObjectText.text, length_append, length_cons]
  omega

theorem ObjectText.early_keys
    (split : layout.members = early ++ member :: late) :
    ∀ other ∈ early, other.key ≠ member.key := by
  intro other listed same
  have unique := layout.unique
  rw [split, List.map_append, List.nodup_append] at unique
  exact unique.2.2 other.key (List.mem_map_of_mem listed) member.key
    (List.mem_map_of_mem mem_cons_self) same

/-- The scanner cuts out the value of the member with that name. -/
theorem ObjectText.rawMember_found
    (split : layout.members = early ++ member :: late)
    (ascii : Ascii member.key) :
    rawMember layout.text member.key =
      some ((layout.front early member).length, member.item.text) := by
  have rounds := layout.rounds
  rw [split, length_append, length_cons] at rounds
  rw [layout.rawMember_eq, split,
    rawMembers_found ascii (by rw [← split]; exact layout.spaced)
      (by rw [← split]; exact layout.each) (layout.early_keys split) rfl
      (by omega) _ layout.blankSpace]
  simp only [ObjectText.front, length_append, length_cons,
    Option.some.injEq, Prod.mk.injEq, and_true]
  omega

/-- The scanner finds nothing under a name the document does not have. -/
theorem ObjectText.rawMember_absent
    (ascii : Ascii key)
    (others : ∀ member ∈ layout.members, member.key ≠ key) :
    rawMember layout.text key = none := by
  rw [layout.rawMember_eq,
    rawMembers_absent ascii layout.spaced layout.each others layout.rounds _
      layout.blankSpace]

theorem lookup_entry
    (others : ∀ other ∈ early, other.key ≠ member.key) :
    ((early ++ member :: late).map Member.entry).lookup member.key =
      some member.item.value := by
  induction early with
  | nil => simp [Member.entry]
  | cons first early ih =>
    have notFirst : (member.key == first.key) = false := by
      simpa using (others first mem_cons_self).symm
    have behind :=
      ih fun other listed =>
        others other (mem_cons_of_mem first listed)
    simpa [Member.entry, List.lookup_cons, notFirst] using behind

theorem ObjectText.find_absent
    (others : ∀ member ∈ layout.members, member.key ≠ key) :
    (JsonValue.object (layout.members.map Member.entry)).find key = none := by
  refine Json.lookup_none fun listed => ?_
  rw [Json.map_fst_entry] at listed
  obtain ⟨member, memberListed, named⟩ := List.mem_map.mp listed
  exact others member memberListed named

/-- The value stands in the document right behind its front. -/
theorem ObjectText.text_eq_front
    (split : layout.members = early ++ member :: late) :
    ∃ after,
      layout.text =
        layout.front early member ++ (member.item.text ++ after) := by
  obtain ⟨after, source⟩ := separated_eq_front early member late
  refine ⟨after ++ 0x7d :: layout.behind, ?_⟩
  rw [ObjectText.text, split, source]
  simp [ObjectText.front]

theorem last_of_scalar
    {text : Bytes}
    (nonempty : text ≠ [])
    (scalar : ∀ byte ∈ text, Scalar byte) :
    ∃ byte rest, text = rest ++ [byte] ∧ isWhitespace byte = false := by
  refine ⟨text.getLast nonempty, text.dropLast,
    (List.dropLast_append_getLast nonempty).symm, ?_⟩
  have visible := (scalar _ (List.getLast_mem nonempty)).1
  simp only [scalarByte, Bool.not_eq_true', Bool.or_eq_false_iff] at visible
  exact visible.2

/-- No blanks stand around a source. -/
theorem trimmed_source
    {text : Bytes}
    {value : JsonValue}
    (isSource : Source text value) :
    Trimmed text := by
  obtain ⟨first, rest, shape, visible, -⟩ := isSource.head
  refine ⟨⟨first, rest, shape, visible⟩, ?_⟩
  cases isSource with
  | null => exact last_of_scalar (by decide) (by decide)
  | true => exact last_of_scalar (by decide) (by decide)
  | false => exact last_of_scalar (by decide) (by decide)
  | number isNumber _ =>
    exact last_of_scalar (by simp [shape]) (scalar_of_number isNumber)
  | string => exact ⟨0x22, _, List.cons_append.symm, by decide⟩
  | emptyArray => exact ⟨0x5d, _, List.cons_append.symm, by decide⟩
  | array => exact ⟨0x5d, _, List.cons_append.symm, by decide⟩
  | emptyObject => exact ⟨0x7d, _, List.cons_append.symm, by decide⟩
  | object => exact ⟨0x7d, _, List.cons_append.symm, by decide⟩

/--
`raw_member` beside `JsonValue::parse`.  Every document that is an object has a layout
in which each member's value stands as a source of its own.  For every ASCII key the
scanner finds something exactly when the document has the member, and then it is that
member's value where it stands in the document, without blanks around it, and a
document of its own with the same value.
-/
theorem rawMember_cuts_source
    {body : Bytes}
    {entries : List (Bytes × JsonValue)}
    (parsed : parse body = .ok (.object entries)) :
    ∃ layout : ObjectText,
      layout.text = body ∧ layout.members.map Member.entry = entries ∧
        ∀ key, Ascii key →
          ((rawMember body key).isSome ↔
            ((JsonValue.object entries).find key).isSome) ∧
          ∀ start span, rawMember body key = some (start, span) →
            ∃ early member late,
              layout.members = early ++ member :: late ∧
                member.key = key ∧ span = member.item.text ∧
                (∃ after,
                  body = layout.front early member ++ (span ++ after)) ∧
                start = (layout.front early member).length ∧
                Trimmed span ∧
                (JsonValue.object entries).find key =
                  some member.item.value ∧
                parse span = .ok member.item.value := by
  obtain ⟨layout, rfl, rfl⟩ := exists_objectText parsed
  refine ⟨layout, rfl, rfl, ?_⟩
  intro key ascii
  by_cases present : ∃ member ∈ layout.members, member.key = key
  · obtain ⟨member, listed, rfl⟩ := present
    obtain ⟨early, late, split⟩ := List.append_of_mem listed
    have found := layout.rawMember_found split ascii
    have isSource := layout.each member listed
    have looked :
        (JsonValue.object (layout.members.map Member.entry)).find
          member.key = some member.item.value := by
      rw [split]
      exact lookup_entry (layout.early_keys split)
    refine ⟨by simp [found, looked], ?_⟩
    intro start span cut
    rw [found] at cut
    cases cut
    exact ⟨early, member, late, split, rfl, rfl, layout.text_eq_front split,
      rfl, trimmed_source isSource, looked, isSource.parse⟩
  · push Not at present
    have missing := layout.rawMember_absent ascii present
    refine ⟨by simp [missing, layout.find_absent present], ?_⟩
    intro start span cut
    rw [missing] at cut
    cases cut

/-- A nested member of that name, a bracket in a string and an escaped key. -/
theorem rawMember_cuts_escaped_key :
    rawMember
        (bytes "\x7b\"a\": [\x7b\"tools\":null\x7d], \"t\\u006fols\" : [\"]\"] \x7d")
        (bytes "tools") = some (39, bytes "[\"]\"]") ∧
      parse (bytes "[\"]\"]") = .ok (.array [.string (bytes "]")]) := by
  have parsed :
      parse (bytes
        "\x7b\"a\": [\x7b\"tools\":null\x7d], \"t\\u006fols\" : [\"]\"] \x7d") =
        .ok (.object [(bytes "a", .array [.object [(bytes "tools", .null)]]),
          (bytes "tools", .array [.string (bytes "]")])]) := rfl
  have found :
      rawMember
        (bytes "\x7b\"a\": [\x7b\"tools\":null\x7d], \"t\\u006fols\" : [\"]\"] \x7d")
        (bytes "tools") = some (39, bytes "[\"]\"]") := by decide +kernel
  obtain ⟨layout, -, -, cuts⟩ := rawMember_cuts_source parsed
  obtain ⟨early, member, late, -, -, -, -, -, -, looked, read⟩ :=
    (cuts (bytes "tools") (by unfold Ascii; decide)).2 _ _ found
  refine ⟨found, ?_⟩
  rw [read]
  exact congrArg _ (Option.some.inj (looked.symm.trans rfl))

end Aeon.JsonSpan
