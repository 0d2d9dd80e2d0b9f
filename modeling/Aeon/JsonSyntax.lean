import Aeon.JsonReading
import Aeon.JsonTokens

namespace Aeon.Json

open List (forall_mem_cons forall_mem_map map_cons map_map)

/-!
# JSON texts

`Spells` is the grammar of JSON over bytes.  A text spells a tree that keeps number
literals and the parts of strings, so that every reader can be described by what it
makes of the tree.  Readers differ in the numbers and in the bytes they take.
-/

/-- A JSON tree with its literals. -/
inductive RawJson where
  | null
  | bool (value : Bool)
  | number (literal : Bytes)
  | string (tokens : List Token)
  | array (elements : List RawJson)
  | object (members : List (List Token × RawJson))

/-- The literals a reader takes for numbers, and the bytes it takes in strings. -/
structure Dialect where
  number : Bytes → Prop
  allowed : UInt8 → Prop

/-- RFC 8259, whose strings hold any bytes from `0x20` on. -/
def Dialect.rfc : Dialect where
  number := NumberText
  allowed := Printable

/-- A value's text with the blanks around it. -/
structure Padded where
  lead : Bytes
  text : Bytes
  trail : Bytes
  tree : RawJson

/-- A member's key literal, its colon and its value, with the blanks around them. -/
structure Entry where
  lead : Bytes
  name : Bytes
  key : List Token
  gap : Bytes
  padded : Padded

/-- The bytes of an element. -/
def Padded.source (padded : Padded) : Bytes :=
  padded.lead ++ (padded.text ++ padded.trail)

/-- The bytes of a member. -/
def Entry.source (entry : Entry) : Bytes :=
  entry.lead ++
    0x22 :: (entry.name ++ 0x22 :: (entry.gap ++ 0x3a :: entry.padded.source))

/-- The key and the tree of a member. -/
def Entry.member (entry : Entry) : List Token × RawJson :=
  (entry.key, entry.padded.tree)

/-- Only blanks stand around the value. -/
structure Padded.Spaced (padded : Padded) : Prop where
  lead : Blank padded.lead
  trail : Blank padded.trail

/-- Only blanks stand around the key and the value, and the key is spelled out. -/
structure Entry.Spaced
    (allowed : UInt8 → Prop)
    (entry : Entry) : Prop where
  lead : Blank entry.lead
  spells : Tokens allowed entry.name entry.key
  gap : Blank entry.gap
  padded : entry.padded.Spaced

/-- The text of one value, without blanks around it. -/
inductive Spells (dialect : Dialect) : Bytes → RawJson → Prop where
  | null : Spells dialect (bytes "null") .null
  | true : Spells dialect (bytes "true") (.bool true)
  | false : Spells dialect (bytes "false") (.bool false)
  | number
      {literal : Bytes}
      (isNumber : dialect.number literal) :
      Spells dialect literal (.number literal)
  | string
      {body : Bytes}
      {tokens : List Token}
      (spells : Tokens dialect.allowed body tokens) :
      Spells dialect (0x22 :: (body ++ [0x22])) (.string tokens)
  | emptyArray
      {space : Bytes}
      (blank : Blank space) :
      Spells dialect (0x5b :: (space ++ [0x5d])) (.array [])
  | array
      {elements : List Padded}
      (nonempty : elements ≠ [])
      (spaced : ∀ padded ∈ elements, padded.Spaced)
      (each : ∀ padded ∈ elements, Spells dialect padded.text padded.tree) :
      Spells dialect
        (0x5b :: (separated (elements.map Padded.source) ++ [0x5d]))
        (.array (elements.map Padded.tree))
  | emptyObject
      {space : Bytes}
      (blank : Blank space) :
      Spells dialect (0x7b :: (space ++ [0x7d])) (.object [])
  | object
      {entries : List Entry}
      (nonempty : entries ≠ [])
      (spaced : ∀ entry ∈ entries, entry.Spaced dialect.allowed)
      (each : ∀ entry ∈ entries,
        Spells dialect entry.padded.text entry.padded.tree) :
      Spells dialect (0x7b :: (separated (entries.map Entry.source) ++ [0x7d]))
        (.object (entries.map Entry.member))

/-- A value between blanks. -/
def Document
    (dialect : Dialect)
    (text : Bytes)
    (tree : RawJson) : Prop :=
  ∃ before body behind,
    Blank before ∧ Blank behind ∧ Spells dialect body tree ∧
      text = before ++ (body ++ behind)

/-! ## What holds throughout a tree -/

namespace RawJson

@[elab_as_elim]
theorem induct
    {motive : RawJson → Prop}
    (null : motive .null)
    (bool : ∀ value, motive (.bool value))
    (number : ∀ literal, motive (.number literal))
    (string : ∀ tokens, motive (.string tokens))
    (array : ∀ elements, (∀ element ∈ elements, motive element) →
      motive (.array elements))
    (object : ∀ members, (∀ member ∈ members, motive member.2) →
      motive (.object members)) :
    ∀ tree, motive tree
  | .null => null
  | .bool value => bool value
  | .number literal => number literal
  | .string tokens => string tokens
  | .array elements =>
    array elements fun element _ =>
      induct null bool number string array object element
  | .object members =>
    object members fun member _ =>
      induct null bool number string array object member.2
termination_by tree => sizeOf tree
decreasing_by
  · have smaller := List.sizeOf_lt_of_mem ‹element ∈ elements›
    simp only [RawJson.array.sizeOf_spec]
    omega
  · have smaller := List.sizeOf_lt_of_mem ‹member ∈ members›
    have part : sizeOf member.2 < sizeOf member := by
      cases member
      simp
    simp only [RawJson.object.sizeOf_spec]
    omega

section Every

variable
    (number : Bytes → Prop)
    (string : List Token → Prop)
    (keys : List (List Token) → Prop)

mutual

/-- The numbers, the strings and the keys of each object are as required. -/
def Every : RawJson → Prop
  | .null => True
  | .bool _ => True
  | .number literal => number literal
  | .string tokens => string tokens
  | .array elements => EveryElement elements
  | .object members => keys (members.map Prod.fst) ∧ EveryMember members

/-- The same of each element. -/
def EveryElement : List RawJson → Prop
  | [] => True
  | element :: rest => element.Every ∧ EveryElement rest

/-- The same of each member. -/
def EveryMember : List (List Token × RawJson) → Prop
  | [] => True
  | (_, member) :: rest => member.Every ∧ EveryMember rest

end

theorem everyElement_iff
    {elements : List RawJson} :
    EveryElement number string keys elements ↔
      ∀ element ∈ elements, element.Every number string keys := by
  induction elements with
  | nil => simp [EveryElement]
  | cons element rest ih =>
    rw [EveryElement, ih, forall_mem_cons]

theorem everyMember_iff
    {members : List (List Token × RawJson)} :
    EveryMember number string keys members ↔
      ∀ member ∈ members, member.2.Every number string keys := by
  induction members with
  | nil => simp [EveryMember]
  | cons member rest ih =>
    rw [EveryMember, ih, forall_mem_cons]

end Every

section

variable
    {number otherNumber : Bytes → Prop}
    {string otherString : List Token → Prop}
    {keys otherKeys : List (List Token) → Prop}

/-- What holds of every literal is implied by what does. -/
theorem Every.imp
    (numbers : ∀ literal, number literal → otherNumber literal)
    (strings : ∀ tokens, string tokens → otherString tokens)
    (allKeys : ∀ names, keys names → otherKeys names)
    {tree : RawJson}
    (every : tree.Every number string keys) :
    tree.Every otherNumber otherString otherKeys := by
  induction tree using RawJson.induct with
  | null | bool => trivial
  | number literal => exact numbers literal every
  | string tokens => exact strings tokens every
  | array elements ih =>
    rw [Every, everyElement_iff] at every ⊢
    exact fun element isElement =>
      ih element isElement (every element isElement)
  | object members ih =>
    rw [Every, everyMember_iff] at every ⊢
    exact ⟨allKeys _ every.1, fun member isMember =>
      ih member isMember (every.2 member isMember)⟩

/-- Two things that hold of every literal hold together. -/
theorem Every.and
    {tree : RawJson} :
    tree.Every (fun literal => number literal ∧ otherNumber literal)
        (fun tokens => string tokens ∧ otherString tokens)
        (fun names => keys names ∧ otherKeys names) ↔
      tree.Every number string keys ∧ tree.Every otherNumber otherString otherKeys := by
  refine ⟨fun every => ⟨every.imp (fun _ => And.left) (fun _ => And.left)
    (fun _ => And.left), every.imp (fun _ => And.right) (fun _ => And.right)
    (fun _ => And.right)⟩, ?_⟩
  rintro ⟨every, other⟩
  induction tree using RawJson.induct with
  | null | bool => trivial
  | number literal => exact ⟨every, other⟩
  | string tokens => exact ⟨every, other⟩
  | array elements ih =>
    rw [Every, everyElement_iff] at every other ⊢
    exact fun element isElement => ih element isElement
      (every element isElement) (other element isElement)
  | object members ih =>
    rw [Every, everyMember_iff] at every other ⊢
    exact ⟨⟨every.1, other.1⟩, fun member isMember =>
      ih member isMember (every.2 member isMember)
        (other.2 member isMember)⟩

end

/-! ## The reader's value -/

mutual

/-- What `JsonValue::parse` makes of a tree it accepts. -/
def value : RawJson → JsonValue
  | .null => .null
  | .bool value => .bool value
  | .number literal => .number ((stod literal).getD 0)
  | .string tokens => .string (stringText tokens)
  | .array elements => .array (elementValues elements)
  | .object members => .object (memberValues members)

/-- The values of the elements. -/
def elementValues : List RawJson → List JsonValue
  | [] => []
  | element :: rest => element.value :: elementValues rest

/-- The strings and the values of the members. -/
def memberValues : List (List Token × RawJson) → List (Bytes × JsonValue)
  | [] => []
  | (key, member) :: rest => (stringText key, member.value) :: memberValues rest

end

theorem elementValues_eq (elements : List RawJson) :
    elementValues elements = elements.map value := by
  induction elements with
  | nil => rfl
  | cons element rest ih =>
    rw [elementValues, ih, map_cons]

theorem memberValues_eq (members : List (List Token × RawJson)) :
    memberValues members =
      members.map fun member => (stringText member.1, member.2.value) := by
  induction members with
  | nil => rfl
  | cons member rest ih =>
    rw [memberValues, ih, map_cons]

/-- Every number is within a double's range, and no object has a key twice. -/
def Acceptable (tree : RawJson) : Prop :=
  tree.Every (fun literal => (stod literal).isSome) (fun _ => True)
    fun keys => (keys.map stringText).Nodup

end RawJson

theorem RawJson.acceptable_array
    {elements : List RawJson} :
    (RawJson.array elements).Acceptable ↔
      ∀ element ∈ elements, element.Acceptable :=
  RawJson.everyElement_iff _ _ _

theorem RawJson.acceptable_object
    {members : List (List Token × RawJson)} :
    (RawJson.object members).Acceptable ↔
      (members.map fun member => stringText member.1).Nodup ∧
        ∀ member ∈ members, member.2.Acceptable := by
  unfold RawJson.Acceptable
  rw [RawJson.Every, RawJson.everyMember_iff, map_map]
  rfl

/-! ## Every source is a JSON text -/

theorem exists_padded
    {items : List Item}
    (spaced : ∀ item ∈ items, item.Spaced)
    (each : ∀ item ∈ items, ∃ tree : RawJson,
      Spells .rfc item.text tree ∧ tree.Acceptable ∧ tree.value = item.value) :
    ∃ elements : List Padded,
      elements.map Padded.source = items.map Item.source ∧
        (∀ padded ∈ elements, padded.Spaced) ∧
        (∀ padded ∈ elements, Spells .rfc padded.text padded.tree) ∧
        (∀ padded ∈ elements, padded.tree.Acceptable) ∧
        elements.map (fun padded => padded.tree.value) = items.map Item.value := by
  induction items with
  | nil => exact ⟨[], rfl, nofun, nofun, nofun, rfl⟩
  | cons item items ih =>
    rw [forall_mem_cons] at spaced each
    obtain ⟨tree, spells, acceptable, value⟩ := each.1
    obtain ⟨elements, sources, allSpaced, allSpell, allAcceptable, values⟩ :=
      ih spaced.2 each.2
    refine ⟨⟨item.lead, item.text, item.trail, tree⟩ :: elements, ?_, ?_, ?_, ?_, ?_⟩
    · rw [map_cons, map_cons, sources]
      rfl
    · exact List.forall_mem_cons.mpr ⟨⟨spaced.1.lead, spaced.1.trail⟩, allSpaced⟩
    · exact List.forall_mem_cons.mpr ⟨spells, allSpell⟩
    · exact List.forall_mem_cons.mpr ⟨acceptable, allAcceptable⟩
    · rw [map_cons, map_cons, values, value]

theorem exists_entries
    {members : List Member}
    (spaced : ∀ member ∈ members, member.Spaced)
    (each : ∀ member ∈ members, ∃ tree : RawJson,
      Spells .rfc member.item.text tree ∧ tree.Acceptable ∧
        tree.value = member.item.value) :
    ∃ entries : List Entry,
      entries.map Entry.source = members.map Member.source ∧
        (∀ entry ∈ entries, entry.Spaced Printable) ∧
        (∀ entry ∈ entries, Spells .rfc entry.padded.text entry.padded.tree) ∧
        (∀ entry ∈ entries, entry.padded.tree.Acceptable) ∧
        entries.map (fun entry => (stringText entry.key, entry.padded.tree.value)) =
          members.map Member.entry := by
  induction members with
  | nil => exact ⟨[], rfl, nofun, nofun, nofun, rfl⟩
  | cons member members ih =>
    rw [forall_mem_cons] at spaced each
    obtain ⟨tree, spells, acceptable, value⟩ := each.1
    obtain ⟨tokens, isBody, key⟩ := spaced.1.spells.tokens
    obtain ⟨entries, sources, allSpaced, allSpell, allAcceptable, values⟩ :=
      ih spaced.2 each.2
    refine ⟨⟨member.lead, member.name, tokens, member.gap,
      ⟨member.item.lead, member.item.text, member.item.trail, tree⟩⟩ :: entries,
      ?_, ?_, ?_, ?_, ?_⟩
    · rw [map_cons, map_cons, sources]
      rfl
    · exact List.forall_mem_cons.mpr ⟨⟨spaced.1.lead, isBody, spaced.1.gap,
        ⟨spaced.1.item.lead, spaced.1.item.trail⟩⟩, allSpaced⟩
    · exact List.forall_mem_cons.mpr ⟨spells, allSpell⟩
    · exact List.forall_mem_cons.mpr ⟨acceptable, allAcceptable⟩
    · rw [map_cons, map_cons, values, value, key]
      rfl

variable {text : Bytes}
variable {tree : RawJson}
variable {dialect : Dialect}

theorem Source.spells
    {value : JsonValue}
    (isSource : Source text value) :
    ∃ tree : RawJson,
      Spells .rfc text tree ∧ tree.Acceptable ∧ tree.value = value := by
  induction isSource with
  | null => exact ⟨.null, .null, trivial, rfl⟩
  | true => exact ⟨.bool Bool.true, .true, trivial, rfl⟩
  | false => exact ⟨.bool Bool.false, .false, trivial, rfl⟩
  | @number text number isNumber rounds =>
    refine ⟨.number text, .number isNumber, ?_, ?_⟩
    · exact Option.isSome_of_eq_some rounds
    · rw [RawJson.value, rounds, Option.getD_some]
  | string spells =>
    obtain ⟨tokens, isBody, rfl⟩ := spells.tokens
    exact ⟨.string tokens, .string isBody, trivial, rfl⟩
  | emptyArray blank => exact ⟨.array [], .emptyArray blank, trivial, rfl⟩
  | @array items nonempty spaced _ ih =>
    obtain ⟨elements, sources, allSpaced, allSpell, allAcceptable, values⟩ :=
      exists_padded spaced ih
    have notEmpty : elements ≠ [] := by
      rintro rfl
      exact nonempty (List.map_eq_nil_iff.mp sources.symm)
    refine ⟨.array (elements.map Padded.tree), ?_, ?_, ?_⟩
    · rw [← sources]
      exact .array notEmpty allSpaced allSpell
    · rw [RawJson.acceptable_array, forall_mem_map]
      exact allAcceptable
    · rw [RawJson.value, RawJson.elementValues_eq, map_map, ← values]
      rfl
  | emptyObject blank =>
    exact ⟨.object [], .emptyObject blank, ⟨List.nodup_nil, trivial⟩, rfl⟩
  | @object members nonempty spaced unique _ ih =>
    obtain ⟨entries, sources, allSpaced, allSpell, allAcceptable, values⟩ :=
      exists_entries spaced ih
    have notEmpty : entries ≠ [] := by
      rintro rfl
      exact nonempty (List.map_eq_nil_iff.mp sources.symm)
    have keys : entries.map (fun entry => stringText entry.key) =
        members.map Member.key := by
      rw [← map_fst_entry, ← values, map_map]
      rfl
    refine ⟨.object (entries.map Entry.member), ?_, ?_, ?_⟩
    · rw [← sources]
      exact .object notEmpty allSpaced allSpell
    · rw [RawJson.acceptable_object, map_map, forall_mem_map]
      refine ⟨?_, allAcceptable⟩
      rw [← keys] at unique
      exact unique
    · rw [RawJson.value, RawJson.memberValues_eq, map_map, ← values]
      rfl

theorem Spells.source
    (spells : Spells .rfc text tree)
    (acceptable : tree.Acceptable) :
    Source text tree.value := by
  induction spells with
  | null => exact .null
  | true => exact .true
  | false => exact .false
  | @number literal isNumber =>
    obtain ⟨number, rounds⟩ := Option.isSome_iff_exists.mp acceptable
    rw [RawJson.value, rounds, Option.getD_some]
    exact .number isNumber rounds
  | string spells => exact .string spells.stringBody
  | emptyArray blank => exact .emptyArray blank
  | @array elements nonempty spaced _ ih =>
    rw [RawJson.acceptable_array, forall_mem_map] at acceptable
    have isSource := @Source.array
      (elements.map fun padded =>
        ⟨padded.lead, padded.text, padded.trail, padded.tree.value⟩)
      (by simpa using nonempty)
      (List.forall_mem_map.mpr fun padded isElement =>
        ⟨(spaced padded isElement).lead, (spaced padded isElement).trail⟩)
      (List.forall_mem_map.mpr fun padded isElement =>
        ih padded isElement (acceptable padded isElement))
    rw [RawJson.value, RawJson.elementValues_eq, map_map]
    rw [map_map, map_map] at isSource
    exact isSource
  | emptyObject blank => exact .emptyObject blank
  | @object entries nonempty spaced _ ih =>
    rw [RawJson.acceptable_object, map_map, forall_mem_map] at acceptable
    have isSource := @Source.object
      (entries.map fun entry =>
        ⟨entry.lead, entry.name, stringText entry.key, entry.gap,
          ⟨entry.padded.lead, entry.padded.text, entry.padded.trail,
            entry.padded.tree.value⟩⟩)
      (by simpa using nonempty)
      (List.forall_mem_map.mpr fun entry isEntry =>
        ⟨(spaced entry isEntry).lead, (spaced entry isEntry).spells.stringBody,
          (spaced entry isEntry).gap, (spaced entry isEntry).padded.lead,
          (spaced entry isEntry).padded.trail⟩)
      (by
        rw [map_map]
        exact acceptable.1)
      (List.forall_mem_map.mpr fun entry isEntry =>
        ih entry isEntry (acceptable.2 entry isEntry))
    rw [RawJson.value, RawJson.memberValues_eq, map_map]
    rw [map_map, map_map] at isSource
    exact isSource

theorem Spells.literals
    (spells : Spells dialect text tree) :
    tree.Every dialect.number (fun tokens => ∃ body, Tokens dialect.allowed body tokens)
      fun keys => ∀ key ∈ keys, ∃ body, Tokens dialect.allowed body key := by
  induction spells with
  | null | true | false => trivial
  | number isNumber => exact isNumber
  | string isBody => exact ⟨_, isBody⟩
  | emptyArray => trivial
  | array _ _ _ ih =>
    rw [RawJson.Every, RawJson.everyElement_iff, forall_mem_map]
    exact ih
  | emptyObject => exact ⟨nofun, trivial⟩
  | object _ spaced _ ih =>
    rw [RawJson.Every, RawJson.everyMember_iff, map_map, forall_mem_map,
      forall_mem_map]
    exact ⟨fun entry isEntry => ⟨entry.name, (spaced entry isEntry).spells⟩,
      ih⟩

/-! ## What is accepted -/

theorem Blank.stops_end
    {trail : Bytes}
    (blank : Blank trail) :
    Stops trail := by
  intro byte isFirst
  have isBlank := blank byte (List.mem_of_mem_head? isFirst)
  simp only [isWhitespace, Bool.or_eq_true, decide_eq_true_eq] at isBlank
  rcases isBlank with ((rfl | rfl) | rfl) | rfl <;> decide

theorem skipWhitespace_end
    (position : Nat)
    {trail : Bytes}
    (blank : Blank trail) :
    (skipWhitespace ⟨position, trail⟩).rest = [] := by
  have taken : trail.takeWhile isWhitespace = trail :=
    List.takeWhile_eq_self_iff.mpr blank
  simp [skipWhitespace, Cursor.skip, taken]

theorem Source.document
    {before body behind : Bytes}
    {value : JsonValue}
    (isSource : Source body value)
    (beforeBlank : Blank before)
    (behindBlank : Blank behind) :
    Json.parse (before ++ (body ++ behind)) = .ok value := by
  obtain ⟨first, rest, shape, visible, -⟩ := isSource.head
  have read :=
    isSource.reads (2 * (before ++ (body ++ behind)).length + 2) before.length [] behind
      nofun behindBlank.stops_end (by simp only [List.length_append]; omega)
  have started : skipWhitespace { rest := before ++ (body ++ behind) } =
      ⟨before.length, body ++ behind⟩ := by
    rw [shape, List.cons_append, skipWhitespace_blank 0 beforeBlank _ visible,
      Nat.zero_add]
  rw [List.nil_append] at read
  rw [Json.parse, started, read, ok_bind]
  simp [skipWhitespace_end _ behindBlank]

/--
The reader accepts a text if and only if it is JSON, its numbers are in range and no
object has a key twice; a string is read with U+FFFD for each surrogate on its own.
-/
theorem parse_iff
    {value : JsonValue} :
    parse text = .ok value ↔
      ∃ tree, Document .rfc text tree ∧ tree.Acceptable ∧ tree.value = value := by
  constructor
  · intro parsed
    obtain ⟨before, source, behind, beforeBlank, behindBlank, isSource, shape⟩ :=
      parse_ok parsed
    obtain ⟨tree, spells, acceptable, isValue⟩ := isSource.spells
    exact ⟨tree, ⟨before, source, behind, beforeBlank, behindBlank, spells, shape⟩,
      acceptable, isValue⟩
  · rintro ⟨tree, ⟨before, body, behind, beforeBlank, behindBlank, spells, rfl⟩,
      acceptable, rfl⟩
    exact (spells.source acceptable).document beforeBlank behindBlank

/-! ## Valid UTF-8 -/

/-- A literal's parts come from valid text. -/
def ValidLiteral
    (allowed : UInt8 → Prop)
    (tokens : List Token) : Prop :=
  ∃ body, Tokens allowed body tokens ∧ Utf8.Valid body

theorem Blank.ascii
    (blank : Blank text) :
    ∀ value ∈ text, value < 0x80 := by
  intro value isByte
  have isBlank := blank value isByte
  simp only [isWhitespace, Bool.or_eq_true, decide_eq_true_eq] at isBlank
  rcases isBlank with ((rfl | rfl) | rfl) | rfl <;> decide

theorem valid_between
    {lead text trail : Bytes}
    (leadBlank : Blank lead)
    (trailBlank : Blank trail)
    (valid : Utf8.Valid (lead ++ (text ++ trail))) :
    Utf8.Valid text := by
  have others := (asciis_valid leadBlank.ascii).rest valid
  cases trail with
  | nil => simpa using others
  | cons first rest =>
    refine (@valid_around text [] (first :: rest) trailBlank.ascii (by simp) ?_).1
    rwa [List.append_nil]

/-- What stands between two bytes below `0x80` is valid if all is. -/
theorem valid_enclosed
    {opens closes : UInt8}
    (valid : Utf8.Valid (opens :: (text ++ [closes])))
    (opensAscii : opens < 0x80)
    (closesAscii : closes < 0x80) :
    Utf8.Valid text := by
  have others := (ascii_valid opensAscii).rest
    (show Utf8.Valid ([opens] ++ (text ++ [closes])) from valid)
  refine (@valid_around text [] [closes] (by simpa using closesAscii) (by simp) ?_).1
  rwa [List.append_nil]

theorem valid_separated
    {parts : List Bytes}
    (valid : Utf8.Valid (separated parts)) :
    ∀ part ∈ parts, Utf8.Valid part := by
  induction parts with
  | nil => simp
  | cons first rest ih =>
    cases rest with
    | nil => simpa [separated] using valid
    | cons second rest =>
      have cut := valid_around [0x2c] (by decide) (by simp)
        (show Utf8.Valid (first ++ ([0x2c] ++ separated (second :: rest))) from
          valid)
      exact List.forall_mem_cons.mpr ⟨cut.1, ih cut.2⟩

theorem Entry.Spaced.valid
    {allowed : UInt8 → Prop}
    {entry : Entry}
    (spaced : entry.Spaced allowed)
    (valid : Utf8.Valid entry.source) :
    ValidLiteral allowed entry.key ∧ Utf8.Valid entry.padded.text := by
  have named := (valid_around [0x22] (by decide) (by simp)
    (show Utf8.Valid (entry.lead ++ ([0x22] ++ (entry.name ++
      0x22 :: (entry.gap ++ 0x3a :: entry.padded.source)))) from valid)).2
  have behind := valid_around [0x22] (by decide) (by simp)
    (show Utf8.Valid (entry.name ++ ([0x22] ++ (entry.gap ++
      0x3a :: entry.padded.source))) from named)
  have padded := (valid_around [0x3a] (by decide) (by simp)
    (show Utf8.Valid (entry.gap ++ ([0x3a] ++ entry.padded.source)) from
      behind.2)).2
  exact ⟨⟨entry.name, spaced.spells, behind.1⟩,
    valid_between spaced.padded.lead spaced.padded.trail padded⟩

theorem Spells.valid
    (spells : Spells dialect text tree)
    (valid : Utf8.Valid text) :
    tree.Every (fun _ => True) (ValidLiteral dialect.allowed)
      fun keys => ∀ key ∈ keys, ValidLiteral dialect.allowed key := by
  induction spells with
  | null | true | false | number => trivial
  | string isBody =>
    exact ⟨_, isBody, valid_enclosed valid (by decide) (by decide)⟩
  | emptyArray => trivial
  | @array elements _ spaced _ ih =>
    have sources := valid_separated (valid_enclosed valid (by decide) (by decide))
    rw [RawJson.Every, RawJson.everyElement_iff, forall_mem_map]
    intro padded isElement
    exact ih padded isElement
      (valid_between (spaced padded isElement).lead (spaced padded isElement).trail
        (sources _ (List.mem_map_of_mem isElement)))
  | emptyObject => exact ⟨nofun, trivial⟩
  | @object entries _ spaced _ ih =>
    have sources := valid_separated (valid_enclosed valid (by decide) (by decide))
    have parts (entry : Entry) (isEntry : entry ∈ entries) :=
      (spaced entry isEntry).valid (sources _ (List.mem_map_of_mem isEntry))
    rw [RawJson.Every, RawJson.everyMember_iff, map_map, forall_mem_map,
      forall_mem_map]
    exact ⟨fun entry isEntry => (parts entry isEntry).1, fun entry isEntry =>
      ih entry isEntry (parts entry isEntry).2⟩

theorem Document.valid
    (document : Document dialect text tree)
    (valid : Utf8.Valid text) :
    tree.Every (fun _ => True) (ValidLiteral dialect.allowed)
      fun keys => ∀ key ∈ keys, ValidLiteral dialect.allowed key := by
  obtain ⟨before, body, behind, beforeBlank, behindBlank, spells, rfl⟩ := document
  exact spells.valid (valid_between beforeBlank behindBlank valid)

mutual

/-- Every string and every key of a value is as required. -/
def JsonValue.EveryString (holds : Bytes → Prop) : JsonValue → Prop
  | .null => True
  | .bool _ => True
  | .number _ => True
  | .string text => holds text
  | .array elements => EveryStringOfElements holds elements
  | .object members => EveryStringOfMembers holds members

/-- The same of each element. -/
def EveryStringOfElements (holds : Bytes → Prop) : List JsonValue → Prop
  | [] => True
  | element :: rest => element.EveryString holds ∧ EveryStringOfElements holds rest

/-- The same of each member and its key. -/
def EveryStringOfMembers (holds : Bytes → Prop) : List (Bytes × JsonValue) → Prop
  | [] => True
  | (key, member) :: rest =>
    holds key ∧ member.EveryString holds ∧ EveryStringOfMembers holds rest

end

theorem RawJson.value_valid
    {allowed : UInt8 → Prop}
    (tree : RawJson)
    (valid : tree.Every (fun _ => True) (ValidLiteral allowed)
      fun keys => ∀ key ∈ keys, ValidLiteral allowed key) :
    tree.value.EveryString Utf8.Valid := by
  have literal {tokens : List Token} (isValid : ValidLiteral allowed tokens) :
      Utf8.Valid (stringText tokens) := by
    obtain ⟨body, isBody, validBody⟩ := isValid
    exact stringText_valid isBody validBody
  induction tree using RawJson.induct with
  | null | bool | number => trivial
  | string tokens => exact literal valid
  | array elements ih =>
    rw [RawJson.Every, RawJson.everyElement_iff] at valid
    rw [RawJson.value, JsonValue.EveryString]
    induction elements with
    | nil => trivial
    | cons element rest others =>
      rw [forall_mem_cons] at ih valid
      exact ⟨ih.1 valid.1, others ih.2 valid.2⟩
  | object members ih =>
    rw [RawJson.Every, RawJson.everyMember_iff] at valid
    rw [RawJson.value, JsonValue.EveryString]
    induction members with
    | nil => trivial
    | cons member rest others =>
      rw [map_cons, forall_mem_cons, forall_mem_cons] at valid
      rw [forall_mem_cons] at ih
      exact ⟨literal valid.1.1, ih.1 valid.2.1,
        others ih.2 ⟨valid.1.2, valid.2.2⟩⟩

/--
The reader accepts exactly JSON with distinct keys and numbers in range, replaces each
surrogate on its own, and keeps valid UTF-8 valid.
-/
theorem parse_exact (text : Bytes) :
    (∀ value, parse text = .ok value ↔
      ∃ tree, Document .rfc text tree ∧ tree.Acceptable ∧ tree.value = value) ∧
      (Utf8.Valid text → ∀ value, parse text = .ok value →
        value.EveryString Utf8.Valid) := by
  refine ⟨fun value => parse_iff, fun valid value parsed => ?_⟩
  obtain ⟨tree, document, -, rfl⟩ := parse_iff.mp parsed
  exact tree.value_valid (document.valid valid)

end Aeon.Json
