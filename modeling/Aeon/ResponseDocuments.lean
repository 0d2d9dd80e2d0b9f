import Aeon.PromptRoundTrip
import Aeon.ResponseWriters

namespace Aeon.Server

open Aeon.Json (Document Double Entry Padded Printable RawJson Spells Token
  codePointBytes integerText separated stringText)
open Aeon.Text.PromptJson (tokenOf)

/-!
# Responses are JSON

The compact text of a tree is JSON without line breaks, and its strings are read as the
bytes they were written from.  So a reader makes of a response what was put in.
-/

instance : DecidablePred Printable :=
  fun byte => inferInstanceAs (Decidable (¬ byte < 0x20))

/-! ## Strings -/

theorem jsonEscapeByte_values : ∀ value < 256,
    jsonEscapeByte (UInt8.ofNat value) = Text.PromptJson.escapeByte (UInt8.ofNat value) := by
  decide +kernel

/-- Both writers escape alike. -/
theorem jsonEscapeByte_eq (byte : UInt8) :
    jsonEscapeByte byte = Text.PromptJson.escapeByte byte := by
  have value := jsonEscapeByte_values byte.toNat byte.toNat_lt
  rwa [UInt8.ofNat_toNat] at value

theorem jsonEscape_eq (text : Bytes) :
    jsonEscape text = text.flatMap Text.PromptJson.escapeByte := by
  rw [jsonEscape, funext jsonEscapeByte_eq]

theorem spells_quote (text : Bytes) :
    Spells .rfc (Writer.quote text) (.string (text.map tokenOf)) := by
  rw [Writer.quote, jsonEscape_eq]
  exact .string (Text.PromptJson.tokens_escaped text)

theorem jsonEscapeByte_printable : ∀ value < 256,
    ∀ byte ∈ jsonEscapeByte (UInt8.ofNat value), ¬ byte < 0x20 := by
  decide +kernel

/-- A string is written without control bytes. -/
theorem printable_quote (text : Bytes) :
    ∀ byte ∈ Writer.quote text, Printable byte := by
  have escaped : ∀ byte ∈ jsonEscape text, Printable byte := by
    intro byte isByte
    obtain ⟨raw, -, isEscape⟩ := List.mem_flatMap.mp isByte
    have printable := jsonEscapeByte_printable raw.toNat raw.toNat_lt byte
    rw [UInt8.ofNat_toNat] at printable
    exact printable isEscape
  rw [Writer.quote, List.forall_mem_cons, List.forall_mem_append]
  refine ⟨by decide, escaped, ?_⟩
  rw [List.forall_mem_singleton]
  decide

@[simp]
theorem stringText_tokenOf (text : Bytes) :
    stringText (text.map tokenOf) = text := by
  induction text with
  | nil => rfl
  | cons byte rest ih =>
    rw [List.map_cons, tokenOf]
    split
    · next control =>
        have small : byte.toNat < 0x20 := by
          simp only [Text.PromptJson.isControl, Bool.and_eq_true, decide_eq_true_eq,
            UInt8.lt_iff_toNat_lt] at control
          exact control.1.1.1.1.1
        have notHigh : ¬ Json.isHighSurrogate byte.toNat = true := by
          simp only [Json.isHighSurrogate, Bool.and_eq_true, decide_eq_true_eq]
          omega
        have scalar : ¬ Json.isSurrogate byte.toNat = true := by
          simp only [Json.isSurrogate, Json.isHighSurrogate, Json.isLowSurrogate,
            Bool.or_eq_true, Bool.and_eq_true, decide_eq_true_eq]
          omega
        rw [stringText, Json.spelled_unit _ fun low others _ pair => notHigh pair.1,
          ← stringText, ih, Json.unitText, if_neg scalar,
          codePointBytes, if_pos (by omega), UInt8.ofNat_toNat]
        rfl
    · rw [stringText, Json.spelled, ← stringText, ih]

/-! ## Trees -/

section Trees

variable (spliced : Bytes → RawJson)

mutual

/-- The JSON that a tree is written as; raw text is JSON of its own. -/
def JsonTree.json : JsonTree → RawJson
  | .leaf (.string text) => .string (text.map tokenOf)
  | .leaf (.raw text) => spliced text
  | .leaf (.number value) => .number (jsonNumber value)
  | .leaf (.integer value) => .number (integerText value.toInt)
  | .leaf (.boolean value) => .bool value
  | .leaf .null => .null
  | .array elements => .array (elementsJson elements)
  | .object members => .object (membersJson members)

/-- The JSON of the elements. -/
def elementsJson : List JsonTree → List RawJson
  | [] => []
  | element :: rest => element.json :: elementsJson rest

/-- The JSON of the members. -/
def membersJson : List (Bytes × JsonTree) → List (List Token × RawJson)
  | [] => []
  | (name, member) :: rest => (name.map tokenOf, member.json) :: membersJson rest

end

theorem elementsJson_eq (elements : List JsonTree) :
    elementsJson spliced elements = elements.map (JsonTree.json spliced) := by
  induction elements with
  | nil => rfl
  | cons element rest ih =>
    rw [elementsJson, ih, List.map_cons]

theorem membersJson_eq (members : List (Bytes × JsonTree)) :
    membersJson spliced members =
      members.map fun member => (member.1.map tokenOf, member.2.json spliced) := by
  induction members with
  | nil => rfl
  | cons member rest ih =>
    rw [membersJson, ih, List.map_cons]

/-- Calls whose numbers are finite and whose raw text is JSON. -/
structure Writable (calls : List Call) : Prop where
  finite : ∀ value, .value (.number value) ∈ calls → value.IsFinite
  raw : ∀ text, .value (.raw text) ∈ calls → Spells .rfc text (spliced text)

variable {spliced}

theorem Writable.subset
    {calls others : List Call}
    (writable : Writable spliced calls)
    (part : others ⊆ calls) :
    Writable spliced others :=
  ⟨fun value isCall => writable.finite value (part isCall),
    fun text isCall => writable.raw text (part isCall)⟩

theorem calls_element
    {elements : List JsonTree}
    {element : JsonTree}
    (isElement : element ∈ elements) :
    element.calls ⊆ (JsonTree.array elements).calls := by
  intro call isCall
  rw [JsonTree.calls, elementCalls_eq]
  simp only [List.mem_cons, List.mem_append, List.mem_flatMap]
  exact Or.inr (Or.inl ⟨element, isElement, isCall⟩)

theorem calls_member
    {members : List (Bytes × JsonTree)}
    {member : Bytes × JsonTree}
    (isMember : member ∈ members) :
    member.2.calls ⊆ (JsonTree.object members).calls := by
  intro call isCall
  rw [JsonTree.calls, memberCalls_eq]
  simp only [List.mem_cons, List.mem_append, List.mem_flatMap]
  exact Or.inr (Or.inl ⟨member, isMember, Or.inr isCall⟩)

/-- An element without blanks around it. -/
def bare
    (spliced : Bytes → RawJson)
    (tree : JsonTree) : Padded :=
  ⟨[], compact tree, [], tree.json spliced⟩

/-- A member without blanks around its parts. -/
def bareEntry
    (spliced : Bytes → RawJson)
    (member : Bytes × JsonTree) : Entry :=
  ⟨[], jsonEscape member.1, member.1.map tokenOf, [], bare spliced member.2⟩

theorem spells_compact
    (tree : JsonTree)
    (writable : Writable spliced tree.calls) :
    Spells .rfc (compact tree) (tree.json spliced) := by
  induction tree using JsonTree.induct with
  | leaf leaf =>
    cases leaf with
    | string text => exact spells_quote text
    | raw text => exact writable.raw text (by simp [JsonTree.calls])
    | number value =>
      exact .number (Json.doubleText_number
        (writable.finite value (by simp [JsonTree.calls])))
    | integer value => exact .number (Json.integerText_number value.toInt)
    | boolean value =>
      cases value with
      | true => exact .true
      | false => exact .false
    | null => exact .null
  | array elements ih =>
    rw [compact, compactElements_eq, JsonTree.json, elementsJson_eq]
    by_cases empty : elements = []
    · subst empty
      exact @Spells.emptyArray .rfc [] (List.forall_mem_nil _)
    · have spells := @Spells.array .rfc (elements.map (bare spliced))
        (by simpa using empty)
        (List.forall_mem_map.mpr fun element _ =>
          ⟨List.forall_mem_nil _, List.forall_mem_nil _⟩)
        (List.forall_mem_map.mpr fun element isElement =>
          ih element isElement (writable.subset (calls_element isElement)))
      rw [List.map_map, List.map_map] at spells
      simpa [Function.comp_def, bare, Padded.source] using spells
  | object members ih =>
    rw [compact, compactMembers_eq, JsonTree.json, membersJson_eq]
    by_cases empty : members = []
    · subst empty
      exact @Spells.emptyObject .rfc [] (List.forall_mem_nil _)
    · have spells := @Spells.object .rfc (members.map (bareEntry spliced))
        (by simpa using empty)
        (List.forall_mem_map.mpr fun member _ => ⟨List.forall_mem_nil _, by
          rw [bareEntry, jsonEscape_eq]
          exact Text.PromptJson.tokens_escaped member.1, List.forall_mem_nil _,
            ⟨List.forall_mem_nil _, List.forall_mem_nil _⟩⟩)
        (List.forall_mem_map.mpr fun member isMember =>
          ih member isMember (writable.subset (calls_member isMember)))
      rw [List.map_map, List.map_map] at spells
      simpa [Function.comp_def, bareEntry, bare, Entry.source, Entry.member,
        Padded.source, Writer.quote] using spells

theorem document_compact
    (tree : JsonTree)
    (writable : Writable spliced tree.calls) :
    Document .rfc (compact tree) (tree.json spliced) :=
  ⟨[], compact tree, [], nofun, nofun, spells_compact tree writable, by simp⟩

end Trees

/-! ## Line breaks -/

theorem numberByte_printable
    {byte : UInt8}
    (isNumber : Text.PromptJson.isNumberByte byte = true) :
    Printable byte := by
  simp only [Text.PromptJson.isNumberByte, Text.PromptJson.isDigit, Bool.or_eq_true,
    Bool.and_eq_true, decide_eq_true_eq, UInt8.le_iff_toNat_le] at isNumber
  rw [Printable, UInt8.lt_iff_toNat_lt]
  rcases isNumber with ((((digit | rfl) | rfl) | rfl) | rfl) | rfl
  · have least : (0x30 : UInt8).toNat ≤ byte.toNat := digit.1
    have values : (0x30 : UInt8).toNat = 48 ∧ (0x20 : UInt8).toNat = 32 := by decide
    omega
  all_goals decide

theorem printable_number
    {literal : Bytes}
    (isNumber : Json.NumberText literal) :
    ∀ byte ∈ literal, Printable byte := by
  obtain ⟨first, rest, rfl, starts, all⟩ :=
    (Text.PromptJson.scanned_number isNumber).starts
  refine List.forall_mem_cons.mpr ⟨?_, fun byte isByte =>
    numberByte_printable (all byte isByte)⟩
  rcases starts with rfl | digit
  · decide
  · exact numberByte_printable (Text.PromptJson.digit_numberByte digit)

theorem printable_double (value : Double) :
    ∀ byte ∈ Json.doubleText value, Printable byte := by
  cases value with
  | finite | negativeZero => exact printable_number (Json.doubleText_number trivial)
  | infinite negative | nan negative =>
    cases negative <;> decide

theorem printable_separated
    {parts : List Bytes}
    (each : ∀ part ∈ parts, ∀ byte ∈ part, Printable byte) :
    ∀ byte ∈ separated parts, Printable byte := by
  induction parts with
  | nil => nofun
  | cons part parts ih =>
    rw [List.forall_mem_cons] at each
    cases parts with
    | nil => exact each.1
    | cons second rest =>
      rw [separated, List.forall_mem_append, List.forall_mem_cons]
      exact ⟨each.1, by decide, ih each.2⟩

theorem compact_printable
    {tree : JsonTree}
    (raws : ∀ text, .value (.raw text) ∈ tree.calls → ∀ byte ∈ text, Printable byte) :
    ∀ byte ∈ compact tree, Printable byte := by
  have container {opens closes : UInt8} {parts : List Bytes}
      (opensPrintable : Printable opens) (closesPrintable : Printable closes)
      (each : ∀ part ∈ parts, ∀ byte ∈ part, Printable byte) :
      ∀ byte ∈ opens :: (separated parts ++ [closes]), Printable byte := by
    rw [List.forall_mem_cons, List.forall_mem_append, List.forall_mem_singleton]
    exact ⟨opensPrintable, printable_separated each, closesPrintable⟩
  induction tree using JsonTree.induct with
  | leaf leaf =>
    cases leaf with
    | string text => exact printable_quote text
    | raw text => exact raws text (by simp [JsonTree.calls])
    | number value => exact printable_double value
    | integer value => exact printable_number (Json.integerText_number value.toInt)
    | boolean value =>
      cases value <;> decide
    | null => decide
  | array elements ih =>
    rw [compact, compactElements_eq]
    exact container (by decide) (by decide)
      (List.forall_mem_map.mpr fun element isElement =>
        ih element isElement fun text isCall =>
          raws text (calls_element isElement isCall))
  | object members ih =>
    rw [compact, compactMembers_eq]
    refine container (by decide) (by decide)
      (List.forall_mem_map.mpr fun member isMember => ?_)
    rw [List.forall_mem_append, List.forall_mem_cons]
    refine ⟨printable_quote member.1, by decide,
      ih member isMember fun text isCall =>
        raws text (calls_member isMember isCall)⟩

end Aeon.Server
