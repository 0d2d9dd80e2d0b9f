import Aeon.IntegerText
import Aeon.PromptReading

namespace Aeon.Text.PromptJson

open Aeon.Json (Blank Dialect Document Entry IntegerLiteral NumberText Padded Printable
  RawJson Spells Token Tokens codePointBytes integerText separated)
open List (forall_mem_cons map_cons map_id)

/-!
# What the codec writes it reads again

Every value without reals is written as JSON whose integers and strings stand for
themselves, with blanks only behind commas and colons.
-/

/-- A value of nulls, booleans, 64-bit integers and strings, in arrays and objects. -/
inductive Plain : PromptJson → Prop where
  | null : Plain .null
  | bool (boolean : Bool) : Plain (.bool boolean)
  | int
      {integer : Int}
      (lower : -(2 ^ 63) ≤ integer)
      (upper : integer < 2 ^ 63) :
      Plain (.int integer)
  | string (text : Bytes) : Plain (.string text)
  | array
      {elements : List PromptJson}
      (each : ∀ element ∈ elements, Plain element) :
      Plain (.array elements)
  | object
      {members : List (Bytes × PromptJson)}
      (each : ∀ member ∈ members, Plain member.2) :
      Plain (.object members)

/-- A value without reals, whose integers are as required. -/
inductive Written (integers : Int → Prop) : PromptJson → Prop where
  | null : Written integers .null
  | bool (boolean : Bool) : Written integers (.bool boolean)
  | int
      {integer : Int}
      (isInteger : integers integer) :
      Written integers (.int integer)
  | string (text : Bytes) : Written integers (.string text)
  | array
      {elements : List PromptJson}
      (each : ∀ element ∈ elements, Written integers element) :
      Written integers (.array elements)
  | object
      {members : List (Bytes × PromptJson)}
      (each : ∀ member ∈ members, Written integers member.2) :
      Written integers (.object members)

theorem Plain.written
    {value : PromptJson}
    (plain : Plain value) :
    Written (fun integer => -(2 ^ 63) ≤ integer ∧ integer < 2 ^ 63) value := by
  induction plain with
  | null => exact .null
  | bool boolean => exact .bool boolean
  | int lower upper => exact .int ⟨lower, upper⟩
  | string text => exact .string text
  | array _ ih => exact .array ih
  | object _ ih => exact .object ih

/-! ## Dialects -/

variable {text : Bytes}
variable {tree : RawJson}
variable {literal : Bytes}
variable {integer : Int}

theorem Spells.mono
    {small large : Dialect}
    (numbers : ∀ literal, small.number literal → large.number literal)
    (bytes : ∀ byte, small.allowed byte → large.allowed byte)
    (spells : Spells small text tree) :
    Spells large text tree := by
  have literal {body : Bytes} {tokens : List Token}
      (isBody : Tokens small.allowed body tokens) :
      Tokens large.allowed body tokens := by
    induction isBody with
    | done => exact .done
    | plain allows unquoted unescaped _ rest =>
      exact .plain (bytes _ allows) unquoted unescaped rest
    | simple escape _ rest => exact .simple escape rest
    | unicode spells _ rest => exact .unicode spells rest
  induction spells with
  | null => exact .null
  | true => exact .true
  | false => exact .false
  | number isNumber => exact .number (numbers _ isNumber)
  | string isBody => exact .string (literal isBody)
  | emptyArray blank => exact .emptyArray blank
  | array nonempty spaced _ each => exact .array nonempty spaced each
  | emptyObject blank => exact .emptyObject blank
  | object nonempty spaced _ each =>
    exact .object nonempty (fun entry isEntry =>
      ⟨(spaced entry isEntry).lead, literal (spaced entry isEntry).spells,
        (spaced entry isEntry).gap, (spaced entry isEntry).padded⟩) each

theorem digit_numberByte
    {byte : UInt8}
    (digit : Json.isDigit byte = true) :
    isNumberByte byte = true := by
  have same : isDigit byte = true := digit
  simp [isNumberByte, same]

theorem scanned_number
    (isNumber : NumberText literal) :
    Scanned literal := by
  obtain ⟨first, rest, shape, starts⟩ := isNumber.head
  refine ⟨first, rest, shape, starts, ?_⟩
  have all : ∀ byte ∈ literal, isNumberByte byte = true := by
    have run {digits : Bytes} (isRun : Json.Digits digits) :
        ∀ byte ∈ digits, isNumberByte byte = true :=
      fun byte isByte => digit_numberByte (isRun.all byte isByte)
    cases isNumber with
    | @parts sign whole fraction exponent signs isWhole isFraction isExponent =>
      simp only [List.forall_mem_append]
      refine ⟨?_, ?_, ?_, ?_⟩
      · rcases signs with rfl | rfl <;> decide
      · cases isWhole with
        | zero => decide
        | digits isRun => exact run isRun
      · cases isFraction with
        | absent => decide
        | digits isRun => exact List.forall_mem_cons.mpr ⟨by decide, run isRun⟩
      · cases isExponent with
        | absent => decide
        | digits marks signs isRun =>
          rw [forall_mem_cons, List.forall_mem_append]
          refine ⟨?_, ?_, run isRun⟩
          · rcases marks with rfl | rfl <;> decide
          · rcases signs with rfl | rfl | rfl <;> decide
  intro byte isByte
  exact all byte (by rw [shape]; exact List.mem_cons_of_mem first isByte)

/-- The codec takes all of JSON. -/
theorem spells_rfc
    (spells : Spells .rfc text tree) :
    Spells dialect text tree :=
  Spells.mono (fun _ => scanned_number) (fun _ _ => trivial) spells

theorem document_rfc
    (document : Document .rfc text tree) :
    Document dialect text tree := by
  obtain ⟨before, body, behind, beforeBlank, behindBlank, spells, shape⟩ := document
  exact ⟨before, body, behind, beforeBlank, behindBlank, spells_rfc spells, shape⟩

/-! ## Strings -/

/-- Whether a byte is written as the escape of a unit. -/
def isControl (byte : UInt8) : Bool :=
  byte < 0x20 && byte ≠ 0x0a && byte ≠ 0x0d && byte ≠ 0x09 && byte ≠ 0x08 &&
    byte ≠ 0x0c

/-- The part of a literal a byte is written as. -/
def tokenOf (byte : UInt8) : Token :=
  if isControl byte then .unit byte.toNat else .byte byte

theorem hexDigit_control : ∀ value < 32,
    Json.hexValue (hexDigit (UInt8.ofNat value >>> 4)) = some (value / 16) ∧
      Json.hexValue (hexDigit (UInt8.ofNat value &&& 0x0f)) = some (value % 16) := by
  decide

theorem control_digits
    {byte : UInt8}
    (small : byte < 0x20) :
    Json.Hex4 [0x30, 0x30, hexDigit (byte >>> 4), hexDigit (byte &&& 0x0f)]
      byte.toNat := by
  have below : byte.toNat < 32 := by
    simpa [UInt8.lt_iff_toNat_lt] using small
  obtain ⟨high, low⟩ := hexDigit_control byte.toNat below
  rw [UInt8.ofNat_toNat] at high low
  have zero : Json.hexValue 0x30 = some 0 := by decide
  have spells := Json.Hex4.digits zero zero high low
  rwa [show ((0 * 16 + 0) * 16 + byte.toNat / 16) * 16 + byte.toNat % 16 = byte.toNat by
    omega] at spells

/-- A byte that is written is read as itself. -/
theorem tokens_escapeByte
    (byte : UInt8)
    {body : Bytes}
    {tokens : List Token}
    (isBody : Tokens Printable body tokens) :
    Tokens Printable (escapeByte byte ++ body) (tokenOf byte :: tokens) := by
  have newline : bytes "\\n" = [0x5c, 0x6e] := by decide
  have carriage : bytes "\\r" = [0x5c, 0x72] := by decide
  have tab : bytes "\\t" = [0x5c, 0x74] := by decide
  have back : bytes "\\b" = [0x5c, 0x62] := by decide
  have form : bytes "\\f" = [0x5c, 0x66] := by decide
  have unit : bytes "\\u00" = [0x5c, 0x75, 0x30, 0x30] := by decide
  unfold escapeByte
  rw [newline, carriage, tab, back, form, unit]
  by_cases quote : byte = 0x22
  · subst quote
    exact .simple (by decide) isBody
  by_cases backslash : byte = 0x5c
  · subst backslash
    exact .simple (by decide) isBody
  by_cases isNewline : byte = 0x0a
  · subst isNewline
    exact .simple (by decide) isBody
  by_cases isCarriage : byte = 0x0d
  · subst isCarriage
    exact .simple (by decide) isBody
  by_cases isTab : byte = 0x09
  · subst isTab
    exact .simple (by decide) isBody
  by_cases isBack : byte = 0x08
  · subst isBack
    exact .simple (by decide) isBody
  by_cases isForm : byte = 0x0c
  · subst isForm
    exact .simple (by decide) isBody
  rw [if_neg quote, if_neg backslash, if_neg isNewline, if_neg isCarriage,
    if_neg isTab, if_neg isBack, if_neg isForm]
  by_cases small : byte < 0x20
  · rw [if_pos small, tokenOf, if_pos (by simp [isControl, *])]
    exact .unicode (control_digits small) isBody
  · rw [if_neg small, tokenOf, if_neg (by simp [isControl, small])]
    exact .plain small quote backslash isBody

/-- The literal a string is written as. -/
theorem tokens_escaped (text : Bytes) :
    Tokens Printable (text.flatMap escapeByte) (text.map tokenOf) := by
  induction text with
  | nil => exact .done
  | cons byte rest ih =>
    rw [List.flatMap_cons, map_cons]
    exact tokens_escapeByte byte ih

/-- It stands for the string. -/
theorem promptText_tokenOf (text : Bytes) :
    promptText (text.map tokenOf) = text := by
  induction text with
  | nil => rfl
  | cons byte rest ih =>
    rw [map_cons, tokenOf]
    split
    · next control =>
        have small : byte.toNat < 0x20 := by
          simp only [isControl, Bool.and_eq_true, decide_eq_true_eq,
            UInt8.lt_iff_toNat_lt] at control
          simpa using control.1.1.1.1.1
        have single : Json.isHighSurrogate byte.toNat = false := by
          simp only [Json.isHighSurrogate, Bool.and_eq_false_iff,
            decide_eq_false_iff_not]
          omega
        rw [promptText_unit fun _ _ _ => single, ih, codePointBytes,
          if_pos (by omega), UInt8.ofNat_toNat]
        rfl
    · rw [promptText, ih]

/-! ## Integers -/

theorem strtoll_literal
    (isInteger : IntegerLiteral literal integer) :
    strtoll literal = max (-(2 ^ 63)) (min integer (2 ^ 63 - 1)) := by
  have taken {digits : Bytes} (run : Json.Digits digits) :
      digits.takeWhile isDigit = digits :=
    List.takeWhile_eq_self_iff.mpr run.all
  unfold strtoll
  cases isInteger with
  | positive isWhole =>
    obtain ⟨notMinus, notPlus⟩ := isWhole.run.unsigned
    simp only [notMinus, notPlus, or_self, if_false, taken isWhole.run]
    rfl
  | negative isWhole =>
    simp only [List.head?_cons, true_or, if_true, List.drop_succ_cons, List.drop_zero,
      taken isWhole.run]
    rfl

theorem readNumber_literal
    (isInteger : IntegerLiteral literal integer) :
    readNumber literal = .int (strtoll literal) := by
  have digit {byte : UInt8} (isByte : Json.isDigit byte = true) :
      ¬ isRealMark byte = true := by
    intro mark
    simp only [isRealMark, Bool.or_eq_true, decide_eq_true_eq] at mark
    rcases mark with (rfl | rfl) | rfl <;> cases isByte
  have unmarked : literal.any isRealMark = false := by
    rw [List.any_eq_false]
    cases isInteger with
    | positive isWhole => exact fun byte isByte => digit (isWhole.run.all byte isByte)
    | negative isWhole =>
      rw [forall_mem_cons]
      exact ⟨by decide, fun byte isByte => digit (isWhole.run.all byte isByte)⟩
  rw [readNumber, unmarked, if_neg (by simp)]

theorem readNumber_integer
    (isInteger : IntegerLiteral literal integer)
    (lower : -(2 ^ 63) ≤ integer)
    (upper : integer < 2 ^ 63) :
    readNumber literal = .int integer := by
  rw [readNumber_literal isInteger, strtoll_literal isInteger,
    max_eq_right (by omega), min_eq_left (by omega)]

/-! ## Values -/

mutual

/-- The tree a value is written as. -/
def rawOf : PromptJson → RawJson
  | .null => .null
  | .bool boolean => .bool boolean
  | .int integer => .number (integerText integer)
  | .real literal => .number literal
  | .string text => .string (text.map tokenOf)
  | .array elements => .array (rawElements elements)
  | .object members => .object (rawMembers members)

/-- The trees of the elements. -/
def rawElements : List PromptJson → List RawJson
  | [] => []
  | element :: rest => rawOf element :: rawElements rest

/-- The keys and the trees of the members. -/
def rawMembers : List (Bytes × PromptJson) → List (List Token × RawJson)
  | [] => []
  | (key, member) :: rest => (key.map tokenOf, rawOf member) :: rawMembers rest

end

theorem rawElements_eq (elements : List PromptJson) :
    rawElements elements = elements.map rawOf := by
  induction elements with
  | nil => rfl
  | cons element rest ih =>
    rw [rawElements, ih, map_cons]

theorem rawMembers_eq (members : List (Bytes × PromptJson)) :
    rawMembers members =
      members.map fun member => (member.1.map tokenOf, rawOf member.2) := by
  induction members with
  | nil => rfl
  | cons member rest ih =>
    rw [rawMembers, ih, map_cons]

theorem ofRaw_rawOf
    {number : Bytes → PromptJson}
    {integers : Int → Prop}
    (reads : ∀ integer, integers integer →
      number (integerText integer) = .int integer)
    {value : PromptJson}
    (written : Written integers value) :
    ofRaw number promptText (rawOf value) = value := by
  induction written with
  | null => rfl
  | bool boolean => rfl
  | @int integer isInteger => exact reads integer isInteger
  | string text => rw [rawOf, ofRaw, promptText_tokenOf]
  | @array elements _ ih =>
    rw [rawOf, rawElements_eq, ofRaw, ofElements_eq, List.map_map]
    congr 1
    exact (List.map_congr_left (g := id) ih).trans
      (map_id elements)
  | @object members _ ih =>
    rw [rawOf, rawMembers_eq, ofRaw, ofMembers_eq, List.map_map]
    congr 1
    refine (List.map_congr_left (g := id) fun member isMember => ?_).trans
      (map_id members)
    exact Prod.ext (promptText_tokenOf member.1) (ih member isMember)

theorem read_rawOf
    {value : PromptJson}
    (plain : Plain value) :
    read (rawOf value) = value :=
  ofRaw_rawOf (fun integer range =>
    readNumber_integer (Json.integerText_literal integer) range.1 range.2) plain.written

section Emission

variable (pythonReal : Bytes → Bytes)

theorem spells_elements
    {elements : List PromptJson}
    (nonempty : elements ≠ [])
    (each : ∀ element ∈ elements,
      Spells .rfc (element.toPythonJson pythonReal) (rawOf element))
    {lead : Bytes}
    (blank : Blank lead) :
    ∃ padded : List Padded,
      padded ≠ [] ∧ (∀ element ∈ padded, element.Spaced) ∧
        (∀ element ∈ padded, Spells .rfc element.text element.tree) ∧
        padded.map Padded.tree = elements.map rawOf ∧
        separated (padded.map Padded.source) =
          lead ++ elementsJson pythonReal elements := by
  induction elements generalizing lead with
  | nil => exact absurd rfl nonempty
  | cons first rest ih =>
    rw [forall_mem_cons] at each
    cases rest with
    | nil =>
      refine ⟨[⟨lead, first.toPythonJson pythonReal, [], rawOf first⟩], by simp,
        ?_, ?_, rfl, ?_⟩
      · simpa using ⟨blank, nofun⟩
      · simpa using each.1
      · simp [separated, Padded.source, elementsJson]
    | cons second rest =>
      obtain ⟨padded, notEmpty, spaced, spells, trees, sources⟩ :=
        ih (by simp) each.2 Json.blank_space
      obtain ⟨head, others, rfl⟩ := List.exists_cons_of_ne_nil notEmpty
      refine ⟨⟨lead, first.toPythonJson pythonReal, [], rawOf first⟩ ::
        head :: others, by simp, ?_, ?_, ?_, ?_⟩
      · exact List.forall_mem_cons.mpr ⟨⟨blank, nofun⟩, spaced⟩
      · exact List.forall_mem_cons.mpr ⟨each.1, spells⟩
      · rw [map_cons, trees]
        rfl
      · rw [map_cons, map_cons, separated, ← map_cons, sources]
        simp [Padded.source, elementsJson, show bytes ", " = [0x2c, 0x20] by decide]

theorem spells_members
    {members : List (Bytes × PromptJson)}
    (nonempty : members ≠ [])
    (each : ∀ member ∈ members,
      Spells .rfc (member.2.toPythonJson pythonReal) (rawOf member.2))
    {lead : Bytes}
    (blank : Blank lead) :
    ∃ entries : List Entry,
      entries ≠ [] ∧ (∀ entry ∈ entries, entry.Spaced Printable) ∧
        (∀ entry ∈ entries, Spells .rfc entry.padded.text entry.padded.tree) ∧
        entries.map Entry.member =
          members.map (fun member => (member.1.map tokenOf, rawOf member.2)) ∧
        separated (entries.map Entry.source) =
          lead ++ membersJson pythonReal members := by
  induction members generalizing lead with
  | nil => exact absurd rfl nonempty
  | cons first rest ih =>
    obtain ⟨key, member⟩ := first
    rw [forall_mem_cons] at each
    have spaced : Entry.Spaced Printable ⟨lead, key.flatMap escapeByte,
        key.map tokenOf, [], ⟨[0x20], member.toPythonJson pythonReal, [],
          rawOf member⟩⟩ :=
      ⟨blank, tokens_escaped key, nofun, ⟨Json.blank_space, nofun⟩⟩
    cases rest with
    | nil =>
      refine ⟨[⟨lead, key.flatMap escapeByte, key.map tokenOf, [],
        ⟨[0x20], member.toPythonJson pythonReal, [], rawOf member⟩⟩], by simp,
        ?_, ?_, rfl, ?_⟩
      · simpa using spaced
      · simpa using each.1
      · simp [separated, Entry.source, Padded.source, membersJson, pythonString,
          Json.bytes_colon]
    | cons second rest =>
      obtain ⟨entries, notEmpty, allSpaced, spells, trees, sources⟩ :=
        ih (by simp) each.2 Json.blank_space
      obtain ⟨head, others, rfl⟩ := List.exists_cons_of_ne_nil notEmpty
      refine ⟨⟨lead, key.flatMap escapeByte, key.map tokenOf, [],
        ⟨[0x20], member.toPythonJson pythonReal, [], rawOf member⟩⟩ ::
        head :: others, by simp, ?_, ?_, ?_, ?_⟩
      · exact List.forall_mem_cons.mpr ⟨spaced, allSpaced⟩
      · exact List.forall_mem_cons.mpr ⟨each.1, spells⟩
      · rw [map_cons, trees]
        rfl
      · rw [map_cons, map_cons, separated, ← map_cons, sources]
        simp [Entry.source, Padded.source, membersJson, pythonString,
          Json.bytes_colon, show bytes ", " = [0x2c, 0x20] by decide]

theorem spells_toPythonJson
    {integers : Int → Prop}
    {value : PromptJson}
    (written : Written integers value) :
    Spells .rfc (value.toPythonJson pythonReal) (rawOf value) := by
  induction written with
  | null => exact .null
  | bool boolean =>
    cases boolean with
    | true => exact .true
    | false => exact .false
  | @int integer =>
    rw [toPythonJson, Json.bytes_integer]
    exact .number (Json.integerText_number integer)
  | string text => exact .string (tokens_escaped text)
  | @array elements _ ih =>
    rw [toPythonJson, rawOf, rawElements_eq, show bytes "[" = [0x5b] by decide,
      show bytes "]" = [0x5d] by decide]
    by_cases empty : elements = []
    · rw [empty]
      exact @Spells.emptyArray .rfc [] nofun
    · obtain ⟨padded, nonempty, spaced, each, trees, sources⟩ :=
        @spells_elements pythonReal elements empty ih [] nofun
      have spells := Spells.array nonempty spaced each
      rwa [trees, sources] at spells
  | @object members _ ih =>
    rw [toPythonJson, rawOf, rawMembers_eq]
    by_cases empty : members = []
    · rw [empty]
      exact @Spells.emptyObject .rfc [] nofun
    · obtain ⟨entries, nonempty, spaced, each, trees, sources⟩ :=
        @spells_members pythonReal members empty ih [] nofun
      have spells := Spells.object nonempty spaced each
      rwa [trees, sources] at spells

/-- A plain value is read again from what it is written as, and written again alike. -/
theorem parse_toPythonJson
    {value : PromptJson}
    (plain : Plain value) :
    parse (value.toPythonJson pythonReal) = .ok value ∧
      (parse (value.toPythonJson pythonReal)).map (toPythonJson pythonReal) =
        .ok (value.toPythonJson pythonReal) := by
  have document : Document dialect (value.toPythonJson pythonReal) (rawOf value) :=
    document_rfc ⟨[], _, [], nofun, nofun, spells_toPythonJson pythonReal plain.written,
      by simp⟩
  have parsed := parse_document document
  rw [read_rawOf plain] at parsed
  exact ⟨parsed, by rw [parsed]; rfl⟩

end Emission

/-- A value with a duplicate key, a negative integer and every kind of escape. -/
def sample : PromptJson :=
  .object [(bytes "a\n", .array [.int (-5), .null, .string [0x00, 0x22, 0x5c, 0xff]]),
    (bytes "a\n", .bool true)]

theorem parse_toPythonJson_sample :
    Plain sample ∧ parse (sample.toPythonJson id) = .ok sample := by
  have plain : Plain sample := by
    refine .object ?_
    simp only [forall_mem_cons, List.not_mem_nil, false_implies, implies_true,
      and_true]
    refine ⟨.array ?_, .bool true⟩
    simp only [forall_mem_cons, List.not_mem_nil, false_implies, implies_true,
      and_true]
    exact ⟨.int (by decide) (by decide), .null, .string _⟩
  exact ⟨plain, (parse_toPythonJson id plain).1⟩

end Aeon.Text.PromptJson
