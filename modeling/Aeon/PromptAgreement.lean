import Aeon.PromptRoundTrip
import Aeon.SurrogateText

namespace Aeon.Text.PromptJson

open Aeon.Json (Dialect Document IntegerLiteral JsonValue Printable RawJson Token Tokens
  ValidLiteral isSurrogate replaced spelled stringText)

/-!
# The two readers of JSON

A request is validated by one reader, and the schemas in it are interpreted by the
other.  Both take the same bytes.  They make the same tree of them if and only if every
surrogate's escape is in a pair: the reader of requests replaces the others by U+FFFD,
and the prompt codec encodes them or merges them with whatever escape follows.
-/

section Agreement

variable (same : Int → ℚ → Prop)

mutual

/-- The same kinds, elements, members, strings, and numbers that are the same. -/
def Agrees : PromptJson → JsonValue → Prop
  | .null, .null => True
  | .bool boolean, .bool value => boolean = value
  | .int integer, .number number => same integer number
  | .string text, .string other => text = other
  | .array elements, .array values => AgreesOnElements elements values
  | .object members, .object values => AgreesOnMembers members values
  | _, _ => False

/-- Elements that agree one by one. -/
def AgreesOnElements : List PromptJson → List JsonValue → Prop
  | [], [] => True
  | element :: elements, value :: values =>
    Agrees element value ∧ AgreesOnElements elements values
  | _, _ => False

/-- Members with the same keys that agree one by one. -/
def AgreesOnMembers : List (Bytes × PromptJson) → List (Bytes × JsonValue) → Prop
  | [], [] => True
  | (key, member) :: members, (other, value) :: values =>
    key = other ∧ Agrees member value ∧ AgreesOnMembers members values
  | _, _ => False

end

end Agreement

/-- The number is the integer. -/
def Exactly (integer : Int) (number : ℚ) : Prop :=
  (integer : ℚ) = number

/-- The number is the double the integer is converted to. -/
def Converted (integer : Int) (number : ℚ) : Prop :=
  Binary64.nearest integer = some number

/-- Every string and every key is valid UTF-8, and there are no reals. -/
inductive ValidStrings : PromptJson → Prop where
  | null : ValidStrings .null
  | bool (boolean : Bool) : ValidStrings (.bool boolean)
  | int (integer : Int) : ValidStrings (.int integer)
  | string
      {text : Bytes}
      (valid : Utf8.Valid text) :
      ValidStrings (.string text)
  | array
      {elements : List PromptJson}
      (each : ∀ element ∈ elements, ValidStrings element) :
      ValidStrings (.array elements)
  | object
      {members : List (Bytes × PromptJson)}
      (keys : ∀ member ∈ members, Utf8.Valid member.1)
      (each : ∀ member ∈ members, ValidStrings member.2) :
      ValidStrings (.object members)

/-- Both readers make the same of a text, and the codec keeps valid UTF-8 valid. -/
structure ReadersAgree
    (pythonReal : Bytes → Bytes)
    (same : Int → ℚ → Prop)
    (text : Bytes) : Prop where
  tree :
    ∀ value, Json.parse text = .ok value →
      ∃ prompt, parse text = .ok prompt ∧ Agrees same prompt value
  valid :
    Utf8.Valid text →
      ∀ prompt, parse text = .ok prompt →
        ValidStrings prompt ∧ Utf8.Valid (prompt.toPythonJson pythonReal)

/-- Every number is an integer literal within 64 bits. -/
def Integers (tree : RawJson) : Prop :=
  tree.Every
    (fun literal => ∃ integer, IntegerLiteral literal integer ∧
      -(2 ^ 63) ≤ integer ∧ integer < 2 ^ 63)
    (fun _ => True) fun _ => True

/-- Every surrogate's escape, in a string or a key, is in a pair. -/
def Paired (tree : RawJson) : Prop :=
  tree.Every (fun _ => True) (Joined False) fun keys => ∀ key ∈ keys, Joined False key

/-- Every number is a double. -/
def Doubles (tree : RawJson) : Prop :=
  tree.Every
    (fun literal => Json.stod literal = some (Json.decimalValue literal))
    (fun _ => True) fun _ => True

/-! ## Strings -/

theorem strayText_replaced : StrayText replaced where
  shape := fun _ _ =>
    ⟨0xef, 0xbf, 0xbd, rfl, by decide, by decide, by decide, by decide⟩

theorem surrogate_replaced
    (code : Nat)
    (surrogate : isSurrogate code = true) :
    Json.codePointBytes code = replaced code ↔ False := by
  obtain ⟨above, below⟩ := surrogate_range surrogate
  rw [iff_false]
  intro same
  have lead : (Json.codePointBytes code).head? = some (UInt8.ofNat (0xe0 + code / 0x1000)) := by
    unfold Json.codePointBytes
    rw [if_neg (by omega), if_neg (by omega), if_pos (by omega)]
    rfl
  rw [same, show code / 0x1000 = 13 by omega] at lead
  cases lead

/-- Both readers make the same string of a literal whose surrogates are paired. -/
theorem promptText_eq_stringText_iff
    {tokens : List Token}
    (bounded : Bounded tokens) :
    promptText tokens = stringText tokens ↔ Joined False tokens :=
  promptText_eq_spelled_iff strayText_replaced surrogate_replaced bounded

/-! ## Trees -/

/-- The units of a tree's strings and keys are below `2^16`. -/
def BoundedTree (tree : RawJson) : Prop :=
  tree.Every (fun _ => True) Bounded fun keys => ∀ key ∈ keys, Bounded key

variable {text : Bytes}
variable {tree : RawJson}

theorem boundedTree_document
    {dialect : Dialect}
    (document : Document dialect text tree) :
    BoundedTree tree := by
  obtain ⟨before, body, behind, -, -, spells, -⟩ := document
  refine spells.literals.imp (fun _ _ => trivial) ?_ ?_
  · rintro tokens ⟨body, isBody⟩
    exact bounded_tokens isBody
  · intro keys literals key isKey
    obtain ⟨body, isBody⟩ := literals key isKey
    exact bounded_tokens isBody

theorem integerLiteral_unique
    {literal : Bytes}
    {integer other : Int}
    (isInteger : IntegerLiteral literal integer)
    (isOther : IntegerLiteral literal other) :
    integer = other := by
  have same := isInteger.decimalValue.symm.trans isOther.decimalValue
  exact_mod_cast same

theorem agrees_iff
    (same : Int → ℚ → Prop)
    (integers : Integers tree)
    (bounded : BoundedTree tree) :
    Agrees same (read tree) tree.value ↔
      tree.Every
        (fun literal => ∀ integer, IntegerLiteral literal integer →
          same integer ((Json.stod literal).getD 0))
        (Joined False) fun keys => ∀ key ∈ keys, Joined False key := by
  induction tree using RawJson.induct with
  | null => exact iff_of_true trivial trivial
  | bool value => exact iff_of_true rfl trivial
  | number literal =>
    obtain ⟨integer, isInteger, lower, upper⟩ := integers
    rw [read, ofRaw, readNumber_integer isInteger lower upper, RawJson.value, Agrees]
    constructor
    · intro agree other isOther
      rwa [← integerLiteral_unique isInteger isOther]
    · exact fun every => every integer isInteger
  | string tokens => exact promptText_eq_stringText_iff bounded
  | array elements ih =>
    rw [Integers, RawJson.Every, RawJson.everyElement_iff] at integers
    rw [BoundedTree, RawJson.Every, RawJson.everyElement_iff] at bounded
    rw [read, ofRaw, RawJson.value, Agrees, RawJson.Every]
    induction elements with
    | nil => exact iff_of_true trivial trivial
    | cons element rest others =>
      rw [List.forall_mem_cons] at ih integers bounded
      exact and_congr (ih.1 integers.1 bounded.1)
        (others ih.2 integers.2 bounded.2)
  | object members ih =>
    rw [Integers, RawJson.Every, RawJson.everyMember_iff] at integers
    rw [BoundedTree, RawJson.Every, RawJson.everyMember_iff] at bounded
    rw [read, ofRaw, RawJson.value, Agrees, RawJson.Every]
    replace integers := integers.2
    induction members with
    | nil => exact iff_of_true trivial ⟨List.forall_mem_nil _, trivial⟩
    | cons member rest others =>
      rw [List.map_cons, List.forall_mem_cons, List.forall_mem_cons] at bounded
      rw [List.forall_mem_cons] at ih integers
      have keys := promptText_eq_stringText_iff bounded.1.1
      have first := ih.1 integers.1 bounded.2.1
      have behind := others ih.2 ⟨bounded.1.2, bounded.2.2⟩ integers.2
      rw [ofMembers, RawJson.memberValues, AgreesOnMembers, List.map_cons,
        List.forall_mem_cons, RawJson.EveryMember]
      constructor
      · rintro ⟨key, value, rest⟩
        obtain ⟨otherKeys, otherValues⟩ := behind.mp rest
        exact ⟨⟨keys.mp key, otherKeys⟩, first.mp value, otherValues⟩
      · rintro ⟨⟨key, otherKeys⟩, value, otherValues⟩
        exact ⟨keys.mpr key, first.mpr value, behind.mpr ⟨otherKeys, otherValues⟩⟩

theorem validStrings_read
    {allowed : UInt8 → Prop}
    (integers : Integers tree)
    (bounded : BoundedTree tree)
    (paired : Paired tree)
    (valid : tree.Every (fun _ => True) (ValidLiteral allowed)
      fun keys => ∀ key ∈ keys, ValidLiteral allowed key) :
    ValidStrings (read tree) := by
  have literal {tokens : List Token} (isBounded : Bounded tokens)
      (joined : Joined False tokens) (isValid : ValidLiteral allowed tokens) :
      Utf8.Valid (promptText tokens) := by
    obtain ⟨body, isBody, validBody⟩ := isValid
    rw [(promptText_eq_stringText_iff isBounded).mpr joined]
    exact Json.stringText_valid isBody validBody
  induction tree using RawJson.induct with
  | null => exact .null
  | bool value => exact .bool value
  | number text =>
    obtain ⟨integer, isInteger, lower, upper⟩ := integers
    rw [read, ofRaw, readNumber_integer isInteger lower upper]
    exact .int integer
  | string tokens => exact .string (literal bounded paired valid)
  | array elements ih =>
    rw [Integers, RawJson.Every, RawJson.everyElement_iff] at integers
    rw [BoundedTree, RawJson.Every, RawJson.everyElement_iff] at bounded
    rw [Paired, RawJson.Every, RawJson.everyElement_iff] at paired
    rw [RawJson.Every, RawJson.everyElement_iff] at valid
    rw [read, ofRaw, ofElements_eq]
    refine .array (List.forall_mem_map.mpr fun element isElement => ?_)
    exact ih element isElement (integers element isElement)
      (bounded element isElement) (paired element isElement) (valid element isElement)
  | object members ih =>
    rw [Integers, RawJson.Every, RawJson.everyMember_iff] at integers
    rw [BoundedTree, RawJson.Every, RawJson.everyMember_iff,
      List.forall_mem_map] at bounded
    rw [Paired, RawJson.Every, RawJson.everyMember_iff, List.forall_mem_map] at paired
    rw [RawJson.Every, RawJson.everyMember_iff, List.forall_mem_map] at valid
    rw [read, ofRaw, ofMembers_eq]
    refine .object (List.forall_mem_map.mpr fun member isMember => ?_)
      (List.forall_mem_map.mpr fun member isMember => ?_)
    · exact literal (bounded.1 member isMember) (paired.1 member isMember)
        (valid.1 member isMember)
    · exact ih member isMember (integers.2 member isMember)
        (bounded.2 member isMember) (paired.2 member isMember) (valid.2 member isMember)

/-! ## Emission -/

theorem escapeByte_ascii : ∀ value < 128,
    ∀ byte ∈ escapeByte (UInt8.ofNat value), byte < 0x80 := by
  decide +kernel

theorem escapeByte_high : ∀ value < 256, 128 ≤ value →
    escapeByte (UInt8.ofNat value) = [UInt8.ofNat value] := by
  decide +kernel

/-- A scalar is written validly. -/
theorem valid_escaped_char (char : Char) :
    Utf8.Valid ((String.utf8EncodeChar char).flatMap escapeByte) := by
  rw [← Json.codePointBytes_toNat]
  rcases lt_or_ge char.toNat 0x80 with ascii | wide
  · rw [Json.codePointBytes, if_pos (by omega), List.flatMap_singleton]
    exact Json.asciis_valid (escapeByte_ascii char.toNat ascii)
  · have bound : char.toNat < 0x200000 := by
      have valid := char.valid
      rcases valid with small | ⟨-, large⟩ <;>
        · simp only [Char.toNat] at *
          omega
    have same : (Json.codePointBytes char.toNat).flatMap escapeByte =
        Json.codePointBytes char.toNat := by
      have single (byte : UInt8) (isByte : byte ∈ Json.codePointBytes char.toNat) :
          escapeByte byte = [byte] := by
        have high := codePointBytes_high wide bound byte isByte
        have here := escapeByte_high byte.toNat byte.toNat_lt
          (by simpa [UInt8.le_iff_toNat_le] using high)
        rwa [UInt8.ofNat_toNat] at here
      rw [List.flatMap_congr single]
      simp
    rw [same, Json.codePointBytes_toNat]
    exact ⟨[char], by simp⟩

/-- A valid string is written validly. -/
theorem valid_escaped
    (valid : Utf8.Valid text) :
    Utf8.Valid (text.flatMap escapeByte) := by
  obtain ⟨chars, rfl⟩ := valid
  induction chars with
  | nil => exact .nil
  | cons char chars ih =>
    rw [Utf8.encode_cons, List.flatMap_append]
    exact (valid_escaped_char char).append ih

theorem valid_pythonString
    (valid : Utf8.Valid text) :
    Utf8.Valid (pythonString text) :=
  ((Json.ascii_valid (by decide)).append (valid_escaped valid)).append
    (Json.ascii_valid (by decide))

theorem bytes_valid (literal : String) : Utf8.Valid (bytes literal) :=
  ⟨literal.toList, by rw [← Json.bytes_ofList, String.ofList_toList]⟩

variable (pythonReal : Bytes → Bytes)

theorem valid_toPythonJson
    {value : PromptJson}
    (valid : ValidStrings value) :
    Utf8.Valid (value.toPythonJson pythonReal) := by
  induction valid with
  | null => exact bytes_valid "null"
  | bool boolean =>
    cases boolean with
    | true => exact bytes_valid "true"
    | false => exact bytes_valid "false"
  | int integer => exact bytes_valid (toString integer)
  | string isValid => exact valid_pythonString isValid
  | @array elements each ih =>
    clear each
    have inner : Utf8.Valid (elementsJson pythonReal elements) := by
      induction elements with
      | nil => exact .nil
      | cons first rest others =>
        rw [List.forall_mem_cons] at ih
        cases rest with
        | nil => exact ih.1
        | cons second rest =>
          exact (ih.1.append (bytes_valid ", ")).append
            (others ih.2)
    exact ((bytes_valid "[").append inner).append (bytes_valid "]")
  | @object members keys each ih =>
    clear each
    have inner : Utf8.Valid (membersJson pythonReal members) := by
      induction members with
      | nil => exact .nil
      | cons first rest others =>
        obtain ⟨key, member⟩ := first
        rw [List.forall_mem_cons] at ih keys
        have head := ((valid_pythonString keys.1).append (bytes_valid ": ")).append
          ih.1
        cases rest with
        | nil => exact head
        | cons second rest =>
          exact (head.append (bytes_valid ", ")).append
            (others keys.2 ih.2)
    exact ((Json.ascii_valid (by decide)).append inner).append
      (Json.ascii_valid (by decide))

/-! ## Documents -/

theorem readersAgree_document
    (same : Int → ℚ → Prop)
    (document : Document .rfc text tree)
    (acceptable : tree.Acceptable) :
    ReadersAgree pythonReal same text ↔
      Agrees same (read tree) tree.value ∧
        (Utf8.Valid text → ValidStrings (read tree)) := by
  have accepted := Json.parse_iff.mpr ⟨tree, document, acceptable, rfl⟩
  have parsed := parse_document (document_rfc document)
  constructor
  · rintro ⟨trees, valid⟩
    obtain ⟨prompt, again, agree⟩ := trees tree.value accepted
    rw [parsed] at again
    cases again
    exact ⟨agree, fun isValid => (valid isValid _ parsed).1⟩
  · rintro ⟨agree, valid⟩
    refine ⟨fun value isValue => ?_, fun isValid prompt isPrompt => ?_⟩
    · rw [accepted] at isValue
      cases isValue
      exact ⟨read tree, parsed, agree⟩
    · rw [parsed] at isPrompt
      cases isPrompt
      exact ⟨valid isValid, valid_toPythonJson pythonReal (valid isValid)⟩

theorem readersAgree_iff_agrees
    (same : Int → ℚ → Prop)
    (document : Document .rfc text tree)
    (acceptable : tree.Acceptable)
    (integers : Integers tree) :
    ReadersAgree pythonReal same text ↔
      tree.Every
        (fun literal => ∀ integer, IntegerLiteral literal integer →
          same integer ((Json.stod literal).getD 0))
        (Joined False) fun keys => ∀ key ∈ keys, Joined False key := by
  have bounded := boundedTree_document document
  rw [readersAgree_document pythonReal same document acceptable,
    agrees_iff same integers bounded]
  refine and_iff_left_of_imp fun every valid => ?_
  exact validStrings_read integers bounded
    (every.imp (fun _ _ => trivial) (fun _ => id) fun _ => id) (document.valid valid)

/--
Where JSON's numbers are 64-bit integers, both readers make the same of a text if and
only if every surrogate's escape is in a pair.  The numbers of the first reader are then
what the integers of the second are converted to, and the integers themselves if and
only if these are doubles.
-/
theorem readersAgree_iff
    (pythonReal : Bytes → Bytes)
    {text : Bytes}
    {tree : RawJson}
    (document : Document .rfc text tree)
    (acceptable : tree.Acceptable)
    (integers : Integers tree) :
    (ReadersAgree pythonReal Converted text ↔ Paired tree) ∧
      (ReadersAgree pythonReal Exactly text ↔ Doubles tree ∧ Paired tree) := by
  rw [readersAgree_iff_agrees pythonReal Converted document acceptable integers,
    readersAgree_iff_agrees pythonReal Exactly document acceptable integers]
  have isDouble (literal : Bytes) (inRange : (Json.stod literal).isSome) :
      Json.stod literal = some ((Json.stod literal).getD 0) := by
    obtain ⟨number, rounds⟩ := Option.isSome_iff_exists.mp inRange
    rw [rounds]
    rfl
  refine ⟨⟨fun every => every.imp (fun _ _ => trivial) (fun _ => id) fun _ => id,
    fun paired => ?_⟩, fun every => ⟨?_, ?_⟩, fun both => ?_⟩
  · refine (RawJson.Every.and.mpr ⟨acceptable, paired⟩).imp ?_ (fun _ => And.right)
      fun _ => And.right
    rintro literal ⟨inRange, -⟩ integer isInteger
    rw [Converted, ← isInteger.decimalValue]
    exact isDouble literal inRange
  · refine (RawJson.Every.and.mpr ⟨RawJson.Every.and.mpr ⟨acceptable, integers⟩,
      every⟩).imp ?_ (fun _ _ => trivial) fun _ _ => trivial
    rintro literal ⟨⟨inRange, integer, isInteger, -⟩, equal⟩
    have value := equal integer isInteger
    rw [Exactly] at value
    rw [isInteger.decimalValue, value]
    exact isDouble literal inRange
  · exact every.imp (fun _ _ => trivial) (fun _ => id) fun _ => id
  · refine (RawJson.Every.and.mpr both).imp ?_ (fun _ => And.right) fun _ => And.right
    rintro literal ⟨rounds, -⟩ integer isInteger
    rw [Exactly, rounds, Option.getD_some, isInteger.decimalValue]

/-- An integer, and a string of one pair of surrogates. -/
def pairedTree : RawJson :=
  .array [.number (bytes "1"), .string [.unit 0xd83d, .unit 0xde00]]

theorem hex4_d83d : Json.Hex4 (bytes "d83d") 0xd83d :=
  .digits (show Json.hexValue 0x64 = some 13 by decide)
    (show Json.hexValue 0x38 = some 8 by decide)
    (show Json.hexValue 0x33 = some 3 by decide)
    (show Json.hexValue 0x64 = some 13 by decide)

theorem hex4_de00 : Json.Hex4 (bytes "de00") 0xde00 :=
  .digits (show Json.hexValue 0x64 = some 13 by decide)
    (show Json.hexValue 0x65 = some 14 by decide)
    (show Json.hexValue 0x30 = some 0 by decide)
    (show Json.hexValue 0x30 = some 0 by decide)

theorem one_literal : IntegerLiteral (bytes "1") 1 :=
  .positive (.digits ⟨by decide, by decide⟩ (by decide) : Json.WholePart [0x31])

theorem pairedTree_document :
    Document .rfc (bytes "[1,\"\\ud83d\\ude00\"]") pairedTree := by
  have number : Json.Spells .rfc (bytes "1") (.number (bytes "1")) :=
    .number (.parts (Or.inl rfl) (.digits ⟨by decide, by decide⟩ (by decide)) .absent
      .absent : Json.NumberText ([] ++ ([0x31] ++ ([] ++ []))))
  have string : Json.Spells .rfc (bytes "\"\\ud83d\\ude00\"")
      (.string [.unit 0xd83d, .unit 0xde00]) :=
    .string (.unicode hex4_d83d (.unicode hex4_de00 .done))
  refine ⟨[], _, [], nofun, nofun, @Json.Spells.array .rfc
    [⟨[], bytes "1", [], .number (bytes "1")⟩,
      ⟨[], bytes "\"\\ud83d\\ude00\"", [], .string [.unit 0xd83d, .unit 0xde00]⟩]
    (by simp) ?_ ?_, by decide⟩
  · simp only [List.forall_mem_cons, List.not_mem_nil, false_implies, implies_true,
      and_true]
    exact ⟨⟨nofun, nofun⟩, nofun, nofun⟩
  · simp only [List.forall_mem_cons, List.not_mem_nil, false_implies, implies_true,
      and_true]
    exact ⟨number, string⟩

theorem readersAgree_iff_pair :
    (ReadersAgree id Converted (bytes "[1,\"\\ud83d\\ude00\"]") ↔ Paired pairedTree) ∧
      Paired pairedTree := by
  have paired : Paired pairedTree := ⟨trivial, ⟨by decide, trivial⟩, trivial⟩
  have acceptable : pairedTree.Acceptable := by
    have rounds := Binary64.nearest_natCast (by decide : 1 < 2 ^ 53)
    have inRange : (Json.stod (bytes "1")).isSome := by
      rw [Nat.cast_one] at rounds
      simp only [Json.stod, one_literal.decimalValue, Int.cast_one, rounds,
        Option.isSome_some]
    exact ⟨inRange, trivial, trivial⟩
  have integers : Integers pairedTree :=
    ⟨⟨1, one_literal, by decide, by decide⟩, trivial, trivial⟩
  exact ⟨(readersAgree_iff id pairedTree_document acceptable integers).1, paired⟩

/-- A surrogate on its own is replaced by one reader and encoded by the other. -/
theorem readersAgree_fails :
    Json.parse (bytes "\"\\ud83d\"") = .ok (.string [0xef, 0xbf, 0xbd]) ∧
      parse (bytes "\"\\ud83d\"") = .ok (.string [0xed, 0xa0, 0xbd]) ∧
      ¬ ReadersAgree id Converted (bytes "\"\\ud83d\"") := by
  have document : Document .rfc (bytes "\"\\ud83d\"") (.string [.unit 0xd83d]) :=
    ⟨[], _, [], nofun, nofun, .string (.unicode hex4_d83d .done), by decide⟩
  refine ⟨Json.parse_iff.mpr ⟨_, document, trivial, rfl⟩,
    parse_document (document_rfc document), fun agree => ?_⟩
  have joined := (readersAgree_iff_agrees id Converted document trivial trivial).mp agree
  exact joined.1 (by decide)

end Aeon.Text.PromptJson
