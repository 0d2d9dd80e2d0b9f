import Aeon.PromptAgreement
import Aeon.PromptContinuation
import Aeon.PromptUnique

namespace Aeon.Text.PromptJson

open Aeon.Json (Dialect Document IntegerLiteral NumberText RawJson Spells Token
  codePointBytes decimalValue isSurrogate spelled)

/-!
# Schemas as the reference writes them

The encoder promises the text of `json.dumps(json.loads(text), ensure_ascii=False)`.
It keeps that promise for a text of integers if and only if every integer has 64 bits
and no high surrogate stands in front of an escape it is not paired with.
-/

/-! ## The reference -/

/-- The characters with an escape of their own in the reference. -/
def escapeTable : List (UInt8 × UInt8) :=
  [(0x5c, 0x5c), (0x22, 0x22), (0x08, 0x62), (0x0c, 0x66), (0x0a, 0x6e), (0x0d, 0x72),
    (0x09, 0x74)]

/-- A byte below `0x20` in four hexadecimal digits. -/
def fourDigits (byte : UInt8) : Bytes :=
  (List.leftpad 4 '0' (Nat.toDigits 16 byte.toNat)).map fun digit =>
    UInt8.ofNat digit.toNat

/-- A character as the reference escapes it; the bytes from `0x80` on stay. -/
def referenceEscape (byte : UInt8) : Bytes :=
  match escapeTable.lookup byte with
  | some letter => [0x5c, letter]
  | none => if byte < 0x20 then 0x5c :: 0x75 :: fourDigits byte else [byte]

/-- A literal as the reference reads and writes it: surrogates on their own are kept. -/
def referenceString (tokens : List Token) : Bytes :=
  0x22 :: ((spelled codePointBytes tokens).flatMap referenceEscape ++ [0x22])

/-- An integer literal as the reference reads and writes it. -/
def referenceInteger (literal : Bytes) : Bytes :=
  bytes (toString (decimalValue literal).num)

mutual

/-- `json.dumps(json.loads(text), ensure_ascii=False)` of the text's tree. -/
def reference : RawJson → Bytes
  | .null => bytes "null"
  | .bool boolean => if boolean then bytes "true" else bytes "false"
  | .number literal => referenceInteger literal
  | .string tokens => referenceString tokens
  | .array elements =>
    [0x5b] ++ List.intercalate (bytes ", ") (referenceElements elements) ++ [0x5d]
  | .object members =>
    [0x7b] ++ List.intercalate (bytes ", ") (referenceMembers members) ++ [0x7d]

/-- The texts of the elements. -/
def referenceElements : List RawJson → List Bytes
  | [] => []
  | element :: rest => reference element :: referenceElements rest

/-- The texts of the members, in source order. -/
def referenceMembers : List (List Token × RawJson) → List Bytes
  | [] => []
  | (key, member) :: rest =>
    (referenceString key ++ bytes ": " ++ reference member) :: referenceMembers rest

end

/-! ## The reference in the codec's terms -/

theorem referenceEscape_values : ∀ value < 256,
    referenceEscape (UInt8.ofNat value) = escapeByte (UInt8.ofNat value) := by
  decide +kernel

theorem referenceEscape_eq (byte : UInt8) :
    referenceEscape byte = escapeByte byte := by
  have value := referenceEscape_values byte.toNat byte.toNat_lt
  rwa [UInt8.ofNat_toNat] at value

theorem referenceString_eq (tokens : List Token) :
    referenceString tokens = pythonString (spelled codePointBytes tokens) := by
  simp [referenceString, pythonString, funext referenceEscape_eq]

/-- An integer literal with its value. -/
def exactNumber (literal : Bytes) : PromptJson :=
  .int (decimalValue literal).num

/-- What the reference makes of a tree. -/
def exact (tree : RawJson) : PromptJson :=
  ofRaw exactNumber (spelled codePointBytes) tree

/-- The reference writes like the codec what it reads itself. -/
theorem reference_eq
    (pythonReal : Bytes → Bytes)
    (tree : RawJson) :
    reference tree = (exact tree).toPythonJson pythonReal := by
  induction tree using RawJson.induct with
  | null => rfl
  | bool boolean => cases boolean <;> rfl
  | number literal => rfl
  | string tokens => exact referenceString_eq tokens
  | array elements ih =>
    have listed : List.intercalate (bytes ", ") (referenceElements elements) =
        elementsJson pythonReal (ofElements exactNumber (spelled codePointBytes)
          elements) := by
      induction elements with
      | nil => rfl
      | cons element rest others =>
        rw [List.forall_mem_cons] at ih
        have first := ih.1
        have behind := others ih.2
        rw [exact] at first
        cases rest with
        | nil => simpa [referenceElements, ofElements, elementsJson] using first
        | cons second rest =>
          rw [referenceElements, referenceElements, List.intercalate_cons_cons,
            ← referenceElements, behind, first]
          simp [ofElements, elementsJson]
    rw [reference, listed, exact, ofRaw, toPythonJson,
      show bytes "[" = [0x5b] by decide, show bytes "]" = [0x5d] by decide]
  | object members ih =>
    have listed : List.intercalate (bytes ", ") (referenceMembers members) =
        membersJson pythonReal (ofMembers exactNumber (spelled codePointBytes)
          members) := by
      induction members with
      | nil => rfl
      | cons member rest others =>
        obtain ⟨key, value⟩ := member
        rw [List.forall_mem_cons] at ih
        have first := ih.1
        have behind := others ih.2
        rw [exact] at first
        cases rest with
        | nil =>
          simp [referenceMembers, ofMembers, membersJson, first,
            referenceString_eq]
        | cons second rest =>
          rw [referenceMembers, referenceMembers, List.intercalate_cons_cons,
            ← referenceMembers, behind, first]
          simp [ofMembers, membersJson, referenceString_eq]
    rw [reference, listed, exact, ofRaw, toPythonJson]

/-! ## Where the codec reads like the reference -/

/-- Every number is an integer literal. -/
def IntegersOnly (tree : RawJson) : Prop :=
  tree.Every (fun literal => ∃ integer, IntegerLiteral literal integer)
    (fun _ => True) fun _ => True

/--
Every integer has 64 bits, and each high surrogate in front of an escape is in a pair.
-/
def Representable (tree : RawJson) : Prop :=
  tree.Every
    (fun literal => ∀ integer, IntegerLiteral literal integer →
      -(2 ^ 63) ≤ integer ∧ integer < 2 ^ 63)
    (Joined True) fun keys => ∀ key ∈ keys, Joined True key

theorem strayText_codePointBytes : StrayText codePointBytes where
  shape := by
    intro code surrogate
    obtain ⟨above, below⟩ := surrogate_range surrogate
    have encoded : codePointBytes code =
        [UInt8.ofNat (0xe0 + code / 0x1000), UInt8.ofNat (0x80 + code / 0x40 % 0x40),
          UInt8.ofNat (0x80 + code % 0x40)] := by
      rw [codePointBytes, if_neg (by omega), if_neg (by omega), if_pos (by omega)]
      simp only [Nat.div_one]
    refine ⟨_, _, _, encoded, ?_, ?_, ?_, ?_⟩
    · rw [UInt8.lt_iff_toNat_lt, UInt8.toNat_ofNat', Nat.mod_eq_of_lt (by omega)]
      simp only [UInt8.reduceToNat]
      omega
    · exact high_ofNat (by omega) (by omega)
    · exact high_ofNat (by omega) (by omega)
    · exact high_ofNat (by omega) (by omega)

/-- Both read a literal alike unless a high surrogate is merged with no low one. -/
theorem promptText_eq_reference_iff
    {tokens : List Token}
    (bounded : Bounded tokens) :
    promptText tokens = spelled codePointBytes tokens ↔ Joined True tokens :=
  promptText_eq_spelled_iff strayText_codePointBytes
    (fun _ _ => iff_of_true rfl trivial) bounded

theorem exactNumber_literal
    {literal : Bytes}
    {integer : Int}
    (isInteger : IntegerLiteral literal integer) :
    exactNumber literal = .int integer := by
  rw [exactNumber, isInteger.decimalValue, Rat.num_intCast]

variable {tree : RawJson}
variable {text : Bytes}

theorem read_eq_exact_iff
    (integers : IntegersOnly tree)
    (bounded : BoundedTree tree) :
    read tree = exact tree ↔ Representable tree := by
  induction tree using RawJson.induct with
  | null => exact iff_of_true rfl trivial
  | bool boolean => exact iff_of_true rfl trivial
  | number literal =>
    obtain ⟨integer, isInteger⟩ := integers
    have range : Representable (.number literal) ↔
        -(2 ^ 63) ≤ integer ∧ integer < 2 ^ 63 := by
      constructor
      · exact fun every => every integer isInteger
      · intro range other isOther
        rwa [← integerLiteral_unique isInteger isOther]
    rw [read, exact, ofRaw, ofRaw, readNumber_literal isInteger,
      exactNumber_literal isInteger, strtoll_literal isInteger, range,
      PromptJson.int.injEq]
    omega
  | string tokens =>
    rw [read, exact, ofRaw, ofRaw, PromptJson.string.injEq]
    exact promptText_eq_reference_iff bounded
  | array elements ih =>
    rw [IntegersOnly, RawJson.Every, RawJson.everyElement_iff] at integers
    rw [BoundedTree, RawJson.Every, RawJson.everyElement_iff] at bounded
    rw [read, exact, ofRaw, ofRaw, ofElements_eq, ofElements_eq,
      PromptJson.array.injEq, List.map_inj_left, Representable, RawJson.Every,
      RawJson.everyElement_iff]
    exact forall₂_congr fun element isElement => ih element isElement
      (integers element isElement) (bounded element isElement)
  | object members ih =>
    rw [IntegersOnly, RawJson.Every, RawJson.everyMember_iff] at integers
    rw [BoundedTree, RawJson.Every, RawJson.everyMember_iff] at bounded
    rw [read, exact, ofRaw, ofRaw, ofMembers_eq, ofMembers_eq,
      PromptJson.object.injEq, List.map_inj_left, Representable, RawJson.Every,
      RawJson.everyMember_iff, List.forall_mem_map, ← forall₂_and]
    refine forall₂_congr fun member isMember => ?_
    rw [Prod.mk.injEq]
    exact and_congr
      (promptText_eq_reference_iff (bounded.1 _ (List.mem_map_of_mem isMember)))
      (ih member isMember (integers.2 member isMember)
        (bounded.2 member isMember))

/-! ## From texts to trees -/

theorem written_ofRaw
    {number : Bytes → PromptJson}
    (text : List Token → Bytes)
    (reads : ∀ literal integer, IntegerLiteral literal integer →
      ∃ value, number literal = .int value)
    (integers : IntegersOnly tree) :
    Written (fun _ => True) (ofRaw number text tree) := by
  induction tree using RawJson.induct with
  | null => exact .null
  | bool boolean => exact .bool boolean
  | number literal =>
    obtain ⟨integer, isInteger⟩ := integers
    obtain ⟨value, isValue⟩ := reads literal integer isInteger
    rw [ofRaw, isValue]
    exact .int trivial
  | string tokens => exact .string _
  | array elements ih =>
    rw [IntegersOnly, RawJson.Every, RawJson.everyElement_iff] at integers
    rw [ofRaw, ofElements_eq]
    exact .array (List.forall_mem_map.mpr fun element isElement =>
      ih element isElement (integers element isElement))
  | object members ih =>
    rw [IntegersOnly, RawJson.Every, RawJson.everyMember_iff] at integers
    rw [ofRaw, ofMembers_eq]
    exact .object (List.forall_mem_map.mpr fun member isMember =>
      ih member isMember (integers.2 member isMember))

theorem toPythonJson_injective
    (pythonReal : Bytes → Bytes)
    {value other : PromptJson}
    (written : Written (fun _ => True) value)
    (otherWritten : Written (fun _ => True) other)
    (same : value.toPythonJson pythonReal = other.toPythonJson pythonReal) :
    value = other := by
  have document {value : PromptJson} (written : Written (fun _ => True) value) :
      Document dialect (value.toPythonJson pythonReal) (rawOf value) :=
    document_rfc ⟨[], _, [], nofun, nofun, spells_toPythonJson pythonReal written,
      by simp⟩
  have unread {value : PromptJson} (written : Written (fun _ => True) value) :
      ofRaw exactNumber promptText (rawOf value) = value :=
    ofRaw_rawOf (fun integer _ => exactNumber_literal (Json.integerText_literal integer))
      written
  have shown := document written
  rw [same] at shown
  rw [← unread written, document_unique shown (document otherWritten), unread otherWritten]

/-! ## Whole texts -/

/-- JSON's numbers, and strings of any bytes. -/
def jsonNumbers : Dialect where
  number := NumberText
  allowed := AnyByte

/-- The encoder writes a schema like the reference, and its codec takes JSON numbers. -/
structure MeetsReference
    (encoder : PromptEncoder)
    (text : Bytes) : Prop where
  exact :
    ∀ tree, Document .rfc text tree → (∃ value, Json.parse text = .ok value) →
      IntegersOnly tree → encoder.toReferenceJson text = .ok (reference tree)
  numbers :
    ∀ value, parse text = .ok value →
      ∃ tree, Document jsonNumbers text tree ∧ value = read tree

theorem toReferenceJson_iff
    (encoder : PromptEncoder)
    (document : Document .rfc text tree)
    (integers : IntegersOnly tree) :
    encoder.toReferenceJson text = .ok (reference tree) ↔ Representable tree := by
  rw [← read_eq_exact_iff integers (boundedTree_document document)]
  have shown : encoder.toReferenceJson text =
      .ok ((read tree).toPythonJson encoder.pythonReal) := by
    rw [PromptEncoder.toReferenceJson, parse_document (document_rfc document), ok_bind]
  rw [shown, reference_eq encoder.pythonReal, Except.ok.injEq]
  refine ⟨toPythonJson_injective encoder.pythonReal ?_ ?_, fun same => by rw [same]⟩
  · exact written_ofRaw promptText
      (fun literal _ isInteger => ⟨_, readNumber_literal isInteger⟩) integers
  · exact written_ofRaw _ (fun _ _ _ => ⟨_, rfl⟩) integers

/-- Every number of the tree is one of JSON. -/
def JsonNumbers (tree : RawJson) : Prop :=
  tree.Every NumberText (fun _ => True) fun _ => True

theorem spells_jsonNumbers
    (spells : Spells dialect text tree)
    (numbers : JsonNumbers tree) :
    Spells jsonNumbers text tree := by
  induction spells with
  | null => exact .null
  | true => exact .true
  | false => exact .false
  | number => exact .number numbers
  | string isBody => exact .string isBody
  | emptyArray blank => exact .emptyArray blank
  | array nonempty spaced _ ih =>
    rw [JsonNumbers, RawJson.Every, RawJson.everyElement_iff, List.forall_mem_map]
      at numbers
    exact .array nonempty spaced fun padded isPadded =>
      ih padded isPadded (numbers padded isPadded)
  | emptyObject blank => exact .emptyObject blank
  | object nonempty spaced _ ih =>
    rw [JsonNumbers, RawJson.Every, RawJson.everyMember_iff, List.forall_mem_map]
      at numbers
    exact .object nonempty spaced fun entry isEntry =>
      ih entry isEntry (numbers.2 entry isEntry)

theorem document_jsonNumbers
    {tree : RawJson} :
    Document jsonNumbers text tree ↔ Document dialect text tree ∧ JsonNumbers tree := by
  constructor
  · rintro ⟨before, body, behind, beforeBlank, behindBlank, spells, shape⟩
    refine ⟨⟨before, body, behind, beforeBlank, behindBlank,
      Spells.mono (fun _ => scanned_number) (fun _ _ => trivial) spells, shape⟩, ?_⟩
    exact spells.literals.imp (fun _ => id) (fun _ _ => trivial) fun _ _ => trivial
  · rintro ⟨⟨before, body, behind, beforeBlank, behindBlank, spells, shape⟩, numbers⟩
    exact ⟨before, body, behind, beforeBlank, behindBlank,
      spells_jsonNumbers spells numbers, shape⟩

/--
The encoder meets the reference on a text if and only if the numbers the codec scans in
it are numbers of JSON, and, where the text is JSON of integers, its tree is
representable.
-/
theorem meetsReference_iff
    (encoder : PromptEncoder)
    (text : Bytes) :
    MeetsReference encoder text ↔
      ∀ tree, Document dialect text tree →
        JsonNumbers tree ∧
          ((∃ value, Json.parse text = .ok value) → IntegersOnly tree →
            Representable tree) := by
  constructor
  · intro meets tree document
    obtain ⟨other, isOther, -⟩ := meets.numbers _ (parse_document document)
    obtain ⟨otherDocument, numbers⟩ := document_jsonNumbers.mp isOther
    obtain rfl := document_unique document otherDocument
    refine ⟨numbers, fun accepted integers => ?_⟩
    obtain ⟨value, parsed⟩ := accepted
    obtain ⟨json, isJson, -, -⟩ := Json.parse_iff.mp parsed
    obtain rfl := document_unique document (document_rfc isJson)
    exact (toReferenceJson_iff encoder isJson integers).mp
      (meets.exact tree isJson ⟨value, parsed⟩ integers)
  · intro condition
    refine ⟨fun tree document accepted integers => ?_, fun value parsed => ?_⟩
    · exact (toReferenceJson_iff encoder document integers).mpr
        ((condition tree (document_rfc document)).2 accepted integers)
    · obtain ⟨tree, document, rfl⟩ := parse_iff.mp parsed
      exact ⟨tree, document_jsonNumbers.mpr ⟨document, (condition tree document).1⟩, rfl⟩

/-- The first integer above 64 bits, in decimal. -/
def tooLarge : Bytes :=
  bytes "9223372036854775808"

theorem tooLarge_literal : IntegerLiteral tooLarge (2 ^ 63) := by
  have digits : Json.Digits tooLarge := ⟨by decide, by decide⟩
  exact (.positive (.digits digits (by decide)) : IntegerLiteral tooLarge _)

theorem tooLarge_document : Document .rfc tooLarge (.number tooLarge) := by
  have digits : Json.Digits tooLarge := ⟨by decide, by decide⟩
  have number : NumberText ([] ++ (tooLarge ++ ([] ++ []))) :=
    .parts (Or.inl rfl) (.digits digits (by decide)) .absent .absent
  exact ⟨[], _, [], nofun, nofun, .number number, by decide⟩

theorem minus_notNumber : ¬ NumberText [0x2d] := by
  intro number
  have digit : ∀ {literal : Bytes}, NumberText literal →
      ∃ byte ∈ literal, Json.isDigit byte = true := by
    intro literal isNumber
    cases isNumber with
    | @parts sign whole fraction exponent _ isWhole =>
      obtain ⟨first, tail, rfl⟩ := List.exists_cons_of_ne_nil isWhole.run.nonempty
      exact ⟨first, by simp, isWhole.run.all first List.mem_cons_self⟩
  obtain ⟨byte, isByte, isDigit⟩ := digit number
  obtain rfl := List.mem_singleton.mp isByte
  cases isDigit

/-- A number above 64 bits is cut, and a minus on its own is accepted. -/
theorem meetsReference_fails :
    (∃ value, Json.parse tooLarge = .ok value) ∧
      smallEncoder.toReferenceJson tooLarge = .ok (bytes "9223372036854775807") ∧
      ¬ MeetsReference smallEncoder tooLarge ∧
      parse (bytes "-") = .ok (.int 0) ∧
      ¬ MeetsReference smallEncoder (bytes "-") := by
  have accepted : ∃ value, Json.parse tooLarge = .ok value := by
    refine ⟨_, Json.parse_iff.mpr ⟨_, tooLarge_document, ?_, rfl⟩⟩
    have rounds := Binary64.nearest_two_pow (by decide : 63 < 1024)
    show (Json.stod tooLarge).isSome
    rw [Json.stod, tooLarge_literal.decimalValue, Int.cast_pow, Int.cast_ofNat, rounds]
    rfl
  have integers : IntegersOnly (.number tooLarge) := ⟨_, tooLarge_literal⟩
  have cut : readNumber tooLarge = .int 9223372036854775807 := by
    rw [readNumber_literal tooLarge_literal, strtoll_literal tooLarge_literal]
    rfl
  have shown : smallEncoder.toReferenceJson tooLarge =
      .ok (bytes "9223372036854775807") := by
    rw [PromptEncoder.toReferenceJson, parse_document (document_rfc tooLarge_document),
      ok_bind, read, ofRaw, cut]
    rfl
  have minus : Document dialect (bytes "-") (.number [0x2d]) :=
    ⟨[], _, [], List.forall_mem_nil _, List.forall_mem_nil _,
      .number ⟨0x2d, [], rfl, Or.inl rfl, List.forall_mem_nil _⟩, by decide⟩
  have zero : parse (bytes "-") = .ok (.int 0) := by
    rw [parse_document minus]
    rfl
  refine ⟨accepted, shown, fun meets => ?_, zero, fun meets => ?_⟩
  · have representable := (toReferenceJson_iff smallEncoder tooLarge_document integers).mp
      (meets.exact _ tooLarge_document accepted integers)
    have range := representable (2 ^ 63) tooLarge_literal
    omega
  · obtain ⟨tree, document, -⟩ := meets.numbers _ zero
    obtain ⟨isDocument, numbers⟩ := document_jsonNumbers.mp document
    obtain rfl := document_unique minus isDocument
    exact minus_notNumber numbers

end Aeon.Text.PromptJson
