import Aeon.PromptStrings
import Aeon.JsonSyntax

namespace Aeon.Text.PromptJson

open Aeon.Json (Blank Dialect Document Entry Padded RawJson Spells Token Tokens separated)
open List (append_nil cons_append exists_cons_of_ne_nil forall_mem_cons length_append
  length_cons map_cons map_map mem_cons_self nil_append)

/-!
# What the prompt codec accepts

The codec takes JSON in which a number is any run of digits, signs, points and exponent
marks that starts with a digit or a minus, and a string may hold any bytes.  It reads
every such text, and nothing else.
-/

/-- A mark that makes a number a real. -/
def isRealMark (byte : UInt8) : Bool :=
  byte = 0x2e || byte = 0x65 || byte = 0x45

/-- What `Parser::parse_number` scans. -/
structure Scanned (literal : Bytes) : Prop where
  starts : ∃ first rest, literal = first :: rest ∧
    (first = 0x2d ∨ isDigit first = true) ∧ ∀ byte ∈ rest, isNumberByte byte = true

/-- The JSON the codec takes. -/
def dialect : Dialect where
  number := Scanned
  allowed := AnyByte

/-- The value of a scanned number. -/
def readNumber (literal : Bytes) : PromptJson :=
  if literal.any isRealMark then .real literal else .int (strtoll literal)

section Trees

variable
    (number : Bytes → PromptJson)
    (text : List Token → Bytes)

mutual

/-- A tree with its numbers and strings read. -/
def ofRaw : RawJson → PromptJson
  | .null => .null
  | .bool value => .bool value
  | .number literal => number literal
  | .string tokens => .string (text tokens)
  | .array elements => .array (ofElements elements)
  | .object members => .object (ofMembers members)

/-- The elements, read. -/
def ofElements : List RawJson → List PromptJson
  | [] => []
  | element :: rest => ofRaw element :: ofElements rest

/-- The members, read. -/
def ofMembers : List (List Token × RawJson) → List (Bytes × PromptJson)
  | [] => []
  | (key, member) :: rest => (text key, ofRaw member) :: ofMembers rest

end

theorem ofElements_eq (elements : List RawJson) :
    ofElements number text elements = elements.map (ofRaw number text) := by
  induction elements with
  | nil => rfl
  | cons element rest ih =>
    rw [ofElements, ih, map_cons]

theorem ofMembers_eq (members : List (List Token × RawJson)) :
    ofMembers number text members =
      members.map fun member => (text member.1, ofRaw number text member.2) := by
  induction members with
  | nil => rfl
  | cons member rest ih =>
    rw [ofMembers, ih, map_cons]

end Trees

/-- What the codec makes of a tree. -/
def read (tree : RawJson) : PromptJson :=
  ofRaw readNumber promptText tree

/-! ## Blanks -/

theorem isWhitespace_eq (byte : UInt8) :
    isWhitespace byte = Json.isWhitespace byte := by
  unfold isWhitespace Json.isWhitespace
  ac_rfl

variable {first : UInt8}
variable {rest : Bytes}
variable {byte : UInt8}
variable {literal : Bytes}
variable {cursor : Cursor}
variable {tree : RawJson}
variable {value : PromptJson}
variable {depth : Nat}
variable {entries : List Entry}
variable {space : Bytes}
variable {start after : Cursor}

theorem skipWhitespace_rest
    (cursor : Cursor)
    {lead : Bytes}
    (blank : Blank lead)
    (visible : Json.isWhitespace first = false)
    (here : cursor.rest = lead ++ first :: rest) :
    (skipWhitespace cursor).rest = first :: rest := by
  have taken : cursor.rest.takeWhile isWhitespace = lead := by
    rw [here, List.takeWhile_append_of_pos
        (fun byte isByte => by rw [isWhitespace_eq]; exact blank byte isByte),
      List.takeWhile_cons_of_neg (by simp [isWhitespace_eq, visible]), append_nil]
  rw [skipWhitespace, taken]
  exact skip_rest cursor here

theorem skipWhitespace_end
    (cursor : Cursor)
    (blank : Blank cursor.rest) :
    (skipWhitespace cursor).rest = [] := by
  have taken : cursor.rest.takeWhile isWhitespace = cursor.rest :=
    List.takeWhile_eq_self_iff.mpr fun byte isByte => by
      rw [isWhitespace_eq]
      exact blank byte isByte
  simp [skipWhitespace, Cursor.skip, taken]

theorem skipWhitespace_blank (cursor : Cursor) :
    ∃ lead, Blank lead ∧ cursor.rest = lead ++ (skipWhitespace cursor).rest := by
  refine ⟨cursor.rest.takeWhile isWhitespace, ?_, ?_⟩
  · intro byte isByte
    have blank := List.mem_takeWhile_imp isByte
    rwa [isWhitespace_eq] at blank
  · have behind := skip_rest cursor
      (List.takeWhile_append_dropWhile (p := isWhitespace) (l := cursor.rest)).symm
    rw [skipWhitespace, behind, List.takeWhile_append_dropWhile]

theorem expect_rest
    (cursor : Cursor)
    (here : cursor.rest = byte :: rest) :
    expect cursor byte = .ok (cursor.skip 1) ∧ (cursor.skip 1).rest = rest := by
  simp [expect, here, Cursor.skip]

theorem expect_ok
    {cursor after : Cursor}
    (parsed : expect cursor byte = .ok after) :
    cursor.rest = byte :: after.rest := by
  unfold expect at parsed
  split at parsed
  · next starts =>
      cases parsed
      obtain ⟨rest, here⟩ := List.head?_eq_some_iff.mp starts
      simp [Cursor.skip, here]
  · cases parsed

/-! ## Numbers -/

/-- A scan ends here. -/
def EndsNumber (rest : Bytes) : Prop :=
  ∀ byte ∈ rest.head?, isNumberByte byte = false

theorem endsNumber_blank
    {trail rest : Bytes}
    (blank : Blank trail)
    (ends : isNumberByte byte = false) :
    EndsNumber (trail ++ byte :: rest) := by
  intro first isFirst
  cases trail with
  | nil =>
    obtain rfl : byte = first := by simpa using isFirst
    exact ends
  | cons space trail =>
    obtain rfl : space = first := by simpa using isFirst
    have isBlank := blank space mem_cons_self
    simp only [Json.isWhitespace, Bool.or_eq_true, decide_eq_true_eq] at isBlank
    rcases isBlank with ((rfl | rfl) | rfl) | rfl <;> decide

theorem endsNumber_end
    {trail : Bytes}
    (blank : Blank trail) :
    EndsNumber trail := by
  intro first isFirst
  have isBlank := blank first (List.mem_of_mem_head? isFirst)
  simp only [Json.isWhitespace, Bool.or_eq_true, decide_eq_true_eq] at isBlank
  rcases isBlank with ((rfl | rfl) | rfl) | rfl <;> decide

theorem takeWhile_run
    {run rest : Bytes}
    (all : ∀ byte ∈ run, isNumberByte byte = true)
    (ends : EndsNumber rest) :
    (run ++ rest).takeWhile isNumberByte = run := by
  rw [List.takeWhile_append_of_pos all]
  cases rest with
  | nil => simp
  | cons byte rest => simp [ends byte rfl]

theorem parseNumber_scanned
    (scanned : Scanned literal)
    (cursor : Cursor)
    (ends : EndsNumber rest)
    (here : cursor.rest = literal ++ rest) :
    parseNumber cursor = (readNumber literal, cursor.skip literal.length) := by
  obtain ⟨first, run, rfl, starts, all⟩ := scanned.starts
  have shape : cursor.rest = first :: (run ++ rest) := here
  unfold parseNumber
  simp only [shape, List.head?_cons, Option.some.injEq]
  by_cases sign : first = 0x2d
  · subst sign
    have body : (List.drop 1 (0x2d :: (run ++ rest))).takeWhile isNumberByte = run := by
      simpa using takeWhile_run all ends
    have taken : List.take (1 + run.length) (0x2d :: (run ++ rest)) = 0x2d :: run := by
      rw [Nat.add_comm, List.take_succ_cons, List.take_left]
    have marks : (0x2d :: run).any isRealMark =
        run.any fun byte => byte = 0x2e || byte = 0x65 || byte = 0x45 := rfl
    simp only [if_true, body, taken, readNumber, marks]
    rw [length_cons, Nat.add_comm]
  · have digit : isDigit first = true := starts.resolve_left sign
    have isByte : isNumberByte first = true := by simp [isNumberByte, digit]
    have body : (List.drop 0 (first :: (run ++ rest))).takeWhile isNumberByte =
        first :: run := by
      rw [List.drop_zero, List.takeWhile_cons_of_pos isByte, takeWhile_run all ends]
    have taken : List.take (first :: run).length (first :: (run ++ rest)) =
        first :: run := by
      rw [length_cons, List.take_succ_cons, List.take_left]
    simp only [if_neg sign, body, Nat.zero_add, taken]
    rfl

theorem parseNumber_ok
    (here : cursor.rest = first :: rest)
    (starts : first = 0x2d ∨ isDigit first = true) :
    ∃ literal, Scanned literal ∧ (parseNumber cursor).1 = readNumber literal ∧
      cursor.rest = literal ++ (parseNumber cursor).2.rest := by
  have all : ∀ byte ∈ rest.takeWhile isNumberByte, isNumberByte byte = true :=
    fun byte isByte => List.mem_takeWhile_imp isByte
  have ends : EndsNumber (rest.dropWhile isNumberByte) := by
    intro byte isFirst
    have refused := List.head?_dropWhile_not isNumberByte rest
    rw [isFirst] at refused
    simpa using refused
  have scanned : Scanned (first :: rest.takeWhile isNumberByte) :=
    ⟨first, _, rfl, starts, all⟩
  have shape : cursor.rest =
      (first :: rest.takeWhile isNumberByte) ++ rest.dropWhile isNumberByte := by
    rw [here, cons_append, List.takeWhile_append_dropWhile]
  have read := parseNumber_scanned scanned cursor ends shape
  refine ⟨_, scanned, by rw [read], ?_⟩
  rw [read, skip_rest cursor shape]
  exact shape

/-! ## Every text is read -/

/-- A value's text is read wherever it stands. -/
def Reads
    (text : Bytes)
    (value : PromptJson) : Prop :=
  ∀ depth cursor lead rest,
    Blank lead → EndsNumber rest → 2 * text.length ≤ depth →
      cursor.rest = lead ++ (text ++ rest) →
        ∃ after, parseValue depth cursor = .ok (value, after) ∧ after.rest = rest

theorem Spells.head
    {text : Bytes}
    (spells : Spells dialect text tree) :
    ∃ first rest,
      text = first :: rest ∧ Json.isWhitespace first = Bool.false ∧ first ≠ 0x5d ∧
        first ≠ 0x7d := by
  cases spells with
  | number scanned =>
    obtain ⟨first, rest, shape, starts, -⟩ := scanned.starts
    refine ⟨first, rest, shape, ?_⟩
    rcases starts with rfl | digit
    · decide
    · have other {byte : UInt8} (letter : isDigit byte = Bool.false) :
          first ≠ byte := by
        rintro rfl
        rw [letter] at digit
        cases digit
      refine ⟨?_, other (by decide), other (by decide)⟩
      simp only [Json.isWhitespace, Bool.or_eq_false_iff, decide_eq_false_iff_not]
      exact ⟨⟨⟨other (by decide), other (by decide)⟩, other (by decide)⟩,
        other (by decide)⟩
  | null => exact ⟨_, _, rfl, by decide⟩
  | true => exact ⟨_, _, rfl, by decide⟩
  | false => exact ⟨_, _, rfl, by decide⟩
  | string => exact ⟨_, _, rfl, by decide⟩
  | emptyArray => exact ⟨_, _, rfl, by decide⟩
  | array => exact ⟨_, _, rfl, by decide⟩
  | emptyObject => exact ⟨_, _, rfl, by decide⟩
  | object => exact ⟨_, _, rfl, by decide⟩

theorem parseElements_round
    {padded : Padded}
    (spaced : padded.Spaced)
    (reads : Reads padded.text value)
    (enough : 2 * padded.text.length ≤ depth)
    (elements : List PromptJson)
    (cursor : Cursor)
    (ends : isNumberByte byte = false ∧ Json.isWhitespace byte = false)
    (here : cursor.rest = padded.source ++ byte :: rest) :
    ∃ next : Cursor, next.rest = byte :: rest ∧
      parseElements (depth + 1) elements cursor =
        if byte = 0x2c then parseElements depth (elements ++ [value]) (next.skip 1)
        else if byte = 0x5d then .ok (elements ++ [value], next.skip 1)
        else next.fail "expected ',' or ']' in array" := by
  obtain ⟨after, parsed, behind⟩ :=
    reads depth cursor padded.lead (padded.trail ++ byte :: rest) spaced.lead
      (endsNumber_blank spaced.trail ends.1) enough (by simp [here, Padded.source])
  have next := skipWhitespace_rest after spaced.trail ends.2 behind
  refine ⟨skipWhitespace after, next, ?_⟩
  rw [parseElements, parsed, ok_bind]
  simp only [next]

theorem parseElements_reads
    {padded : List Padded}
    (nonempty : padded ≠ [])
    (spaced : ∀ element ∈ padded, element.Spaced)
    (reads : ∀ element ∈ padded, Reads element.text (read element.tree))
    (enough : 2 * (separated (padded.map Padded.source)).length < depth)
    (elements : List PromptJson)
    (cursor : Cursor)
    (here : cursor.rest = separated (padded.map Padded.source) ++ 0x5d :: rest) :
    ∃ after : Cursor,
      parseElements depth elements cursor =
          .ok (elements ++ padded.map (fun element => read element.tree), after) ∧
        after.rest = rest := by
  induction padded generalizing depth elements cursor with
  | nil => exact absurd rfl nonempty
  | cons first others ih =>
    rw [forall_mem_cons] at spaced reads
    obtain ⟨depth, rfl⟩ : ∃ fewer, depth = fewer + 1 := ⟨depth - 1, by omega⟩
    have short : first.text.length ≤ first.source.length := by
      simp only [Padded.source, length_append]
      omega
    cases others with
    | nil =>
      simp only [map_cons, List.map_nil, separated] at enough here
      obtain ⟨next, behind, parsed⟩ := parseElements_round spaced.1 reads.1
        (by omega : 2 * first.text.length ≤ depth) elements cursor (by decide) here
      refine ⟨next.skip 1, ?_, by simp [Cursor.skip, behind]⟩
      rw [parsed, if_neg (by decide), if_pos rfl]
      rfl
    | cons second others =>
      rw [map_cons, map_cons, separated, length_append,
        length_cons, ← map_cons] at enough
      rw [map_cons, map_cons, separated, List.append_assoc,
        cons_append, ← map_cons] at here
      obtain ⟨next, behind, parsed⟩ := parseElements_round spaced.1 reads.1
        (by omega : 2 * first.text.length ≤ depth) elements cursor (by decide) here
      obtain ⟨after, loop, ends⟩ :=
        ih (by simp) spaced.2 reads.2
          (by omega : 2 * (separated
            ((second :: others).map Padded.source)).length < depth)
          (elements ++ [read first.tree]) (next.skip 1)
          (by simp [Cursor.skip, behind])
      refine ⟨after, ?_, ends⟩
      rw [parsed, if_pos rfl, loop]
      simp

theorem parseMembers_round
    {entry : Entry}
    (spaced : entry.Spaced AnyByte)
    (reads : Reads entry.padded.text value)
    (enough : 2 * entry.padded.text.length ≤ depth)
    (members : List (Bytes × PromptJson))
    (cursor : Cursor)
    (ends : isNumberByte byte = false ∧ Json.isWhitespace byte = false)
    (here : cursor.rest = entry.source ++ byte :: rest) :
    ∃ next : Cursor, next.rest = byte :: rest ∧
      parseMembers (depth + 1) members cursor =
        if byte = 0x2c then
          parseMembers depth (members ++ [(promptText entry.key, value)]) (next.skip 1)
        else if byte = 0x7d then
          .ok (members ++ [(promptText entry.key, value)], next.skip 1)
        else next.fail "expected ',' or '\x7d' in object" := by
  have started := skipWhitespace_rest cursor spaced.lead (by decide)
    (show cursor.rest = entry.lead ++ 0x22 :: (entry.name ++ 0x22 :: (entry.gap ++
      0x3a :: (entry.padded.lead ++ (entry.padded.text ++ (entry.padded.trail ++
        byte :: rest))))) by simp [here, Entry.source, Padded.source])
  obtain ⟨named, readKey, behindKey⟩ := parseString_tokens spaced.spells _ started
  have colon := skipWhitespace_rest named spaced.gap (by decide) behindKey
  obtain ⟨expected, behindColon⟩ := expect_rest _ colon
  obtain ⟨after, parsed, behind⟩ :=
    reads depth _ entry.padded.lead (entry.padded.trail ++ byte :: rest)
      spaced.padded.lead (endsNumber_blank spaced.padded.trail ends.1) enough
      behindColon
  have next := skipWhitespace_rest after spaced.padded.trail ends.2 behind
  refine ⟨skipWhitespace after, next, ?_⟩
  rw [parseMembers]
  simp only [started, List.head?_cons, ne_eq, not_true, if_false, readKey, ok_bind,
    expected, parsed, next]

theorem parseMembers_reads
    (nonempty : entries ≠ [])
    (spaced : ∀ entry ∈ entries, entry.Spaced AnyByte)
    (reads : ∀ entry ∈ entries, Reads entry.padded.text (read entry.padded.tree))
    (enough : 2 * (separated (entries.map Entry.source)).length < depth)
    (members : List (Bytes × PromptJson))
    (cursor : Cursor)
    (here : cursor.rest = separated (entries.map Entry.source) ++ 0x7d :: rest) :
    ∃ after : Cursor,
      parseMembers depth members cursor =
          .ok (members ++
            entries.map (fun entry => (promptText entry.key, read entry.padded.tree)),
            after) ∧
        after.rest = rest := by
  induction entries generalizing depth members cursor with
  | nil => exact absurd rfl nonempty
  | cons first others ih =>
    rw [forall_mem_cons] at spaced reads
    obtain ⟨depth, rfl⟩ : ∃ fewer, depth = fewer + 1 := ⟨depth - 1, by omega⟩
    have short : first.padded.text.length ≤ first.source.length := by
      simp only [Entry.source, Padded.source, length_append, length_cons]
      omega
    cases others with
    | nil =>
      simp only [map_cons, List.map_nil, separated] at enough here
      obtain ⟨next, behind, parsed⟩ := parseMembers_round spaced.1 reads.1
        (by omega : 2 * first.padded.text.length ≤ depth) members cursor
        (by decide) here
      refine ⟨next.skip 1, ?_, by simp [Cursor.skip, behind]⟩
      rw [parsed, if_neg (by decide), if_pos rfl]
      rfl
    | cons second others =>
      rw [map_cons, map_cons, separated, length_append,
        length_cons, ← map_cons] at enough
      rw [map_cons, map_cons, separated, List.append_assoc,
        cons_append, ← map_cons] at here
      obtain ⟨next, behind, parsed⟩ := parseMembers_round spaced.1 reads.1
        (by omega : 2 * first.padded.text.length ≤ depth) members cursor
        (by decide) here
      obtain ⟨after, loop, ends⟩ :=
        ih (by simp) spaced.2 reads.2
          (by omega : 2 * (separated
            ((second :: others).map Entry.source)).length < depth)
          (members ++ [(promptText first.key, read first.padded.tree)])
          (next.skip 1) (by simp [Cursor.skip, behind])
      refine ⟨after, ?_, ends⟩
      rw [parsed, if_pos rfl, loop]
      simp

/-- Skipping blanks twice is skipping them once. -/
theorem skipWhitespace_twice (cursor : Cursor) :
    skipWhitespace (skipWhitespace cursor) = skipWhitespace cursor := by
  have behind := skip_rest cursor
    (List.takeWhile_append_dropWhile (p := isWhitespace) (l := cursor.rest)).symm
  have settled : (skipWhitespace cursor).rest.takeWhile isWhitespace = [] := by
    have visible := List.head?_dropWhile_not isWhitespace cursor.rest
    rw [skipWhitespace, behind]
    cases shape : cursor.rest.dropWhile isWhitespace with
    | nil => rfl
    | cons first rest =>
      rw [shape] at visible
      exact List.takeWhile_cons_of_neg (by simpa using visible)
  conv_lhs => rw [skipWhitespace, settled]
  simp [Cursor.skip]

/-- The loops skip the blanks in front of them by themselves. -/
theorem parseElements_skip
    (depth : Nat)
    (elements : List PromptJson)
    (cursor : Cursor) :
    parseElements (depth + 2) elements (skipWhitespace cursor) =
      parseElements (depth + 2) elements cursor := by
  have same : parseValue (depth + 1) (skipWhitespace cursor) =
      parseValue (depth + 1) cursor := by
    rw [parseValue, skipWhitespace_twice]
    conv_rhs => rw [parseValue]
  rw [parseElements, same]
  conv_rhs => rw [parseElements]

theorem parseMembers_skip
    (depth : Nat)
    (members : List (Bytes × PromptJson))
    (cursor : Cursor) :
    parseMembers (depth + 1) members (skipWhitespace cursor) =
      parseMembers (depth + 1) members cursor := by
  rw [parseMembers, skipWhitespace_twice]
  conv_rhs => rw [parseMembers]

theorem reads_of_branch
    {text : Bytes}
    (head : ∃ first rest, text = first :: rest ∧ Json.isWhitespace first = false)
    (branch : ∀ depth cursor rest,
      EndsNumber rest → 2 * text.length ≤ depth + 1 → cursor.rest = text ++ rest →
        skipWhitespace cursor = cursor →
          ∃ after, parseValue (depth + 1) cursor = .ok (value, after) ∧
            after.rest = rest) :
    Reads text value := by
  intro depth cursor lead rest blank ends enough here
  obtain ⟨first, others, shape, visible⟩ := head
  obtain ⟨depth, rfl⟩ : ∃ fewer, depth = fewer + 1 :=
    ⟨depth - 1, by
      rw [shape, length_cons] at enough
      omega⟩
  have started := skipWhitespace_rest cursor blank visible
    (by rw [here, shape, cons_append])
  have settled := skipWhitespace_twice cursor
  obtain ⟨after, parsed, behind⟩ :=
    branch depth (skipWhitespace cursor) rest ends enough
      (by rw [started, shape, cons_append]) settled
  refine ⟨after, ?_, behind⟩
  rw [← parsed]
  conv_rhs => rw [parseValue]
  rw [parseValue, settled]

theorem Spells.visible
    {text : Bytes}
    (spells : Spells dialect text tree) :
    ∃ first rest, text = first :: rest ∧ Json.isWhitespace first = false := by
  obtain ⟨first, rest, shape, visible, -⟩ := Spells.head spells
  exact ⟨first, rest, shape, visible⟩

theorem parseValue_literal
    (settled : skipWhitespace cursor = cursor)
    (here : cursor.rest = first :: rest)
    (letter : first = 0x74 ∨ first = 0x66 ∨ first = 0x6e) :
    parseValue (depth + 1) cursor = parseLiteral cursor := by
  rw [parseValue]
  simp only [settled, here]
  rcases letter with rfl | rfl | rfl <;> rfl

theorem literal_reads
    (spells : Spells dialect literal tree)
    (letter : ∀ first ∈ literal.head?, first = 0x74 ∨ first = 0x66 ∨ first = 0x6e)
    (read : ∀ cursor rest, cursor.rest = literal ++ rest →
      parseLiteral cursor = .ok (read tree, cursor.skip literal.length)) :
    Reads literal (PromptJson.read tree) := by
  refine reads_of_branch (Spells.visible spells) ?_
  intro depth cursor rest _ _ here settled
  obtain ⟨first, others, shape, -⟩ := Spells.visible spells
  have starts : cursor.rest = first :: (others ++ rest) := by
    rw [here, shape, cons_append]
  refine ⟨_, ?_, skip_rest cursor here⟩
  rw [parseValue_literal settled starts (letter first (by simp [shape])),
    read cursor rest here]

theorem bytes_true : bytes "true" = [0x74, 0x72, 0x75, 0x65] := by decide

theorem bytes_false : bytes "false" = [0x66, 0x61, 0x6c, 0x73, 0x65] := by decide

theorem bytes_null : bytes "null" = [0x6e, 0x75, 0x6c, 0x6c] := by decide

theorem number_reads
    (scanned : Scanned literal) :
    Reads literal (read (.number literal)) := by
  refine reads_of_branch (Spells.visible (.number scanned)) ?_
  intro depth cursor rest ends _ here settled
  obtain ⟨first, others, shape, starts, -⟩ := scanned.starts
  have head : cursor.rest = first :: (others ++ rest) := by
    rw [here, shape, cons_append]
  refine ⟨_, ?_, skip_rest cursor here⟩
  have other {byte : UInt8} (letter : isDigit byte = false ∧ byte ≠ 0x2d) :
      first ≠ byte := by
    rintro rfl
    rcases starts with minus | digit
    · exact letter.2 minus
    · rw [letter.1] at digit
      cases digit
  rw [parseValue]
  simp only [settled, head,
    other (show isDigit 0x7b = false ∧ (0x7b : UInt8) ≠ 0x2d by decide),
    other (show isDigit 0x5b = false ∧ (0x5b : UInt8) ≠ 0x2d by decide),
    other (show isDigit 0x22 = false ∧ (0x22 : UInt8) ≠ 0x2d by decide),
    other (show isDigit 0x74 = false ∧ (0x74 : UInt8) ≠ 0x2d by decide),
    other (show isDigit 0x66 = false ∧ (0x66 : UInt8) ≠ 0x2d by decide),
    other (show isDigit 0x6e = false ∧ (0x6e : UInt8) ≠ 0x2d by decide),
    if_false, decide_false, Bool.or_false, Bool.false_eq_true]
  rw [if_pos (by simpa using starts), parseNumber_scanned scanned cursor ends here]
  rfl

theorem string_reads
    {body : Bytes}
    {tokens : List Token}
    (isBody : Tokens AnyByte body tokens) :
    Reads (0x22 :: (body ++ [0x22])) (read (.string tokens)) := by
  refine reads_of_branch (Spells.visible (.string isBody)) ?_
  intro depth cursor rest _ _ here settled
  have shape : cursor.rest = 0x22 :: (body ++ 0x22 :: rest) := by
    rw [here]
    simp
  obtain ⟨after, parsed, behind⟩ := parseString_tokens isBody cursor shape
  refine ⟨after, ?_, behind⟩
  rw [parseValue]
  simp only [settled, shape]
  rw [if_neg (by decide), if_neg (by decide), if_pos trivial, parsed, ok_bind]
  rfl

section

variable
    (settled : skipWhitespace cursor = cursor)

include settled

/-- What stands behind an opening bracket. -/
theorem parseValue_array
    (here : cursor.rest = 0x5b :: rest) :
    parseValue (depth + 1) cursor =
      if (skipWhitespace (cursor.skip 1)).rest.head? = some 0x5d then
        .ok (.array [], (skipWhitespace (cursor.skip 1)).skip 1)
      else
        parseElements depth [] (skipWhitespace (cursor.skip 1)) >>=
          fun (elements, closed) => .ok (.array elements, closed) := by
  rw [parseValue]
  simp only [settled, here]
  rfl

/-- What stands behind an opening brace. -/
theorem parseValue_object
    (here : cursor.rest = 0x7b :: rest) :
    parseValue (depth + 1) cursor =
      if (skipWhitespace (cursor.skip 1)).rest.head? = some 0x7d then
        .ok (.object [], (skipWhitespace (cursor.skip 1)).skip 1)
      else
        parseMembers depth [] (skipWhitespace (cursor.skip 1)) >>=
          fun (members, closed) => .ok (.object members, closed) := by
  rw [parseValue]
  simp only [settled, here]
  rfl

end

theorem separated_starts
    (first : Bytes)
    (rest : List Bytes) :
    ∃ behind, separated (first :: rest) = first ++ behind := by
  cases rest with
  | nil => exact ⟨[], (append_nil _).symm⟩
  | cons second rest => exact ⟨_, rfl⟩

theorem emptyArray_reads
    (blank : Blank space) :
    Reads (0x5b :: (space ++ [0x5d])) (read (.array [])) := by
  refine reads_of_branch (Spells.visible (.emptyArray blank)) ?_
  intro depth cursor rest _ _ here settled
  have shape : cursor.rest = 0x5b :: (space ++ 0x5d :: rest) := by
    rw [here]
    simp
  have closed := skipWhitespace_rest (cursor.skip 1) blank (by decide)
    (show (cursor.skip 1).rest = space ++ 0x5d :: rest by simp [Cursor.skip, shape])
  refine ⟨(skipWhitespace (cursor.skip 1)).skip 1, ?_, by rw [Cursor.skip, closed]; rfl⟩
  rw [parseValue_array settled shape, closed, List.head?_cons, if_pos rfl]
  rfl

theorem array_reads
    {elements : List Padded}
    (nonempty : elements ≠ [])
    (spaced : ∀ element ∈ elements, element.Spaced)
    (each : ∀ element ∈ elements, Spells dialect element.text element.tree)
    (reads : ∀ element ∈ elements, Reads element.text (read element.tree)) :
    Reads (0x5b :: (separated (elements.map Padded.source) ++ [0x5d]))
      (read (.array (elements.map Padded.tree))) := by
  refine reads_of_branch (Spells.visible (.array nonempty spaced each)) ?_
  intro depth cursor rest _ enough here settled
  have shape : cursor.rest =
      0x5b :: (separated (elements.map Padded.source) ++ 0x5d :: rest) := by
    rw [here]
    simp
  have opened : (cursor.skip 1).rest =
      separated (elements.map Padded.source) ++ 0x5d :: rest := by
    simp [Cursor.skip, shape]
  simp only [length_cons, length_append, List.length_nil] at enough
  obtain ⟨depth, rfl⟩ : ∃ fewer, depth = fewer + 2 := ⟨depth - 2, by omega⟩
  obtain ⟨after, loop, behind⟩ := parseElements_reads nonempty spaced reads
    (by omega : 2 * (separated (elements.map Padded.source)).length < depth + 2) []
    (cursor.skip 1) opened
  refine ⟨after, ?_, behind⟩
  have starts : (skipWhitespace (cursor.skip 1)).rest.head? ≠ some 0x5d := by
    obtain ⟨element, others, rfl⟩ := exists_cons_of_ne_nil nonempty
    obtain ⟨first, text, textShape, visible, notBracket, -⟩ :=
      Spells.head (each element mem_cons_self)
    obtain ⟨tail, tailShape⟩ :=
      separated_starts element.source (others.map Padded.source)
    have firstShape : (cursor.skip 1).rest = element.lead ++
        first :: (text ++ (element.trail ++ (tail ++ 0x5d :: rest))) := by
      rw [opened, map_cons, tailShape, Padded.source, textShape]
      simp
    rw [skipWhitespace_rest _ (spaced element mem_cons_self).lead visible firstShape]
    simpa using notBracket
  rw [parseValue_array settled shape, if_neg starts, parseElements_skip, loop, ok_bind,
    nil_append, read, ofRaw, ofElements_eq, map_map]
  rfl

theorem emptyObject_reads
    (blank : Blank space) :
    Reads (0x7b :: (space ++ [0x7d])) (read (.object [])) := by
  refine reads_of_branch (Spells.visible (.emptyObject blank)) ?_
  intro depth cursor rest _ _ here settled
  have shape : cursor.rest = 0x7b :: (space ++ 0x7d :: rest) := by
    rw [here]
    simp
  have closed := skipWhitespace_rest (cursor.skip 1) blank (by decide)
    (show (cursor.skip 1).rest = space ++ 0x7d :: rest by simp [Cursor.skip, shape])
  refine ⟨(skipWhitespace (cursor.skip 1)).skip 1, ?_, by rw [Cursor.skip, closed]; rfl⟩
  rw [parseValue_object settled shape, closed, List.head?_cons, if_pos rfl]
  rfl

theorem object_reads
    (nonempty : entries ≠ [])
    (spaced : ∀ entry ∈ entries, entry.Spaced AnyByte)
    (each : ∀ entry ∈ entries, Spells dialect entry.padded.text entry.padded.tree)
    (reads : ∀ entry ∈ entries, Reads entry.padded.text (read entry.padded.tree)) :
    Reads (0x7b :: (separated (entries.map Entry.source) ++ [0x7d]))
      (read (.object (entries.map Entry.member))) := by
  refine reads_of_branch (Spells.visible (.object nonempty spaced each)) ?_
  intro depth cursor rest _ enough here settled
  have shape : cursor.rest =
      0x7b :: (separated (entries.map Entry.source) ++ 0x7d :: rest) := by
    rw [here]
    simp
  have opened : (cursor.skip 1).rest =
      separated (entries.map Entry.source) ++ 0x7d :: rest := by
    simp [Cursor.skip, shape]
  simp only [length_cons, length_append, List.length_nil] at enough
  obtain ⟨depth, rfl⟩ : ∃ fewer, depth = fewer + 1 := ⟨depth - 1, by omega⟩
  obtain ⟨after, loop, behind⟩ := parseMembers_reads nonempty spaced reads
    (by omega : 2 * (separated (entries.map Entry.source)).length < depth + 1) []
    (cursor.skip 1) opened
  refine ⟨after, ?_, behind⟩
  have starts : (skipWhitespace (cursor.skip 1)).rest.head? ≠ some 0x7d := by
    obtain ⟨entry, others, rfl⟩ := exists_cons_of_ne_nil nonempty
    obtain ⟨tail, tailShape⟩ := separated_starts entry.source (others.map Entry.source)
    have firstShape : (cursor.skip 1).rest = entry.lead ++
        0x22 :: (entry.name ++ 0x22 :: (entry.gap ++ 0x3a :: entry.padded.source) ++
          (tail ++ 0x7d :: rest)) := by
      rw [opened, map_cons, tailShape, Entry.source]
      simp
    rw [skipWhitespace_rest _ (spaced entry mem_cons_self).lead (by decide)
      firstShape]
    simp
  rw [parseValue_object settled shape, if_neg starts, parseMembers_skip, loop, ok_bind,
    nil_append, read, ofRaw, ofMembers_eq, map_map]
  rfl

theorem reads_spells
    {text : Bytes}
    (spells : Spells dialect text tree) :
    Reads text (read tree) := by
  induction spells with
  | null =>
    refine literal_reads .null (by simp [bytes_null]) fun cursor rest here => ?_
    rw [parseLiteral, here, bytes_true, bytes_false, bytes_null]
    rfl
  | true =>
    refine literal_reads .true (by simp [bytes_true]) fun cursor rest here => ?_
    rw [parseLiteral, here, bytes_true]
    rfl
  | false =>
    refine literal_reads .false (by simp [bytes_false]) fun cursor rest here => ?_
    rw [parseLiteral, here, bytes_true, bytes_false]
    rfl
  | number scanned => exact number_reads scanned
  | string isBody => exact string_reads isBody
  | emptyArray blank => exact emptyArray_reads blank
  | array nonempty spaced each ih =>
    exact array_reads nonempty spaced each ih
  | emptyObject blank => exact emptyObject_reads blank
  | object nonempty spaced each ih =>
    exact object_reads nonempty spaced each ih

theorem parse_document
    {text : Bytes}
    (document : Document dialect text tree) :
    parse text = .ok (read tree) := by
  obtain ⟨before, body, behind, beforeBlank, behindBlank, spells, rfl⟩ := document
  obtain ⟨first, rest, shape, visible⟩ := Spells.visible spells
  have started := skipWhitespace_rest { rest := before ++ (body ++ behind) } beforeBlank
    visible (show before ++ (body ++ behind) = before ++ first :: (rest ++ behind) by
      rw [shape, cons_append])
  obtain ⟨after, parsed, ends⟩ :=
    reads_spells spells (2 * (before ++ (body ++ behind)).length + 2)
      (skipWhitespace { rest := before ++ (body ++ behind) }) [] behind nofun
      (endsNumber_end behindBlank) (by simp only [length_append]; omega)
      (by rw [started, shape]; rfl)
  have done : (skipWhitespace after).rest = [] := by
    refine skipWhitespace_end after ?_
    rwa [ends]
  rw [parse, parsed, ok_bind]
  simp [done]

/-! ## Nothing else is read -/

/-- What a call with this depth left may return. -/
structure TakesTexts (depth : Nat) : Prop where
  value :
    ∀ {start after value},
      parseValue depth start = .ok (value, after) →
        ∃ lead text tree,
          Blank lead ∧ Spells dialect text tree ∧ value = read tree ∧
            start.rest = lead ++ (text ++ after.rest)
  elements :
    ∀ {values start found after},
      parseElements depth values start = .ok (found, after) →
        ∃ elements : List Padded,
          elements ≠ [] ∧ (∀ element ∈ elements, element.Spaced) ∧
            (∀ element ∈ elements, Spells dialect element.text element.tree) ∧
            found = values ++ elements.map (fun element => read element.tree) ∧
            start.rest =
              separated (elements.map Padded.source) ++ 0x5d :: after.rest
  members :
    ∀ {values start found after},
      parseMembers depth values start = .ok (found, after) →
        ∃ entries : List Entry,
          entries ≠ [] ∧ (∀ entry ∈ entries, entry.Spaced AnyByte) ∧
            (∀ entry ∈ entries, Spells dialect entry.padded.text entry.padded.tree) ∧
            found = values ++
              entries.map (fun entry => (promptText entry.key, read entry.padded.tree)) ∧
            start.rest = separated (entries.map Entry.source) ++ 0x7d :: after.rest

theorem parseLiteral_ok
    {cursor after : Cursor}
    (parsed : parseLiteral cursor = .ok (value, after)) :
    ∃ text tree,
      Spells dialect text tree ∧ value = read tree ∧ cursor.rest = text ++ after.rest := by
  have behind {literal : String}
      (here : (bytes literal).isPrefixOf cursor.rest = true) :
      cursor.rest = bytes literal ++ (cursor.skip (bytes literal).length).rest := by
    obtain ⟨rest, shape⟩ := List.isPrefixOf_iff_prefix.mp here
    rw [skip_rest cursor shape.symm, shape]
  unfold parseLiteral at parsed
  split at parsed
  · next here =>
      cases parsed
      exact ⟨_, .bool true, .true, rfl, behind here⟩
  · split at parsed
    · next here =>
        cases parsed
        exact ⟨_, .bool false, .false, rfl, behind here⟩
    · split at parsed
      · next here =>
          cases parsed
          exact ⟨_, .null, .null, rfl, behind here⟩
      · cases parsed

theorem exists_elements_lead
    {elements : List Padded}
    (blank : Blank space)
    (nonempty : elements ≠ [])
    (spaced : ∀ element ∈ elements, element.Spaced)
    (each : ∀ element ∈ elements, Spells dialect element.text element.tree) :
    ∃ others : List Padded,
      others ≠ [] ∧ (∀ element ∈ others, element.Spaced) ∧
        (∀ element ∈ others, Spells dialect element.text element.tree) ∧
        others.map Padded.tree = elements.map Padded.tree ∧
        separated (others.map Padded.source) =
          space ++ separated (elements.map Padded.source) := by
  obtain ⟨first, rest, rfl⟩ := exists_cons_of_ne_nil nonempty
  rw [forall_mem_cons] at spaced each
  refine ⟨{ first with lead := space ++ first.lead } :: rest, by simp, ?_, ?_, rfl, ?_⟩
  · exact List.forall_mem_cons.mpr
      ⟨⟨blank.append spaced.1.lead, spaced.1.trail⟩, spaced.2⟩
  · exact List.forall_mem_cons.mpr each
  · rw [map_cons, map_cons, ← Json.separated_lead]
    simp [Padded.source]

theorem exists_entries_lead
    (blank : Blank space)
    (nonempty : entries ≠ [])
    (spaced : ∀ entry ∈ entries, entry.Spaced AnyByte)
    (each : ∀ entry ∈ entries, Spells dialect entry.padded.text entry.padded.tree) :
    ∃ others : List Entry,
      others ≠ [] ∧ (∀ entry ∈ others, entry.Spaced AnyByte) ∧
        (∀ entry ∈ others, Spells dialect entry.padded.text entry.padded.tree) ∧
        others.map Entry.member = entries.map Entry.member ∧
        separated (others.map Entry.source) =
          space ++ separated (entries.map Entry.source) := by
  obtain ⟨first, rest, rfl⟩ := exists_cons_of_ne_nil nonempty
  rw [forall_mem_cons] at spaced each
  refine ⟨{ first with lead := space ++ first.lead } :: rest, by simp, ?_, ?_, rfl, ?_⟩
  · exact List.forall_mem_cons.mpr ⟨⟨blank.append spaced.1.lead, spaced.1.spells,
      spaced.1.gap, spaced.1.padded⟩, spaced.2⟩
  · exact List.forall_mem_cons.mpr each
  · rw [map_cons, map_cons, ← Json.separated_lead]
    simp [Entry.source]

theorem read_array (elements : List Padded) :
    read (.array (elements.map Padded.tree)) =
      .array (elements.map fun element => read element.tree) := by
  rw [read, ofRaw, ofElements_eq, map_map]
  rfl

theorem read_object (entries : List Entry) :
    read (.object (entries.map Entry.member)) =
      .object (entries.map fun entry =>
        (promptText entry.key, read entry.padded.tree)) := by
  rw [read, ofRaw, ofMembers_eq, map_map]
  rfl

section

variable
    {depth : Nat}
    (takes : TakesTexts depth)
    {cursor after : Cursor}
    {rest : Bytes}
    {value : PromptJson}
    (settled : skipWhitespace cursor = cursor)

include takes settled

/-- What an opening bracket leads to is an array. -/
theorem TakesTexts.array
    (here : cursor.rest = 0x5b :: rest)
    (parsed : parseValue (depth + 1) cursor = .ok (value, after)) :
    ∃ text tree,
      Spells dialect text tree ∧ value = read tree ∧ cursor.rest = text ++ after.rest := by
  have opened : (cursor.skip 1).rest = rest := by simp [Cursor.skip, here]
  obtain ⟨space, blank, shape⟩ := skipWhitespace_blank (cursor.skip 1)
  rw [parseValue_array settled here] at parsed
  split at parsed
  · next closes =>
      cases parsed
      obtain ⟨behind, closed⟩ := List.head?_eq_some_iff.mp closes
      refine ⟨_, .array [], .emptyArray blank, rfl, ?_⟩
      rw [here, ← opened, shape, closed, Cursor.skip, closed]
      simp
  · obtain ⟨⟨found, closed⟩, loop, parsed⟩ := bind_eq_ok.mp parsed
    cases parsed
    obtain ⟨elements, nonempty, spaced, each, rfl, moved⟩ := takes.elements loop
    obtain ⟨others, othersNonempty, othersSpaced, othersEach, trees, sources⟩ :=
      exists_elements_lead blank nonempty spaced each
    refine ⟨_, _, .array othersNonempty othersSpaced othersEach, ?_, ?_⟩
    · rw [trees, read_array, nil_append]
    · rw [here, ← opened, shape, moved, sources]
      simp

/-- What an opening brace leads to is an object. -/
theorem TakesTexts.object
    (here : cursor.rest = 0x7b :: rest)
    (parsed : parseValue (depth + 1) cursor = .ok (value, after)) :
    ∃ text tree,
      Spells dialect text tree ∧ value = read tree ∧ cursor.rest = text ++ after.rest := by
  have opened : (cursor.skip 1).rest = rest := by simp [Cursor.skip, here]
  obtain ⟨space, blank, shape⟩ := skipWhitespace_blank (cursor.skip 1)
  rw [parseValue_object settled here] at parsed
  split at parsed
  · next closes =>
      cases parsed
      obtain ⟨behind, closed⟩ := List.head?_eq_some_iff.mp closes
      refine ⟨_, .object [], .emptyObject blank, rfl, ?_⟩
      rw [here, ← opened, shape, closed, Cursor.skip, closed]
      simp
  · obtain ⟨⟨found, closed⟩, loop, parsed⟩ := bind_eq_ok.mp parsed
    cases parsed
    obtain ⟨entries, nonempty, spaced, each, rfl, moved⟩ := takes.members loop
    obtain ⟨others, othersNonempty, othersSpaced, othersEach, trees, sources⟩ :=
      exists_entries_lead blank nonempty spaced each
    refine ⟨_, _, .object othersNonempty othersSpaced othersEach, ?_, ?_⟩
    · rw [trees, read_object, nil_append]
    · rw [here, ← opened, shape, moved, sources]
      simp

end

section

variable
    (takes : TakesTexts depth)

include takes

theorem TakesTexts.next_value
    (parsed : parseValue (depth + 1) start = .ok (value, after)) :
    ∃ lead text tree,
      Blank lead ∧ Spells dialect text tree ∧ value = read tree ∧
        start.rest = lead ++ (text ++ after.rest) := by
  obtain ⟨lead, blank, shape⟩ := skipWhitespace_blank start
  have settled := skipWhitespace_twice start
  have same : parseValue (depth + 1) (skipWhitespace start) =
      parseValue (depth + 1) start := by
    rw [parseValue, settled]
    conv_rhs => rw [parseValue]
  rw [← same] at parsed
  generalize skipWhitespace start = cursor at parsed settled shape
  suffices found : ∃ text tree, Spells dialect text tree ∧ value = read tree ∧
      cursor.rest = text ++ after.rest by
    obtain ⟨text, tree, spells, isRead, moved⟩ := found
    exact ⟨lead, text, tree, blank, spells, isRead, by rw [shape, moved]⟩
  have again := parsed
  rw [parseValue, settled] at parsed
  simp only at parsed
  split at parsed
  · cases parsed
  · next byte rest here =>
      split at parsed
      · next brace =>
          subst brace
          exact takes.object settled here again
      · split at parsed
        · next bracket =>
            subst bracket
            exact takes.array settled here again
        · split at parsed
          · obtain ⟨⟨text, closed⟩, literal, parsed⟩ := bind_eq_ok.mp parsed
            cases parsed
            obtain ⟨body, tokens, isBody, rfl, moved⟩ := parseString_ok literal
            refine ⟨_, .string tokens, .string isBody, rfl, ?_⟩
            rw [moved]
            simp
          · split at parsed
            · exact parseLiteral_ok parsed
            · split at parsed
              · next starts =>
                  obtain ⟨literal, scanned, number, moved⟩ :=
                    parseNumber_ok here (by simpa using starts)
                  have ends := Except.ok.inj parsed
                  refine ⟨literal, .number literal, .number scanned, ?_, ?_⟩
                  · exact (congrArg Prod.fst ends).symm.trans number
                  · rw [moved, congrArg Prod.snd ends]
              · cases parsed

theorem TakesTexts.next_elements
    {values found : List PromptJson}
    (parsed : parseElements (depth + 1) values start = .ok (found, after)) :
    ∃ elements : List Padded,
      elements ≠ [] ∧ (∀ element ∈ elements, element.Spaced) ∧
        (∀ element ∈ elements, Spells dialect element.text element.tree) ∧
        found = values ++ elements.map (fun element => read element.tree) ∧
        start.rest = separated (elements.map Padded.source) ++ 0x5d :: after.rest := by
  rw [parseElements] at parsed
  obtain ⟨⟨value, middle⟩, readValue, parsed⟩ := bind_eq_ok.mp parsed
  obtain ⟨lead, text, tree, leadBlank, spells, rfl, moved⟩ := takes.value readValue
  obtain ⟨trail, trailBlank, shape⟩ := skipWhitespace_blank middle
  simp only at parsed
  generalize skipWhitespace middle = next at parsed shape
  split at parsed
  · cases parsed
  · next byte rest here =>
      have behind : (next.skip 1).rest = rest := by simp [Cursor.skip, here]
      split at parsed
      · next comma =>
          subst comma
          obtain ⟨elements, nonempty, spaced, each, rfl, others⟩ :=
            takes.elements parsed
          obtain ⟨second, more, rfl⟩ := exists_cons_of_ne_nil nonempty
          refine ⟨⟨lead, text, trail, tree⟩ :: second :: more, by simp, ?_, ?_, ?_, ?_⟩
          · exact List.forall_mem_cons.mpr ⟨⟨leadBlank, trailBlank⟩, spaced⟩
          · exact List.forall_mem_cons.mpr ⟨spells, each⟩
          · simp
          · rw [moved, shape, here, ← behind, others]
            simp [separated, Padded.source]
      · split at parsed
        · next bracket =>
            subst bracket
            cases parsed
            refine ⟨[⟨lead, text, trail, tree⟩], by simp, ?_, ?_, rfl, ?_⟩
            · simpa using ⟨leadBlank, trailBlank⟩
            · simpa using spells
            · rw [moved, shape, here, behind]
              simp [separated, Padded.source]
        · cases parsed

theorem TakesTexts.next_members
    {values found : List (Bytes × PromptJson)}
    (parsed : parseMembers (depth + 1) values start = .ok (found, after)) :
    ∃ entries : List Entry,
      entries ≠ [] ∧ (∀ entry ∈ entries, entry.Spaced AnyByte) ∧
        (∀ entry ∈ entries, Spells dialect entry.padded.text entry.padded.tree) ∧
        found = values ++
          entries.map (fun entry => (promptText entry.key, read entry.padded.tree)) ∧
        start.rest = separated (entries.map Entry.source) ++ 0x7d :: after.rest := by
  obtain ⟨lead, leadBlank, leadShape⟩ := skipWhitespace_blank start
  rw [parseMembers] at parsed
  simp only at parsed
  generalize skipWhitespace start = cursor at parsed leadShape
  split at parsed
  · cases parsed
  · obtain ⟨⟨key, named⟩, readKey, parsed⟩ := bind_eq_ok.mp parsed
    obtain ⟨name, tokens, isBody, rfl, keyShape⟩ := parseString_ok readKey
    obtain ⟨gap, gapBlank, gapShape⟩ := skipWhitespace_blank named
    obtain ⟨valued, colon, parsed⟩ := bind_eq_ok.mp parsed
    have colonShape := expect_ok colon
    obtain ⟨⟨value, middle⟩, readValue, parsed⟩ := bind_eq_ok.mp parsed
    obtain ⟨pad, text, tree, padBlank, spells, rfl, moved⟩ := takes.value readValue
    obtain ⟨trail, trailBlank, shape⟩ := skipWhitespace_blank middle
    simp only at parsed
    generalize skipWhitespace middle = next at parsed shape
    have spaced : Entry.Spaced AnyByte ⟨lead, name, tokens, gap, ⟨pad, text, trail, tree⟩⟩ :=
      ⟨leadBlank, isBody, gapBlank, ⟨padBlank, trailBlank⟩⟩
    split at parsed
    · cases parsed
    · next byte rest here =>
        have behind : (next.skip 1).rest = rest := by simp [Cursor.skip, here]
        split at parsed
        · next comma =>
            subst comma
            obtain ⟨entries, nonempty, allSpaced, each, rfl, others⟩ :=
              takes.members parsed
            obtain ⟨second, more, rfl⟩ := exists_cons_of_ne_nil nonempty
            refine ⟨⟨lead, name, tokens, gap, ⟨pad, text, trail, tree⟩⟩ :: second :: more,
              by simp, ?_, ?_, ?_, ?_⟩
            · exact List.forall_mem_cons.mpr ⟨spaced, allSpaced⟩
            · exact List.forall_mem_cons.mpr ⟨spells, each⟩
            · simp
            · rw [leadShape, keyShape, gapShape, colonShape, moved, shape, here, ← behind,
                others]
              simp [separated, Entry.source, Padded.source]
        · split at parsed
          · next brace =>
              subst brace
              cases parsed
              refine ⟨[⟨lead, name, tokens, gap, ⟨pad, text, trail, tree⟩⟩], by simp,
                ?_, ?_, rfl, ?_⟩
              · simpa using spaced
              · simpa using spells
              · rw [leadShape, keyShape, gapShape, colonShape, moved, shape, here, behind]
                simp [separated, Entry.source, Padded.source]
          · cases parsed

end

/-- Whatever the codec returns, it read a text of the dialect. -/
theorem takesTexts
    (depth : Nat) :
    TakesTexts depth := by
  induction depth with
  | zero =>
    refine ⟨?_, ?_, ?_⟩
    · intro start after value parsed
      cases parsed
    · intro values start found after parsed
      cases parsed
    · intro values start found after parsed
      cases parsed
  | succ depth ih =>
    exact ⟨ih.next_value, ih.next_elements,
      ih.next_members⟩

theorem parse_iff
    {text : Bytes}
    {value : PromptJson} :
    parse text = .ok value ↔
      ∃ tree, Document dialect text tree ∧ value = read tree := by
  constructor
  · intro parsed
    unfold parse at parsed
    obtain ⟨⟨found, after⟩, readValue, parsed⟩ := bind_eq_ok.mp parsed
    obtain ⟨before, beforeBlank, beforeShape⟩ := skipWhitespace_blank { rest := text }
    obtain ⟨lead, body, tree, leadBlank, spells, rfl, moved⟩ :=
      (takesTexts _).value readValue
    obtain ⟨behind, behindBlank, behindShape⟩ := skipWhitespace_blank after
    simp only at parsed
    split at parsed
    · next ended =>
        cases parsed
        refine ⟨tree, ⟨before ++ lead, body, behind, beforeBlank.append leadBlank,
          behindBlank, spells, ?_⟩, rfl⟩
        rw [List.isEmpty_iff.mp ended, append_nil] at behindShape
        have whole := beforeShape
        rw [moved, behindShape] at whole
        simpa using whole
    · cases parsed
  · rintro ⟨tree, document, rfl⟩
    exact parse_document document

end Aeon.Text.PromptJson
