import Aeon.ChatRefusals

namespace Aeon.Server

open Aeon.Json (JsonValue)

/-!
# What the parser accepts

The checks of the parser, said of the members of the document.  A request leaves the
parser as an exception of another type exactly when they let a number through that is
not a signed 64-bit integer.
-/

/-! ## Messages -/

/-- The names `parse_role` knows. -/
def roleNames : List Bytes :=
  [bytes "system", bytes "developer", bytes "user", bytes "assistant", bytes "tool"]

/-- The member is a string. -/
def HasString
    (object : JsonValue)
    (key : String) : Prop :=
  ∃ text, object.find (bytes key) = some (.string text)

/-- A content part of type `text`. -/
structure PartAccepted (part : JsonValue) : Prop where
  type : part.find (bytes "type") = some (.string (bytes "text"))
  text : HasString part "text"

/-- A call of a function with arguments in a string. -/
def CallAccepted (call : JsonValue) : Prop :=
  ∃ members, call.find (bytes "function") = some (.object members) ∧
    HasString (.object members) "arguments"

/-- No content, a string, or parts of type `text`. -/
def ContentAccepted : Option JsonValue → Prop
  | none => True
  | some .null => True
  | some (.string _) => True
  | some (.array parts) => ∀ part ∈ parts, PartAccepted part
  | some _ => False

/-- No calls, or calls of functions. -/
def CallsAccepted : Option JsonValue → Prop
  | none => True
  | some (.array calls) => ∀ call ∈ calls, CallAccepted call
  | some _ => False

/-- A message the parser takes. -/
structure MessageAccepted (node : JsonValue) : Prop where
  role :
    ∃ name ∈ roleNames, node.find (bytes "role") = some (.string name)
  content : ContentAccepted (node.find (bytes "content"))
  answers :
    node.find (bytes "role") = some (.string (bytes "tool")) →
      ∃ id ≠ [], node.find (bytes "tool_call_id") = some (.string id)
  calls : CallsAccepted (present node "tool_calls")

/-- At least one message, and only such messages. -/
def MessagesAccepted (document : JsonValue) : Prop :=
  ∃ nodes, document.find (bytes "messages") = some (.array nodes) ∧ nodes ≠ [] ∧
    ∀ node ∈ nodes, MessageAccepted node

/-! ## Members -/

/-- The efforts the parser knows. -/
def effortNames : List Bytes :=
  [bytes "none", bytes "minimal", bytes "medium", bytes "low", bytes "high", bytes "max"]

/-- No effort, or one of the known ones. -/
def EffortAccepted (document : JsonValue) : Prop :=
  ∀ value, present document "reasoning_effort" = some value →
    ∃ effort ∈ effortNames, value = .string effort

/-- No member of this key, or a number. -/
def NumberAccepted
    (document : JsonValue)
    (key : String) : Prop :=
  ∀ value, present document key = some value → value.isNumber = true

/-- No member of this key, or a boolean. -/
def FlagAccepted
    (document : JsonValue)
    (key : String) : Prop :=
  ∀ value, present document key = some value → value.isBool = true

/-- No member of this key, or a positive integer. -/
def CapAccepted
    (platform : Platform)
    (document : JsonValue)
    (key : String) : Prop :=
  ∀ value, present document key = some value →
    ∃ cap, value.asInt64 platform.indefinite = .ok cap ∧ 0 < cap

/-- An integer `as_int64` takes. -/
structure IsInt64 (number : ℚ) : Prop where
  whole : number.den = 1
  lower : -(2 ^ 63) ≤ number
  upper : number ≤ 2 ^ 63

/-- A number under this key is a signed 64-bit integer. -/
def Integral
    (document : JsonValue)
    (key : String) : Prop :=
  ∀ number, present document key = some (.number number) → IsInt64 number

/-- A number the parser gets to as an integer is one of 64 bits. -/
def OnlyIntegers
    (platform : Platform)
    (document : JsonValue) : Prop :=
  MessagesAccepted document → EffortAccepted document →
    Integral document "max_tokens" ∧
      (CapAccepted platform document "max_tokens" →
        Integral document "max_completion_tokens" ∧
          (CapAccepted platform document "max_completion_tokens" →
            NumberAccepted document "temperature" → NumberAccepted document "top_p" →
              Integral document "seed" ∧
                (NumberAccepted document "seed" → FlagAccepted document "stream" →
                  Integral document "n")))

/-! ## Rules -/

/-- The attempt returns. -/
def Returns
    {Value : Type}
    (attempt : Parsing Value) : Prop :=
  ∃ value, attempt = .ok value

section Rules

variable {First Second : Type}

@[simp]
theorem returns_ok (value : First) : Returns (.ok value : Parsing First) :=
  ⟨value, rfl⟩

@[simp]
theorem returns_fail
    (status : Nat)
    (code : String)
    (message : Bytes) :
    ¬ Returns (fail status code message : Parsing First) := by
  rintro ⟨value, returned⟩
  cases returned

variable {step : Parsing First}
variable {next : First → Parsing Second}

/-- A sequence returns if its first step does and the rest does on its value. -/
theorem returns_bind
    {next : First → Parsing Second} :
    Returns (step >>= next) ↔ ∃ value, step = .ok value ∧ Returns (next value) := by
  cases step with
  | error thrown => simp [Returns]
  | ok value => simp [Returns]

/-- A requirement in front of a step is a condition on it. -/
theorem returns_require
    {condition : Bool}
    {message : String}
    {next : Unit → Parsing Second} :
    Returns (require condition message >>= next) ↔
      condition = true ∧ Returns (next ()) := by
  cases condition with
  | false =>
    refine iff_of_false ?_ fun both => by cases both.1
    rintro ⟨value, returned⟩
    cases returned
  | true => simp [require]

/-- A rest that does not depend on the value is a condition of its own. -/
theorem returns_then
    {rest : Prop}
    (same : ∀ value, Returns (next value) ↔ rest) :
    Returns (step >>= next) ↔ Returns step ∧ rest := by
  rw [returns_bind]
  constructor
  · rintro ⟨value, returned, returns⟩
    exact ⟨⟨value, returned⟩, (same value).mp returns⟩
  · rintro ⟨⟨value, returned⟩, holds⟩
    exact ⟨value, returned, (same value).mpr holds⟩

theorem returns_last
    (always : ∀ value, Returns (next value)) :
    Returns (step >>= next) ↔ Returns step := by
  rw [returns_then fun value => iff_of_true (always value) trivial, and_true]

/-- What a refusal behind a step needs: the step's own, and the rest if it returns. -/
theorem proper_then
    {rest : Prop}
    (same : ∀ value, Proper (next value) ↔ rest) :
    Proper (step >>= next) ↔ Proper step ∧ (Returns step → rest) := by
  rw [proper_bind]
  refine and_congr_right fun _ => ⟨?_, fun holds value returned => ?_⟩
  · rintro proper ⟨value, returned⟩
    exact (same value).mp (proper value returned)
  · exact (same value).mpr (holds ⟨value, returned⟩)

/-- A list is accepted item by item. -/
theorem returns_mapM
    {step : First → Parsing Second}
    {items : List First} :
    Returns (items.mapM step) ↔ ∀ item ∈ items, Returns (step item) := by
  induction items with
  | nil => exact iff_of_true (returns_ok []) nofun
  | cons item rest ih =>
    rw [List.mapM_cons, List.forall_mem_cons, ← ih]
    exact returns_then fun value => returns_last fun values => returns_ok _

end Rules

variable {value : Option JsonValue}

theorem returns_requireString
    {message : String} :
    Returns (requireString value message) ↔ ∃ text, value = some (.string text) := by
  cases value with
  | none => exact iff_of_false (returns_fail _ _ _) nofun
  | some text =>
    rw [requireString, returns_require]
    cases text <;> simp [JsonValue.isString, JsonValue.asString, access, Returns]

/-- A required string is read as it stands. -/
theorem requireString_ok
    {message : String}
    {text : Bytes} :
    requireString value message = .ok text ↔ value = some (.string text) := by
  cases value with
  | none => exact iff_of_false nofun nofun
  | some given =>
    cases given <;> simp [requireString, require, fail, JsonValue.isString,
      JsonValue.asString, access]

theorem returns_stringOr (value : Option JsonValue) : Returns (stringOr value) := by
  cases value with
  | none => exact returns_ok []
  | some text => cases text <;> exact returns_ok _

theorem isObject_find
    {value member : JsonValue}
    {key : Bytes}
    (found : value.find key = some member) :
    value.isObject = true := by
  cases value with
  | object => rfl
  | null | bool | number | string | array => cases found

/-! ## Messages -/

/-- The five names of a role, and no other. -/
theorem returns_parseRole {role : Bytes} :
    Returns (parseRole role) ↔ role ∈ roleNames := by
  simp only [roleNames, List.mem_cons, List.not_mem_nil, or_false]
  unfold parseRole
  repeat' split
  all_goals simp_all

theorem parseRole_tool {role : Bytes} :
    parseRole role = .ok .tool ↔ role = bytes "tool" := by
  unfold parseRole
  repeat' split
  all_goals try subst role
  · exact iff_of_false nofun (by decide)
  · exact iff_of_false nofun (by decide)
  · exact iff_of_false nofun (by decide)
  · exact iff_of_false nofun (by decide)
  · exact iff_of_true rfl rfl
  · next other => exact iff_of_false nofun other

/-- A part is accepted if it is a text. -/
theorem returns_parsePart {part : JsonValue} :
    Returns (parsePart part) ↔ PartAccepted part := by
  rw [parsePart, returns_require, returns_bind]
  constructor
  · rintro ⟨-, type, isType, returns⟩
    rw [requireString_ok] at isType
    split at returns
    · exact absurd returns (returns_fail _ _ _)
    · next isText =>
        rw [not_not] at isText
        subst isText
        exact ⟨isType, returns_requireString.mp returns⟩
  · rintro ⟨isType, text⟩
    refine ⟨isObject_find isType, bytes "text", requireString_ok.mpr isType, ?_⟩
    rw [if_neg (by simp)]
    exact returns_requireString.mpr text

/-- A content is a string, null, absent, or a list of accepted parts. -/
theorem returns_parseContent {message : JsonValue} :
    Returns (parseContent message) ↔
      ContentAccepted (message.find (bytes "content")) := by
  unfold parseContent
  split
  · next absent =>
      rw [absent]
      exact iff_of_true (returns_ok []) trivial
  · next content found =>
      rw [found]
      cases content with
      | null => exact iff_of_true (returns_ok []) trivial
      | string text => exact iff_of_true (returns_ok text) trivial
      | array parts =>
        have listed : Returns (parts.mapM parsePart >>= fun texts => .ok texts.flatten) ↔
            ContentAccepted (some (.array parts)) := by
          rw [returns_last fun texts => returns_ok _, returns_mapM]
          exact forall₂_congr fun part _ => returns_parsePart
        exact listed
      | bool | number | object => exact iff_of_false (returns_fail _ _ _) id

theorem returns_parseToolCall {call : JsonValue} :
    Returns (parseToolCall call) ↔ CallAccepted call := by
  rw [parseToolCall, returns_require, returns_bind]
  constructor
  · rintro ⟨-, id, -, returns⟩
    obtain ⟨function, isFunction, returns⟩ := returns_bind.mp returns
    obtain ⟨name, -, returns⟩ := returns_bind.mp returns
    obtain ⟨arguments, isArguments, -⟩ := returns_bind.mp returns
    rw [requireString_ok] at isArguments
    cases found : call.find (bytes "function") with
    | none =>
      rw [found] at isFunction
      cases isFunction
    | some object =>
      rw [found] at isFunction
      cases object with
      | object members =>
        cases isFunction
        exact ⟨members, found, arguments, isArguments⟩
      | null | bool | number | string | array => cases isFunction
  · rintro ⟨members, found, arguments, isArguments⟩
    obtain ⟨id, isId⟩ := returns_stringOr (call.find (bytes "id"))
    obtain ⟨name, isName⟩ := returns_stringOr ((JsonValue.object members).find
      (bytes "name"))
    refine ⟨isObject_find found, id, isId, returns_bind.mpr ⟨.object members, ?_,
      returns_bind.mpr ⟨name, isName, returns_bind.mpr ⟨arguments,
        requireString_ok.mpr isArguments, returns_ok _⟩⟩⟩⟩
    rw [found]
    rfl

/-- The calls of a message are accepted one by one. -/
theorem returns_parseToolCalls {message : JsonValue} :
    Returns (parseToolCalls message) ↔ CallsAccepted (present message "tool_calls") := by
  unfold parseToolCalls
  split
  · next absent =>
      rw [absent]
      exact iff_of_true (returns_ok []) trivial
  · next calls found =>
      rw [found, returns_require]
      cases calls with
      | array listed =>
        have each : Returns (listed.mapM parseToolCall) ↔
            CallsAccepted (some (.array listed)) := by
          rw [returns_mapM]
          exact forall₂_congr fun call _ => returns_parseToolCall
        exact (and_iff_right rfl).trans each
      | null | bool | number | string | object =>
        exact iff_of_false (fun both => by cases both.1) id

theorem stringOr_nonempty
    {text : Bytes}
    (read : stringOr value = .ok text) :
    text ≠ [] ↔ ∃ given ≠ [], value = some (.string given) := by
  cases value with
  | none =>
    cases read
    exact iff_of_false (absurd rfl) nofun
  | some given =>
    cases given with
    | string given =>
      cases read
      constructor
      · exact fun nonempty => ⟨_, nonempty, rfl⟩
      · rintro ⟨other, nonempty, same⟩
        cases same
        exact nonempty
    | null | bool | number | array | object =>
      cases read
      exact iff_of_false (absurd rfl) nofun

/-- The messages `parse_message` accepts. -/
theorem returns_parseMessage {node : JsonValue} :
    Returns (parseMessage node) ↔ MessageAccepted node := by
  obtain ⟨reasoning, isReasoning⟩ :=
    returns_stringOr (node.find (bytes "reasoning_content"))
  obtain ⟨toolCallId, isId⟩ := returns_stringOr (node.find (bytes "tool_call_id"))
  have named := stringOr_nonempty isId
  rw [parseMessage, returns_require, isReasoning, isId]
  simp only [ok_bind]
  constructor
  · rintro ⟨-, returns⟩
    obtain ⟨name, isName, returns⟩ := returns_bind.mp returns
    obtain ⟨role, isRole, returns⟩ := returns_bind.mp returns
    obtain ⟨content, isContent, returns⟩ := returns_bind.mp returns
    rw [requireString_ok] at isName
    split at returns
    · exact absurd returns (returns_fail _ _ _)
    · next answered =>
        obtain ⟨calls, isCalls, -⟩ := returns_bind.mp returns
        refine ⟨⟨name, returns_parseRole.mp ⟨role, isRole⟩, isName⟩,
          returns_parseContent.mp ⟨content, isContent⟩, fun isTool => ?_,
          returns_parseToolCalls.mp ⟨calls, isCalls⟩⟩
        obtain rfl : name = bytes "tool" := by
          rw [isName] at isTool
          cases isTool
          rfl
        obtain rfl : role = .tool := by
          rw [parseRole_tool.mpr rfl] at isRole
          cases isRole
          rfl
        exact named.mp fun empty => answered ⟨rfl, empty⟩
  · intro accepted
    obtain ⟨name, isName, found⟩ := accepted.role
    obtain ⟨role, isRole⟩ := returns_parseRole.mpr isName
    obtain ⟨content, isContent⟩ := returns_parseContent.mpr accepted.content
    obtain ⟨calls, isCalls⟩ := returns_parseToolCalls.mpr accepted.calls
    refine ⟨isObject_find found, returns_bind.mpr ⟨name, requireString_ok.mpr found,
      returns_bind.mpr ⟨role, isRole, returns_bind.mpr ⟨content, isContent, ?_⟩⟩⟩⟩
    have answered : ¬ (role = .tool ∧ toolCallId = []) := by
      rintro ⟨rfl, empty⟩
      rw [parseRole_tool.mp isRole] at found
      exact named.mpr (accepted.answers found) empty
    rw [if_neg answered]
    exact returns_bind.mpr ⟨calls, isCalls, returns_ok _⟩

/-- The conversations `parse_messages` accepts. -/
theorem returns_parseMessages {document : JsonValue} :
    Returns (parseMessages document) ↔ MessagesAccepted document := by
  unfold parseMessages MessagesAccepted
  split
  · next absent => exact iff_of_false (returns_fail _ _ _) (by simp [absent])
  · next messages found =>
      rw [found, returns_require]
      cases messages with
      | array nodes =>
        have each : Returns (require (!nodes.isEmpty)
              "`messages` must be a non-empty array" >>= fun _ =>
                nodes.mapM parseMessage) ↔
            nodes ≠ [] ∧ ∀ node ∈ nodes, MessageAccepted node := by
          rw [returns_require, returns_mapM]
          refine and_congr ?_ (forall₂_congr fun node _ => returns_parseMessage)
          cases nodes <;> simp
        refine ((and_iff_right rfl).trans each).trans ?_
        constructor
        · exact fun all => ⟨nodes, rfl, all⟩
        · rintro ⟨others, ⟨⟩, all⟩
          exact all
      | null | bool | number | string | object =>
        exact iff_of_false (fun both => by cases both.1) (by simp)

end Aeon.Server
