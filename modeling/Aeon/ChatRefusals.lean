import Aeon.ChatRequest

namespace Aeon.Server

open Aeon.Json (JsonValue)

/-!
# Bad requests

Every check of the parser refuses with a status of the 400s, and every accessor behind a
check returns.  The one exception of another type comes from `as_int64`, whose caller
checked for a number and not for an integer.
-/

/-- A refusal that is reported to the client as its own error. -/
def RequestError.Refuses : RequestError → Prop
  | .codec error => 400 ≤ error.httpStatus ∧ error.httpStatus < 500
  | .runtime _ => False

/-- Whatever is thrown is a refusal. -/
def Proper
    {Value : Type}
    (attempt : Parsing Value) : Prop :=
  ∀ thrown, attempt = .error thrown → thrown.Refuses

section Rules

variable {First Second : Type}

@[simp]
theorem proper_ok (value : First) : Proper (.ok value : Parsing First) :=
  nofun

/-- A refusal with status 400 is a proper one. -/
@[simp]
theorem proper_fail
    (code : String)
    (message : Bytes) :
    Proper (fail 400 code message : Parsing First) := by
  rintro thrown ⟨⟩
  exact ⟨le_refl 400, show 400 < 500 by decide⟩

@[simp]
theorem proper_require
    (condition : Bool)
    (message : String) :
    Proper (require condition message) := by
  unfold require
  split
  · exact proper_ok ()
  · exact proper_fail _ _

/-- A runtime error is not. -/
@[simp]
theorem proper_runtime (what : Bytes) :
    ¬ Proper (.error (.runtime what) : Parsing First) :=
  fun proper => proper _ rfl

/-- A sequence refuses properly if each step it reaches does. -/
theorem proper_bind
    {step : Parsing First}
    {next : First → Parsing Second} :
    Proper (step >>= next) ↔
      Proper step ∧ ∀ value, step = .ok value → Proper (next value) := by
  cases step with
  | error thrown =>
    refine ⟨fun proper => ⟨?_, nofun⟩, fun proper => ?_⟩
    · rintro other ⟨⟩
      exact proper _ rfl
    · rintro other ⟨⟩
      exact proper.1 _ rfl
  | ok value => simp

theorem Proper.bind
    {step : Parsing First}
    {next : First → Parsing Second}
    (proper : Proper step)
    (rest : ∀ value, Proper (next value)) :
    Proper (step >>= next) :=
  proper_bind.mpr ⟨proper, fun value _ => rest value⟩

/-- Behind a requirement only what meets it matters. -/
theorem require_bind
    {condition : Bool}
    {message : String}
    {next : Unit → Parsing Second} :
    Proper (require condition message >>= next) ↔
      (condition = true → Proper (next ())) := by
  rw [proper_bind]
  constructor
  · rintro ⟨-, rest⟩ holds
    exact rest () (by rw [require, if_pos holds])
  · refine fun rest => ⟨proper_require condition message, fun _ returned => ?_⟩
    cases condition with
    | false => cases returned
    | true => exact rest rfl

/-- A list refuses properly if each of its items does. -/
theorem proper_mapM
    {step : First → Parsing Second}
    (proper : ∀ item, Proper (step item))
    (items : List First) :
    Proper (items.mapM step) := by
  induction items with
  | nil => exact proper_ok []
  | cons item rest ih =>
    rw [List.mapM_cons]
    exact (proper item).bind fun _ => ih.bind fun _ => proper_ok _

end Rules

/-! ## Members -/

theorem proper_requireString
    (value : Option JsonValue)
    (message : String) :
    Proper (requireString value message) := by
  cases value with
  | none => exact proper_fail _ _
  | some text =>
    refine require_bind.mpr fun isString => ?_
    cases text with
    | string text => exact proper_ok text
    | null | bool | number | array | object => cases isString

theorem proper_requireObject
    (value : Option JsonValue)
    (message : String) :
    Proper (requireObject value message) := by
  cases value with
  | none => exact proper_fail _ _
  | some object => exact require_bind.mpr fun _ => proper_ok object

theorem proper_stringOr (value : Option JsonValue) :
    Proper (stringOr value) := by
  cases value with
  | none => exact proper_ok []
  | some text => cases text <;> exact proper_ok _

/-! ## Messages -/

theorem proper_parseRole (role : Bytes) : Proper (parseRole role) := by
  unfold parseRole
  repeat' split
  all_goals simp

theorem proper_parsePart (part : JsonValue) : Proper (parsePart part) := by
  refine require_bind.mpr fun _ => (proper_requireString _ _).bind fun type => ?_
  split
  · exact proper_fail _ _
  · exact proper_requireString _ _

/-- Whatever a content is, its refusal is a proper one. -/
theorem proper_parseContent (message : JsonValue) : Proper (parseContent message) := by
  unfold parseContent
  split
  · exact proper_ok []
  · next content _ =>
      cases content with
      | null => exact proper_ok []
      | string text => exact proper_ok text
      | array parts => exact (proper_mapM proper_parsePart parts).bind fun _ => proper_ok _
      | bool | number | object => exact proper_fail _ _

theorem proper_parseToolCall (call : JsonValue) : Proper (parseToolCall call) :=
  require_bind.mpr fun _ => (proper_stringOr _).bind fun _ =>
    (proper_requireObject _ _).bind fun _ => (proper_stringOr _).bind fun _ =>
      (proper_requireString _ _).bind fun _ => proper_ok _

theorem proper_parseToolCalls (message : JsonValue) :
    Proper (parseToolCalls message) := by
  unfold parseToolCalls
  split
  · exact proper_ok []
  · next calls _ =>
      refine require_bind.mpr fun isArray => ?_
      cases calls with
      | array listed => exact proper_mapM proper_parseToolCall listed
      | null | bool | number | string | object => cases isArray

/-- And so is that of a message, -/
theorem proper_parseMessage (node : JsonValue) : Proper (parseMessage node) := by
  refine require_bind.mpr fun _ => (proper_requireString _ _).bind fun name =>
    (proper_parseRole name).bind fun role => (proper_parseContent node).bind fun _ =>
      (proper_stringOr _).bind fun _ => (proper_stringOr _).bind fun _ => ?_
  split
  · exact proper_fail _ _
  · exact (proper_parseToolCalls node).bind fun _ => proper_ok _

/-- of a conversation, -/
theorem proper_parseMessages (document : JsonValue) :
    Proper (parseMessages document) := by
  unfold parseMessages
  split
  · exact proper_fail _ _
  · next messages _ =>
      refine require_bind.mpr fun isArray => ?_
      cases messages with
      | array nodes =>
        exact require_bind.mpr fun _ => proper_mapM proper_parseMessage nodes
      | null | bool | number | string | object => cases isArray

/-! ## Thinking -/

theorem proper_readToggle (value : Option JsonValue) : Proper (readToggle value) := by
  cases value with
  | none => exact proper_ok none
  | some toggle =>
    cases toggle with
    | object members =>
      refine (proper_stringOr _).bind fun type => ?_
      split
      · exact proper_ok _
      · split <;> exact proper_ok _
    | null | bool | number | string | array => exact proper_ok _

theorem proper_readToggles
    (object : JsonValue)
    (keys : List String)
    (thinking : Bool) :
    Proper (readToggles object keys thinking) := by
  induction keys generalizing thinking with
  | nil => exact proper_ok thinking
  | cons key keys ih =>
    exact (proper_readToggle _).bind fun _ => ih _

/-- of the thinking toggles, -/
theorem proper_parseThinking (document : JsonValue) :
    Proper (parseThinking document) := by
  refine Proper.bind ?_ fun _ => proper_readToggles _ _ _
  unfold templateThinking
  split
  · exact proper_ok false
  · split
    · exact proper_readToggles _ _ _
    · exact proper_ok false

/-- of the reasoning effort, -/
theorem proper_parseEffort
    (document : JsonValue)
    (thinking : Bool) :
    Proper (parseEffort document thinking) := by
  unfold parseEffort
  split
  · exact proper_ok _
  · next value _ =>
      refine require_bind.mpr fun isString => ?_
      cases value with
      | string effort =>
        simp only [JsonValue.asString, access, ok_bind]
        repeat' split
        all_goals simp
      | null | bool | number | array | object => cases isString

/-! ## Numbers and flags -/

theorem proper_parseReal
    (document : JsonValue)
    (key : String) :
    Proper (parseReal document key) := by
  unfold parseReal
  split
  · exact proper_ok none
  · next value _ =>
      refine require_bind.mpr fun isNumber => ?_
      cases value with
      | number number => exact proper_ok _
      | null | bool | string | array | object => cases isNumber

theorem proper_parseStream (document : JsonValue) : Proper (parseStream document) := by
  unfold parseStream
  split
  · exact proper_ok false
  · next value _ =>
      refine require_bind.mpr fun isBool => ?_
      cases value with
      | bool value => exact proper_ok value
      | null | number | string | array | object => cases isBool

theorem proper_parseIncludeUsage (document : JsonValue) :
    Proper (parseIncludeUsage document) := by
  unfold parseIncludeUsage
  split
  · exact proper_ok false
  · split
    · split
      · exact proper_ok false
      · next usage _ => cases usage <;> exact proper_ok _
    · exact proper_ok false

/-! ## What is not honoured -/

theorem proper_isEmptyValue (value : Option JsonValue) :
    Proper (isEmptyValue value) := by
  cases value with
  | none => exact proper_ok true
  | some given => cases given <;> exact proper_ok _

/-- and of the members that have to be empty. -/
theorem proper_checkEmpty
    (document : JsonValue)
    (keys : List String) :
    Proper (checkEmpty document keys) := by
  induction keys with
  | nil => exact proper_ok ()
  | cons key keys ih =>
    refine (proper_isEmptyValue _).bind fun empty => ?_
    split
    · exact ih
    · exact proper_fail _ _

theorem proper_checkLogprobs (document : JsonValue) :
    Proper (checkLogprobs document) := by
  unfold checkLogprobs
  split
  · exact proper_ok ()
  · next value _ =>
      refine Proper.bind ?_ fun active => ?_
      · cases value <;> exact proper_ok _
      · split
        · exact proper_fail _ _
        · exact proper_ok ()

theorem proper_checkPenalties
    (document : JsonValue)
    (keys : List String) :
    Proper (checkPenalties document keys) := by
  induction keys with
  | nil => exact proper_ok ()
  | cons key keys ih =>
    unfold checkPenalties
    split
    · exact ih
    · next value _ =>
        refine require_bind.mpr fun isNumber => ?_
        cases value with
        | number number =>
          simp only [JsonValue.asNumber, access, ok_bind]
          split
          · exact proper_fail _ _
          · exact ih
        | null | bool | string | array | object => cases isNumber

end Aeon.Server
