import Aeon.ChatAcceptance

namespace Aeon.Server

open Aeon.Json (JsonValue)

/-!
# Which requests escape as another exception

A request escapes with the exception of `as_int64` if and only if the parser gets to a
number that is not a signed 64-bit integer, under one of the four keys whose value it
converts.
-/

/-! ## Integers -/

/-- `as_int64` takes the integers of 64 bits, and `2^63`. -/
theorem returns_asInt64
    (indefinite : Int)
    (number : ℚ) :
    Returns (access ((JsonValue.number number).asInt64 indefinite)) ↔ IsInt64 number := by
  simp only [JsonValue.asInt64, JsonValue.asNumber, ok_bind]
  split
  · next refused =>
      refine iff_of_false (fun returns => by cases returns.choose_spec) fun integer => ?_
      rcases refused with fractional | low | high
      · exact fractional integer.whole
      · exact absurd integer.lower (not_le.mpr low)
      · exact absurd integer.upper (not_le.mpr high)
  · next accepted =>
      rw [not_or, not_or, not_not, not_lt, not_lt] at accepted
      refine iff_of_true ?_ ⟨accepted.1, accepted.2.1, accepted.2.2⟩
      split <;> exact returns_ok _

/-- What an accessor throws is no refusal. -/
theorem proper_access
    {Value : Type}
    {attempt : Except Bytes Value} :
    Proper (access attempt) ↔ Returns (access attempt) := by
  cases attempt with
  | error what =>
    exact iff_of_false (proper_runtime what) fun returns => by cases returns.choose_spec
  | ok value => exact iff_of_true (proper_ok value) (returns_ok value)

section Converted

variable
    {platform : Platform}
    {document : JsonValue}
    {key : String}

theorem proper_converted
    {Value : Type}
    {value : JsonValue}
    {message : String}
    {next : Int → Parsing Value}
    (proper : ∀ integer, Proper (next integer)) :
    Proper (require value.isNumber message >>= fun _ =>
        access (value.asInt64 platform.indefinite) >>= next) ↔
      ∀ number, value = .number number → IsInt64 number := by
  rw [require_bind]
  cases value with
  | number number =>
    rw [proper_then fun integer => iff_of_true (proper integer) trivial, proper_access,
      returns_asInt64]
    constructor
    · rintro ready other ⟨⟩
      exact (ready rfl).1
    · exact fun integer _ => ⟨integer number rfl, fun _ => trivial⟩
  | null | bool | string | array | object => exact iff_of_true nofun nofun

/-- A number member must fit into 64 bits. -/
theorem integral_iff
    {value : JsonValue}
    (found : present document key = some value) :
    Integral document key ↔ ∀ number, value = .number number → IsInt64 number := by
  unfold Integral
  rw [found]
  simp only [Option.some.injEq]

theorem integral_absent
    (absent : present document key = none) :
    Integral document key := by
  intro number found
  rw [absent] at found
  cases found

/-- A token cap refuses properly exactly if it fits, -/
theorem proper_tokenCap (before : Option Nat) :
    Proper (tokenCap platform document key before) ↔ Integral document key := by
  unfold tokenCap
  split
  · next absent => exact iff_of_true (proper_ok before) (integral_absent absent)
  · next value found =>
      rw [integral_iff found]
      exact proper_converted fun cap => require_bind.mpr fun _ => proper_ok _

/-- the seed too, -/
theorem proper_parseSeed :
    Proper (parseSeed platform document) ↔ Integral document "seed" := by
  unfold parseSeed
  split
  · next absent => exact iff_of_true (proper_ok _) (integral_absent absent)
  · next value found =>
      rw [integral_iff found]
      exact proper_converted fun seed => proper_ok _

/-- and the count of choices. -/
theorem proper_checkCount :
    Proper (checkCount platform document) ↔ Integral document "n" := by
  unfold checkCount
  split
  · next absent => exact iff_of_true (proper_ok ()) (integral_absent absent)
  · next value found =>
      rw [integral_iff found]
      exact proper_converted fun count => proper_require _ _

/-- The token caps that are accepted. -/
theorem returns_tokenCap (before : Option Nat) :
    Returns (tokenCap platform document key before) ↔
      CapAccepted platform document key := by
  unfold tokenCap CapAccepted
  split
  · next absent => exact iff_of_true (returns_ok before) (by simp [absent])
  · next value found =>
      rw [returns_require, returns_bind, found]
      simp only [Option.some.injEq, forall_eq']
      constructor
      · rintro ⟨-, cap, isCap, returns⟩
        refine ⟨cap, ?_, ?_⟩
        · cases converted : value.asInt64 platform.indefinite with
          | error what =>
            rw [converted] at isCap
            cases isCap
          | ok integer =>
            rw [converted] at isCap
            cases isCap
            rfl
        · exact of_decide_eq_true (returns_require.mp returns).1
      · rintro ⟨cap, isCap, positive⟩
        refine ⟨?_, cap, by rw [isCap]; rfl,
          returns_require.mpr ⟨decide_eq_true positive, returns_ok _⟩⟩
        cases value with
        | number => rfl
        | null | bool | string | array | object => cases isCap

/-- The seeds that are accepted. -/
theorem returns_parseSeed :
    Returns (parseSeed platform document) ↔
      NumberAccepted document "seed" ∧ Integral document "seed" := by
  unfold parseSeed NumberAccepted
  split
  · next absent =>
      exact iff_of_true (returns_ok _) ⟨by simp [absent], integral_absent absent⟩
  · next value found =>
      rw [returns_require, integral_iff found, found]
      simp only [Option.some.injEq, forall_eq']
      refine and_congr_right fun isNumber => ?_
      rw [returns_last fun seed => returns_ok _]
      cases value with
      | number number =>
        rw [returns_asInt64]
        exact ⟨fun integer other same => by cases same; exact integer,
          fun integer => integer number rfl⟩
      | null | bool | string | array | object => cases isNumber

theorem returns_parseReal :
    Returns (parseReal document key) ↔ NumberAccepted document key := by
  unfold parseReal NumberAccepted
  split
  · next absent => exact iff_of_true (returns_ok none) (by simp [absent])
  · next value found =>
      rw [returns_require, found]
      simp only [Option.some.injEq, forall_eq']
      refine and_iff_left_of_imp fun isNumber => ?_
      cases value with
      | number number => exact returns_ok _
      | null | bool | string | array | object => cases isNumber

theorem returns_parseStream :
    Returns (parseStream document) ↔ FlagAccepted document "stream" := by
  unfold parseStream FlagAccepted
  split
  · next absent => exact iff_of_true (returns_ok false) (by simp [absent])
  · next value found =>
      rw [returns_require, found]
      simp only [Option.some.injEq, forall_eq']
      refine and_iff_left_of_imp fun isBool => ?_
      cases value with
      | bool value => exact returns_ok value
      | null | number | string | array | object => cases isBool

theorem returns_parseEffort (thinking : Bool) :
    Returns (parseEffort document thinking) ↔ EffortAccepted document := by
  unfold parseEffort EffortAccepted
  split
  · next absent => exact iff_of_true (returns_ok _) (by simp [absent])
  · next value found =>
      rw [returns_require, found]
      simp only [Option.some.injEq, forall_eq']
      cases value with
      | string effort =>
        have named : (∃ known ∈ effortNames, JsonValue.string effort = .string known) ↔
            effort ∈ effortNames := by simp
        refine (and_iff_right rfl).trans (Iff.trans ?_ named.symm)
        simp only [JsonValue.asString, access, ok_bind, effortNames, List.mem_cons,
          List.not_mem_nil, or_false]
        split
        · next off => exact iff_of_true (returns_ok _) (Or.inl off)
        · next on =>
            split
            · next low => exact iff_of_true (returns_ok _) (by tauto)
            · next other =>
                split
                · next known => exact iff_of_true (returns_ok _) (by tauto)
                · next unknown => exact iff_of_false (returns_fail _ _ _) (by tauto)
      | null | bool | number | array | object =>
        exact iff_of_false (fun both => by cases both.1) (by simp)

end Converted

/-! ## Thinking -/

theorem returns_readToggle (value : Option JsonValue) : Returns (readToggle value) := by
  cases value with
  | none => exact returns_ok none
  | some toggle =>
    cases toggle with
    | object members =>
      refine (returns_last fun type => ?_).mpr (returns_stringOr _)
      split
      · exact returns_ok _
      · split <;> exact returns_ok _
    | null | bool | number | string | array => exact returns_ok _

theorem returns_readToggles
    (object : JsonValue)
    (keys : List String)
    (thinking : Bool) :
    Returns (readToggles object keys thinking) := by
  induction keys generalizing thinking with
  | nil => exact returns_ok thinking
  | cons key keys ih =>
    exact (returns_last fun _ => ih _).mpr (returns_readToggle _)

/-- The thinking toggles never refuse. -/
theorem returns_parseThinking (document : JsonValue) :
    Returns (parseThinking document) := by
  refine (returns_last fun _ => returns_readToggles _ _ _).mpr ?_
  unfold templateThinking
  split
  · exact returns_ok false
  · split
    · exact returns_readToggles _ _ _
    · exact returns_ok false

theorem returns_parseIncludeUsage (document : JsonValue) :
    Returns (parseIncludeUsage document) := by
  unfold parseIncludeUsage
  split
  · exact returns_ok false
  · split
    · split
      · exact returns_ok false
      · next usage _ => cases usage <;> exact returns_ok _
    · exact returns_ok false

/-! ## Requests -/

/-- Whatever the parser throws is a `CodecError` of the client's own. -/
def RefusesProperly
    (platform : Platform)
    (body : Bytes) : Prop :=
  ∀ thrown, parseChatRequest platform body = .error thrown →
    ∃ error, thrown = .codec error ∧ 400 ≤ error.httpStatus ∧ error.httpStatus < 500

theorem refusesProperly_iff_proper
    (platform : Platform)
    (body : Bytes) :
    RefusesProperly platform body ↔ Proper (parseChatRequest platform body) := by
  refine forall₂_congr fun thrown _ => ?_
  cases thrown with
  | codec error =>
    constructor
    · rintro ⟨other, ⟨⟩, range⟩
      exact range
    · exact fun range => ⟨error, rfl, range⟩
  | runtime what => exact iff_of_false nofun id

section Chains

variable
    {First Second : Type}
    {step : Parsing First}
    {next : First → Parsing Second}
    {proper returns rest : Prop}

/-- A step in front adds its own condition. -/
theorem proper_chain
    (isProper : Proper step ↔ proper)
    (isReturned : Returns step ↔ returns)
    (same : ∀ value, Proper (next value) ↔ rest) :
    Proper (step >>= next) ↔ proper ∧ (returns → rest) := by
  rw [proper_then same, isProper, isReturned]

theorem proper_checked
    (isProper : Proper step)
    (isReturned : Returns step ↔ returns)
    (same : ∀ value, Proper (next value) ↔ rest) :
    Proper (step >>= next) ↔ (returns → rest) := by
  rw [proper_then same, isReturned, and_iff_right isProper]

theorem proper_last
    (always : ∀ value, Proper (next value)) :
    Proper (step >>= next) ↔ Proper step := by
  rw [proper_bind]
  exact and_iff_left fun value _ => always value

end Chains

theorem parseDocument_ok
    {body : Bytes}
    {document : JsonValue} :
    parseDocument body = .ok document ↔ Json.parse body = .ok document := by
  unfold parseDocument
  split
  · next parsed => rw [parsed, Except.ok.injEq, Except.ok.injEq]
  · next refused => exact iff_of_false nofun (by rw [refused]; nofun)

theorem proper_parseDocument (body : Bytes) : Proper (parseDocument body) := by
  unfold parseDocument
  split
  · exact proper_ok _
  · exact proper_fail _ _

/--
The parser refuses properly if and only if it gets to no number under a converted key
that is not a signed 64-bit integer.
-/
theorem refusesProperly_iff
    (platform : Platform)
    (body : Bytes) :
    RefusesProperly platform body ↔
      ∀ document, Json.parse body = .ok document → OnlyIntegers platform document := by
  rw [refusesProperly_iff_proper, parseChatRequest, proper_bind,
    and_iff_right (proper_parseDocument body)]
  refine forall_congr' fun document => ?_
  rw [parseDocument_ok]
  refine imp_congr_right fun _ => ?_
  rw [require_bind]
  refine Iff.trans (imp_congr_right fun _ =>
    proper_checked (proper_parseMessages document) returns_parseMessages fun messages =>
    proper_checked (proper_parseThinking document)
      (iff_of_true (returns_parseThinking document) trivial) fun toggled =>
    proper_checked (proper_parseEffort document toggled) (returns_parseEffort toggled)
      fun thinking =>
    proper_chain (proper_tokenCap none) (returns_tokenCap none) fun cap =>
    proper_chain (proper_tokenCap cap) (returns_tokenCap cap) fun maxNewTokens =>
    proper_checked (proper_parseReal document "temperature") returns_parseReal
      fun temperature =>
    proper_checked (proper_parseReal document "top_p") returns_parseReal fun topP =>
    proper_chain proper_parseSeed returns_parseSeed fun seed =>
    proper_checked (proper_parseStream document) returns_parseStream fun stream =>
    proper_checked (proper_parseIncludeUsage document)
      (iff_of_true (returns_parseIncludeUsage document) trivial) fun includeUsage =>
    (proper_last fun _ => (proper_checkEmpty document _).bind fun _ =>
      (proper_checkLogprobs document).bind fun _ =>
        (proper_checkPenalties document _).bind fun _ => proper_ok _).trans
      proper_checkCount) ?_
  have isObject : MessagesAccepted document → document.isObject = true := by
    rintro ⟨nodes, found, -⟩
    exact isObject_find found
  constructor
  · intro chain messages effort
    obtain ⟨first, rest⟩ := chain (isObject messages) messages trivial effort
    refine ⟨first, fun cap => ?_⟩
    obtain ⟨second, rest⟩ := rest cap
    refine ⟨second, fun completion temperature topP => ?_⟩
    obtain ⟨third, rest⟩ := rest completion temperature topP
    exact ⟨third, fun seed stream => rest ⟨seed, third⟩ stream trivial⟩
  · intro only _ messages _ effort
    obtain ⟨first, rest⟩ := only messages effort
    refine ⟨first, fun cap => ?_⟩
    obtain ⟨second, rest⟩ := rest cap
    refine ⟨second, fun completion temperature topP => ?_⟩
    obtain ⟨third, rest⟩ := rest completion temperature topP
    exact ⟨third, fun seed stream _ => rest seed.1 stream⟩

/-- The platform of the samples: the cast is what the processor makes of it. -/
def samplePlatform : Platform where
  indefinite := -(2 ^ 63)
  drawnSeed := 0
  checkSampling := fun _ _ => .accepted

/-- A fractional `n` is no client error. -/
theorem refusesProperly_fails :
    parseChatRequest samplePlatform
        (bytes "\x7b\"messages\":[\x7b\"role\":\"user\"\x7d],\"n\":1.5\x7d") =
      .error (.runtime (bytes "JSON number is not a signed 64-bit integer")) ∧
      ¬ RefusesProperly samplePlatform
        (bytes "\x7b\"messages\":[\x7b\"role\":\"user\"\x7d],\"n\":1.5\x7d") := by
  have escapes : parseChatRequest samplePlatform
      (bytes "\x7b\"messages\":[\x7b\"role\":\"user\"\x7d],\"n\":1.5\x7d") =
        .error (.runtime (bytes "JSON number is not a signed 64-bit integer")) := by
    decide +kernel
  refine ⟨escapes, fun refuses => ?_⟩
  obtain ⟨error, isCodec, -⟩ := refuses _ escapes
  cases isCodec

end Aeon.Server
