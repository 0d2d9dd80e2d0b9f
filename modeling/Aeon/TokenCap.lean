import Aeon.ChatExceptions
import Aeon.ExactTokenHistory

namespace Aeon.Server

open Aeon.Json (JsonValue)
open Aeon.Runtime (AssistantIds Conversation ConversationSetup TurnSurroundings answeredB
  smallConversation turnCall)

/-!
# The token cap of a request

A cap is a JSON number, read as a double, converted to a signed 64-bit integer, and cut
to its low 32 bits.  What a turn then asks for is the smaller of that and the room left
in the context.
-/

/-- The member that decides the cap: the later key wins. -/
def capMember (document : JsonValue) : Option JsonValue :=
  (present document "max_completion_tokens").or (present document "max_tokens")

/-- The signed 64-bit integer of an accepted number. -/
def Platform.signed
    (platform : Platform)
    (number : ℚ) : Int :=
  if number = 2 ^ 63 then platform.indefinite else number.num

/-- The tokens there is room for behind the prompt. -/
def room
    (setup : ConversationSetup)
    (call : Runtime.GenerateCall) : Nat :=
  setup.contextCapacity - call.prompt.length

/-- The turn asks for the cap or for the room left, and never for nothing. -/
structure CapKept
    (setup : ConversationSetup)
    (cap : Nat)
    (call : Runtime.GenerateCall) : Prop where
  asked : call.generation.maxNewTokens = min cap (room setup call)
  positive : 0 < call.generation.maxNewTokens

/-! ## The parser -/

section Parser

variable
    {platform : Platform}
    {document : JsonValue}
    {key : String}
    {before cap : Option Nat}

theorem tokenCap_absent
    (absent : present document key = none)
    (returned : tokenCap platform document key before = .ok cap) :
    cap = before := by
  rw [tokenCap, absent] at returned
  exact (Except.ok.inj returned).symm

/-- A cap that is accepted is positive, and kept modulo `2^32`. -/
theorem tokenCap_number
    {number : ℚ}
    (found : present document key = some (.number number))
    (returned : tokenCap platform document key before = .ok cap) :
    cap = some (platform.signed number % 2 ^ 32).toNat := by
  rw [tokenCap, found] at returned
  obtain ⟨-, -, returned⟩ := bind_eq_ok.mp returned
  obtain ⟨integer, isInteger, returned⟩ := bind_eq_ok.mp returned
  obtain ⟨-, -, returned⟩ := bind_eq_ok.mp returned
  simp only [JsonValue.asInt64, JsonValue.asNumber, ok_bind] at isInteger
  have converted : integer = platform.signed number := by
    unfold Platform.signed
    split at isInteger
    · cases isInteger
    · split at isInteger <;> next large =>
        cases isInteger
        simp [large]
  rw [← converted]
  exact (Except.ok.inj returned).symm

end Parser

theorem parseChatRequest_cap
    {platform : Platform}
    {body : Bytes}
    {parsed : ParsedRequest}
    (accepted : parseChatRequest platform body = .ok parsed) :
    ∃ document before,
      Json.parse body = .ok document ∧
        tokenCap platform document "max_tokens" none = .ok before ∧
        tokenCap platform document "max_completion_tokens" before =
          .ok parsed.request.maxNewTokens := by
  obtain ⟨document, isDocument, accepted⟩ := bind_eq_ok.mp accepted
  obtain ⟨-, -, accepted⟩ := bind_eq_ok.mp accepted
  obtain ⟨messages, -, accepted⟩ := bind_eq_ok.mp accepted
  obtain ⟨toggled, -, accepted⟩ := bind_eq_ok.mp accepted
  obtain ⟨thinking, -, accepted⟩ := bind_eq_ok.mp accepted
  obtain ⟨before, isBefore, accepted⟩ := bind_eq_ok.mp accepted
  obtain ⟨cap, isCap, accepted⟩ := bind_eq_ok.mp accepted
  obtain ⟨temperature, -, accepted⟩ := bind_eq_ok.mp accepted
  obtain ⟨topP, -, accepted⟩ := bind_eq_ok.mp accepted
  obtain ⟨seed, -, accepted⟩ := bind_eq_ok.mp accepted
  obtain ⟨stream, -, accepted⟩ := bind_eq_ok.mp accepted
  obtain ⟨includeUsage, -, accepted⟩ := bind_eq_ok.mp accepted
  obtain ⟨-, -, accepted⟩ := bind_eq_ok.mp accepted
  obtain ⟨-, -, accepted⟩ := bind_eq_ok.mp accepted
  obtain ⟨-, -, accepted⟩ := bind_eq_ok.mp accepted
  obtain ⟨-, -, accepted⟩ := bind_eq_ok.mp accepted
  obtain rfl := Except.ok.inj accepted
  refine ⟨document, before, ?_, isBefore, isCap⟩
  unfold parseDocument at isDocument
  split at isDocument
  · next parsed =>
      obtain rfl := Except.ok.inj isDocument
      exact parsed
  · cases isDocument

theorem maxNewTokens_number
    {platform : Platform}
    {body : Bytes}
    {document : JsonValue}
    {parsed : ParsedRequest}
    (isDocument : Json.parse body = .ok document)
    (accepted : parseChatRequest platform body = .ok parsed)
    {number : ℚ}
    (isCap : capMember document = some (.number number)) :
    parsed.request.maxNewTokens = some (platform.signed number % 2 ^ 32).toNat := by
  obtain ⟨other, before, isOther, first, second⟩ := parseChatRequest_cap accepted
  rw [isDocument] at isOther
  obtain rfl := Except.ok.inj isOther
  unfold capMember at isCap
  cases completion : present document "max_completion_tokens" with
  | none =>
    rw [completion, Option.none_or] at isCap
    rw [tokenCap_absent completion second]
    exact tokenCap_number isCap first
  | some value =>
    rw [completion, Option.some_or] at isCap
    cases isCap
    exact tokenCap_number completion second

/-! ## The turn -/

theorem turnCall_maxNewTokens
    {setup : ConversationSetup}
    {kept : AssistantIds}
    {request : ConversationRequest}
    {surroundings : TurnSurroundings}
    {call : Runtime.GenerateCall}
    (turn : turnCall setup kept request surroundings = .ok call)
    {asked : Nat}
    (isAsked : request.maxNewTokens = some asked) :
    0 < room setup call ∧
      call.generation.maxNewTokens = min asked (room setup call) := by
  obtain ⟨-, -, turn⟩ := bind_eq_ok.mp turn
  obtain ⟨options, -, turn⟩ := bind_eq_ok.mp turn
  obtain ⟨messages, -, turn⟩ := bind_eq_ok.mp turn
  split at turn
  · cases turn
  · split at turn
    · cases turn
    · next prompt _ fits =>
        obtain rfl := Except.ok.inj turn
        have left : 0 < setup.contextCapacity - prompt.length := by omega
        refine ⟨left, ?_⟩
        simp only [isAsked, room]
        split <;> omega

/-- A double that is an integer below `2^32` is that integer. -/
theorem small_cap
    (platform : Platform)
    {cap : Nat}
    {number : ℚ}
    (reads : Binary64.nearest cap = some number)
    (small : cap < 2 ^ 32) :
    (platform.signed number % 2 ^ 32).toNat = cap := by
  rw [Binary64.nearest_natCast (by omega)] at reads
  obtain rfl := Option.some.inj reads
  have other : (cap : ℚ) ≠ 2 ^ 63 := by
    have below : (cap : ℚ) < 2 ^ 32 := by exact_mod_cast small
    intro same
    rw [same] at below
    norm_num at below
  rw [Platform.signed, if_neg other, Rat.num_natCast]
  omega

/--
A turn keeps the cap of an accepted request if and only if the cap is below `2^32`, or
its low 32 bits are no less than the room left.
-/
theorem capKept_iff
    (platform : Platform)
    (setup : ConversationSetup)
    (bounded : setup.contextCapacity < 2 ^ 32)
    {body : Bytes}
    {document : JsonValue}
    {parsed : ParsedRequest}
    (isDocument : Json.parse body = .ok document)
    (accepted : parseChatRequest platform body = .ok parsed)
    {cap : Nat}
    {number : ℚ}
    (positive : 0 < cap)
    (isCap : capMember document = some (.number number))
    (reads : Binary64.nearest cap = some number)
    {kept : AssistantIds}
    {surroundings : TurnSurroundings}
    {call : Runtime.GenerateCall}
    (turn : turnCall setup kept parsed.request surroundings = .ok call) :
    CapKept setup cap call ↔
      cap < 2 ^ 32 ∨
        room setup call ≤ (platform.signed number % 2 ^ 32).toNat := by
  obtain ⟨left, asked⟩ :=
    turnCall_maxNewTokens turn (maxNewTokens_number isDocument accepted isCap)
  have within : room setup call < 2 ^ 32 :=
    lt_of_le_of_lt (Nat.sub_le _ _) bounded
  constructor
  · intro isKept
    by_cases small : cap < 2 ^ 32
    · exact Or.inl small
    · have equal := isKept.asked
      right
      omega
  · rintro (small | enough)
    · rw [small_cap platform reads small] at asked
      exact ⟨asked, by omega⟩
    · by_cases small : cap < 2 ^ 32
      · rw [small_cap platform reads small] at asked
        exact ⟨asked, by omega⟩
      · exact ⟨by omega, by omega⟩

/-! ## Samples -/

/-- A request of one message, with this `max_tokens`. -/
def cappedBody (digits : String) : Bytes :=
  bytes ("\x7b\"messages\":[\x7b\"role\":\"user\",\"content\":\"a\"\x7d]," ++
    "\"max_tokens\":" ++ digits ++ "\x7d")

/-- What the parser makes of it. -/
def cappedRequest (maxNewTokens : Nat) : ParsedRequest where
  request :=
    { messages := [{ content := bytes "a" }]
      maxNewTokens := some maxNewTokens }

/-- The cap of a body is this number. -/
def capIs
    (body : Bytes)
    (number : ℚ) : Bool :=
  match Json.parse body with
  | .error _ => false
  | .ok document =>
    match capMember document with
    | some (.number found) => found = number
    | _ => false

theorem capIs_document
    {body : Bytes}
    {number : ℚ}
    (isCap : capIs body number = true) :
    ∃ document, Json.parse body = .ok document ∧
      capMember document = some (.number number) := by
  unfold capIs at isCap
  split at isCap
  · cases isCap
  · next document parsed =>
      split at isCap
      · next found member =>
          obtain rfl := of_decide_eq_true isCap
          exact ⟨document, parsed, member⟩
      · cases isCap

theorem capKept_iff_five :
    ∃ call,
      turnCall smallConversation [] (cappedRequest 5).request answeredB = .ok call ∧
        CapKept smallConversation 5 call := by
  have called : (turnCall smallConversation [] (cappedRequest 5).request
      answeredB).toBool = true := by
    decide +kernel
  obtain ⟨document, isDocument, isCap⟩ := @capIs_document (cappedBody "5") (5 : Nat)
    (by decide +kernel)
  have accepted : parseChatRequest samplePlatform (cappedBody "5") =
      .ok (cappedRequest 5) := by
    decide +kernel
  cases turn : turnCall smallConversation [] (cappedRequest 5).request answeredB with
  | error refusal =>
    rw [turn] at called
    cases called
  | ok call =>
    have reads := Binary64.nearest_natCast (by decide : 5 < 2 ^ 53)
    exact ⟨call, rfl, (capKept_iff samplePlatform smallConversation (by decide)
      isDocument accepted (by decide : 0 < 5) isCap reads turn).mpr
        (Or.inl (by decide))⟩

/-- A cap of `2^32` is no cap of zero to the client, and the turn fails for it. -/
theorem capKept_fails :
    capIs (cappedBody "4294967296") (2 ^ 32) = true ∧
      parseChatRequest samplePlatform (cappedBody "4294967296") =
        .ok (cappedRequest 0) ∧
      (Conversation.run smallConversation {} (cappedRequest 0).request answeredB).1 =
        .error (.internal (.refusal "max_new_tokens must be greater than zero")) ∧
      ∀ call,
        turnCall smallConversation [] (cappedRequest 0).request answeredB = .ok call →
          ¬ CapKept smallConversation (2 ^ 32) call := by
  refine ⟨by decide +kernel, by decide +kernel, by decide +kernel,
    fun call turn isKept => ?_⟩
  have asked := (turnCall_maxNewTokens turn (show
    (cappedRequest 0).request.maxNewTokens = some 0 from rfl)).2
  have positive := isKept.positive
  omega

end Aeon.Server
