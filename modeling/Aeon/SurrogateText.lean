import Aeon.PromptStrings

namespace Aeon.Text.PromptJson

open Aeon.Json (Token codePointBytes isHighSurrogate isLowSurrogate isSurrogate joined
  spelled unitText)

/-!
# Where the codec's strings are those of another reader

A reader that pairs surrogates as JSON does reads a literal like the codec if and only
if every high surrogate with an escape behind it is in a pair, and the surrogates on
their own mean the same to both.  A merged pair of any other kind cannot go unnoticed:
it makes the codec's text shorter, or starts with another byte.
-/

/-- Each high surrogate in front of a unit is in a pair, and the others may be alone. -/
def Joined (alone : Prop) : List Token → Prop
  | [] => True
  | .byte _ :: rest => Joined alone rest
  | .unit high :: .unit low :: rest =>
    if isHighSurrogate high then isLowSurrogate low = true ∧ Joined alone rest
    else (isSurrogate high = true → alone) ∧ Joined alone (.unit low :: rest)
  | .unit code :: rest => (isSurrogate code = true → alone) ∧ Joined alone rest

/-- A surrogate on its own is three bytes. -/
structure StrayText (stray : Nat → Bytes) : Prop where
  shape : ∀ code, isSurrogate code = true →
    ∃ lead second third, stray code = [lead, second, third] ∧ lead < 0xf0 ∧
      0x80 ≤ lead ∧ 0x80 ≤ second ∧ 0x80 ≤ third

theorem merged_joined
    {high low : Nat}
    (isLow : isLowSurrogate low = true) :
    merged high low = joined high low := by
  have value := Json.joined_eq high low
  have other : merged high low = 0x10000 + (high - 0xd800) * 0x400 + low - 0xdc00 := rfl
  have offset := (Json.low_offset isLow).1
  omega

/-- The units of a literal are below `2^16`. -/
def Bounded (tokens : List Token) : Prop :=
  ∀ code, Token.unit code ∈ tokens → code < 0x10000

variable {tokens : List Token}

/-- A code unit has sixteen bits. -/
theorem bounded_tokens
    {allowed : UInt8 → Prop}
    {body : Bytes}
    (isBody : Json.Tokens allowed body tokens) :
    Bounded tokens := by
  unfold Bounded
  induction isBody with
  | done => simp
  | plain | simple => simpa
  | unicode spells _ ih =>
    intro code isUnit
    rcases List.mem_cons.mp isUnit with same | others
    · obtain rfl := Token.unit.inj same
      exact spells.bound
    · exact ih code others

theorem Bounded.rest
    {token : Token}
    (bounded : Bounded (token :: tokens)) :
    Bounded tokens :=
  fun code isUnit => bounded code (List.mem_cons_of_mem token isUnit)

theorem Bounded.head
    {code : Nat}
    (bounded : Bounded (.unit code :: tokens)) :
    code < 0x10000 :=
  bounded code List.mem_cons_self

/-! ## Weights -/

section Weights

variable
    {cost : UInt8 → Nat}
    (positive : ∀ byte, 1 ≤ cost byte)
    (single : ∀ byte, 0x80 ≤ byte → cost byte = 1)

/-- What the bytes of a text cost together. -/
def weight (cost : UInt8 → Nat) (text : Bytes) : Nat :=
  (text.map cost).sum

theorem weight_append
    (cost : UInt8 → Nat)
    (front back : Bytes) :
    weight cost (front ++ back) = weight cost front + weight cost back := by
  simp [weight]

include single in
theorem weight_high
    {text : Bytes}
    (high : ∀ byte ∈ text, 0x80 ≤ byte) :
    weight cost text = text.length := by
  induction text with
  | nil => rfl
  | cons byte rest ih =>
    rw [List.forall_mem_cons] at high
    have others := ih high.2
    simp only [weight, List.map_cons, List.sum_cons, List.length_cons] at others ⊢
    rw [others, single byte high.1]
    omega

theorem high_ofNat
    {value : Nat}
    (above : 0x80 ≤ value)
    (below : value < 0x100) :
    (0x80 : UInt8) ≤ UInt8.ofNat value := by
  rw [UInt8.le_iff_toNat_le, UInt8.toNat_ofNat', Nat.mod_eq_of_lt below]
  exact above

variable {code : Nat}

theorem codePointBytes_high
    (above : 0x80 ≤ code)
    (below : code < 0x200000) :
    ∀ byte ∈ codePointBytes code, (0x80 : UInt8) ≤ byte := by
  have tail (unit : Nat) : (0x80 : UInt8) ≤ UInt8.ofNat (0x80 + code / unit % 0x40) :=
    high_ofNat (by omega) (by
      have := Nat.mod_lt (code / unit) (show 0x40 > 0 by decide)
      omega)
  unfold codePointBytes
  rw [if_neg (by omega)]
  split
  · simp only [List.forall_mem_cons, List.not_mem_nil, false_implies, implies_true,
      and_true]
    exact ⟨high_ofNat (by omega) (by omega), tail 1⟩
  · split
    · simp only [List.forall_mem_cons, List.not_mem_nil, false_implies, implies_true,
        and_true]
      exact ⟨high_ofNat (by omega) (by omega), tail 0x40, tail 1⟩
    · simp only [List.forall_mem_cons, List.not_mem_nil, false_implies, implies_true,
        and_true]
      exact ⟨high_ofNat (by omega) (by omega), tail 0x1000, tail 0x40, tail 1⟩

theorem codePointBytes_length
    (code : Nat) :
    1 ≤ (codePointBytes code).length ∧ (codePointBytes code).length ≤ 4 ∧
      (0x800 ≤ code → code < 0x10000 → (codePointBytes code).length = 3) ∧
      (0x10000 ≤ code → (codePointBytes code).length = 4) := by
  unfold codePointBytes
  split
  · exact ⟨by simp, by simp, by omega, by omega⟩
  · split
    · exact ⟨by simp, by simp, by omega, by omega⟩
    · split
      · exact ⟨by simp, by simp, fun _ _ => rfl, by omega⟩
      · exact ⟨by simp, by simp, by omega, fun _ => rfl⟩

theorem surrogate_range
    (surrogate : isSurrogate code = true) :
    0xd800 ≤ code ∧ code < 0xe000 := by
  simp only [isSurrogate, isHighSurrogate, isLowSurrogate, Bool.or_eq_true,
    Bool.and_eq_true, decide_eq_true_eq] at surrogate
  omega

include positive in
theorem weight_positive
    {text : Bytes}
    (nonempty : text ≠ []) :
    1 ≤ weight cost text := by
  obtain ⟨first, rest, rfl⟩ := List.exists_cons_of_ne_nil nonempty
  have := positive first
  simp only [weight, List.map_cons, List.sum_cons]
  omega

include single in
/-- A stray surrogate costs three bytes either way. -/
theorem weight_stray
    {stray : Nat → Bytes}
    (strays : StrayText stray)
    (surrogate : isSurrogate code = true) :
    weight cost (stray code) = 3 ∧ weight cost (codePointBytes code) = 3 := by
  obtain ⟨lead, second, third, shape, -, first, middle, last⟩ :=
    strays.shape code surrogate
  obtain ⟨above, below⟩ := surrogate_range surrogate
  constructor
  · rw [shape, weight_high single]
    · rfl
    · simpa using ⟨first, middle, last⟩
  · rw [weight_high single (codePointBytes_high (by omega) (by omega))]
    exact (codePointBytes_length code).2.2.1 (by omega) (by omega)

include single in
/-- A merged pair is one character. -/
theorem weight_merged
    {high low : Nat}
    (isHigh : isHighSurrogate high = true)
    (lowBound : low < 0x10000) :
    weight cost (codePointBytes (merged high low)) =
      (codePointBytes (merged high low)).length := by
  obtain ⟨above, below⟩ := merged_bound isHigh lowBound
  exact weight_high single (codePointBytes_high (by omega) below)

include positive single in
theorem weight_unit
    {stray : Nat → Bytes}
    (strays : StrayText stray)
    (code : Nat)
    (tokens : List Token) :
    weight cost (spelled stray tokens) + 1 ≤
      weight cost (spelled stray (.unit code :: tokens)) := by
  have alone (code : Nat) : 1 ≤ weight cost (unitText stray code) := by
    unfold unitText
    split
    · next surrogate =>
        rw [(weight_stray single strays surrogate).1]
        decide
    · refine weight_positive positive ?_
      have := (codePointBytes_length code).1
      intro empty
      rw [empty] at this
      cases this
  match tokens with
  | [] =>
    have := alone code
    simp only [spelled, List.append_nil]
    simpa [weight] using this
  | .byte value :: rest =>
    have := alone code
    rw [show spelled stray (.unit code :: .byte value :: rest) =
      unitText stray code ++ spelled stray (.byte value :: rest) from rfl,
      weight_append]
    omega
  | .unit low :: rest =>
    rw [spelled]
    split
    · next paired =>
        -- The low surrogate is paired here, and would be alone without the unit.
        have surrogate : isSurrogate low = true := by
          simp [isSurrogate, paired.2]
        have notHigh : isHighSurrogate low = false := by
          have := (Json.low_offset paired.2).1
          simp only [isHighSurrogate, Bool.and_eq_false_iff, decide_eq_false_iff_not]
          omega
        have four : weight cost (codePointBytes (joined code low)) = 4 := by
          have value := Json.joined_eq code low
          have bound := Json.joined_bound paired
          rw [weight_high single (codePointBytes_high (by omega) (by omega))]
          exact (codePointBytes_length _).2.2.2 (by omega)
        rw [Json.spelled_unit stray fun other others _ pair => by
          rw [notHigh] at pair
          cases pair.1]
        rw [weight_append, weight_append, four, unitText, if_pos surrogate,
          (weight_stray single strays surrogate).1]
        omega
    · have := alone code
      rw [weight_append]
      omega

include positive single in
/-- The codec's text costs no more than the other reader's. -/
theorem weight_promptText
    {stray : Nat → Bytes}
    (strays : StrayText stray)
    {tokens : List Token}
    (bounded : Bounded tokens) :
    weight cost (promptText tokens) ≤ weight cost (spelled stray tokens) := by
  have unit (code : Nat) :
      weight cost (codePointBytes code) ≤ weight cost (unitText stray code) := by
    unfold unitText
    split
    · next surrogate =>
        obtain ⟨first, second⟩ := weight_stray single strays surrogate
        rw [first, second]
    · exact le_refl _
  induction tokens using promptText.induct with
  | case1 => exact le_refl _
  | case2 value rest ih =>
    have others := ih bounded.rest
    simp only [promptText, spelled, weight, List.map_cons, List.sum_cons] at others ⊢
    omega
  | case3 high low rest isHigh ih =>
    have others := ih bounded.rest.rest
    rw [promptText, if_pos isHigh, spelled]
    split
    · next paired =>
        rw [weight_append, weight_append, merged_joined paired.2]
        omega
    · have surrogate : isSurrogate high = true := by simp [isSurrogate, isHigh]
      have behind := weight_unit positive single strays low rest
      have merge := weight_merged single isHigh bounded.rest.head
      have four := (codePointBytes_length (merged high low)).2.1
      rw [weight_append, weight_append, merge, unitText, if_pos surrogate,
        (weight_stray single strays surrogate).1]
      omega
  | case4 high low rest notHigh ih =>
    have others := ih bounded.rest
    have first := unit high
    rw [promptText, if_neg notHigh, spelled, if_neg (fun paired => notHigh paired.1),
      weight_append, weight_append]
    omega
  | case5 code rest notUnit ih =>
    have others := ih bounded.rest
    have first := unit code
    rw [promptText_unit fun low others isUnit => absurd isUnit (notUnit low others),
      Json.spelled_unit stray fun low others isUnit => absurd isUnit (notUnit low others),
      weight_append, weight_append]
    omega

end Weights

/-! ## Agreement -/

/-- Four bytes of a merged pair start where no surrogate on its own does. -/
theorem four_bytes_lead
    {code : Nat}
    (above : 0x10000 ≤ code)
    (below : code < 0x200000) :
    ∃ lead tail, codePointBytes code = lead :: tail ∧ (0xf0 : UInt8) ≤ lead := by
  unfold codePointBytes
  rw [if_neg (by omega), if_neg (by omega), if_neg (by omega)]
  refine ⟨_, _, rfl, ?_⟩
  rw [UInt8.le_iff_toNat_le, UInt8.toNat_ofNat', Nat.mod_eq_of_lt (by omega)]
  simp

/-- A merged pair that is none is noticed. -/
theorem merged_differs
    {stray : Nat → Bytes}
    (strays : StrayText stray)
    {high low : Nat}
    {rest : List Token}
    (bounded : Bounded (.unit high :: .unit low :: rest))
    (isHigh : isHighSurrogate high = true) :
    codePointBytes (merged high low) ++ promptText rest ≠
      unitText stray high ++ spelled stray (.unit low :: rest) := by
  intro same
  have surrogate : isSurrogate high = true := by simp [isSurrogate, isHigh]
  obtain ⟨lead, second, third, shape, small, -⟩ := strays.shape high surrogate
  rw [unitText, if_pos surrogate, shape] at same
  obtain ⟨-, below⟩ := merged_bound isHigh bounded.rest.head
  rcases lt_or_ge (merged high low) 0x10000 with short | long
  · -- Three bytes at most, and the unit behind the high surrogate is lost.
    have one (byte : UInt8) : 1 ≤ 1 := le_refl 1
    have fewer := @weight_promptText (fun _ => 1) one (fun _ _ => rfl) stray strays rest
      bounded.rest.rest
    have more := @weight_unit (fun _ => 1) one (fun _ _ => rfl) stray strays low rest
    have lengths := congrArg (weight fun _ => 1) same
    have merge := @weight_merged (fun _ => 1) (fun _ _ => rfl) high low isHigh
      bounded.rest.head
    have above := (merged_bound isHigh bounded.rest.head).1
    have three := (codePointBytes_length (merged high low)).2.2.1 (by omega) short
    have strayWeight : weight (fun _ => 1) [lead, second, third] = 3 := rfl
    rw [weight_append, weight_append, merge, three, strayWeight] at lengths
    omega
  · obtain ⟨first, tail, merge, large⟩ := four_bytes_lead long below
    rw [merge] at same
    obtain rfl := (List.cons.inj same).1
    rw [UInt8.le_iff_toNat_le] at large
    rw [UInt8.lt_iff_toNat_lt] at small
    omega

/--
The codec reads a literal like the other reader if and only if each high surrogate in
front of a unit is in a pair, and the surrogates alone mean the same to both.
-/
theorem promptText_eq_spelled_iff
    {stray : Nat → Bytes}
    (strays : StrayText stray)
    {alone : Prop}
    (same : ∀ code, isSurrogate code = true →
      (codePointBytes code = stray code ↔ alone))
    {tokens : List Token}
    (bounded : Bounded tokens) :
    promptText tokens = spelled stray tokens ↔ Joined alone tokens := by
  have unit {code : Nat} {read other : Bytes} :
      codePointBytes code ++ read = unitText stray code ++ other ↔
        (isSurrogate code = true → alone) ∧ read = other := by
    unfold unitText
    split
    · next surrogate =>
        obtain ⟨lead, second, third, shape, -⟩ := strays.shape code surrogate
        obtain ⟨above, below⟩ := surrogate_range surrogate
        have length : (codePointBytes code).length = (stray code).length := by
          rw [(codePointBytes_length code).2.2.1 (by omega) (by omega), shape]
          rfl
        have both : codePointBytes code ++ read = stray code ++ other ↔
            codePointBytes code = stray code ∧ read = other :=
          ⟨fun whole => List.append_inj whole length, fun parts => by
            rw [parts.1, parts.2]⟩
        rw [both, same code surrogate]
        simp [surrogate]
    · next scalar => simp [scalar]
  induction tokens using promptText.induct with
  | case1 => simp [promptText, spelled, Joined]
  | case2 value rest ih =>
    have others : promptText rest = spelled stray rest ↔ Joined alone rest :=
      ih bounded.rest
    rw [promptText, spelled, Joined, List.cons_inj_right, others]
  | case3 high low rest isHigh ih =>
    have others : promptText rest = spelled stray rest ↔ Joined alone rest :=
      ih bounded.rest.rest
    rw [promptText, if_pos isHigh, spelled, Joined, if_pos isHigh]
    by_cases isLow : isLowSurrogate low = true
    · rw [if_pos ⟨isHigh, isLow⟩, merged_joined isLow, List.append_cancel_left_eq,
        others]
      simp [isLow]
    · rw [if_neg (fun paired => isLow paired.2)]
      exact iff_of_false (merged_differs strays bounded isHigh)
        fun joins => isLow joins.1
  | case4 high low rest notHigh ih =>
    have others : promptText (.unit low :: rest) = spelled stray (.unit low :: rest) ↔
        Joined alone (.unit low :: rest) :=
      ih bounded.rest
    rw [promptText, if_neg notHigh, spelled, if_neg (fun paired => notHigh paired.1),
      Joined, if_neg notHigh, unit, others]
  | case5 code rest notUnit ih =>
    have behind : promptText rest = spelled stray rest ↔ Joined alone rest :=
      ih bounded.rest
    have single (low : Nat) (others : List Token) : rest ≠ .unit low :: others :=
      notUnit low others
    have shape : Joined alone (.unit code :: rest) =
        ((isSurrogate code = true → alone) ∧ Joined alone rest) := by
      cases rest with
      | nil => rfl
      | cons token others =>
        cases token with
        | byte value => rfl
        | unit low => exact absurd rfl (single low others)
    rw [promptText_unit fun low others isUnit => absurd isUnit (single low others),
      Json.spelled_unit stray fun low others isUnit => absurd isUnit (single low others),
      shape, unit, behind]

end Aeon.Text.PromptJson
