import Aeon.Bytes

namespace Aeon.Utf8

/-!
# UTF-8 text

Valid UTF-8 is what encoding a list of scalar values gives.  The encoding of a
scalar is a lead byte and continuation bytes, so valid text can be cut in front of
any byte that is not a continuation, and a valid beginning of a valid text leaves a
valid rest.  This module names nothing of the program.
-/

/-- The encoding of a list of scalar values. -/
def encode (chars : List Char) : Bytes :=
  chars.flatMap String.utf8EncodeChar

/-- Valid UTF-8. -/
def Valid (text : Bytes) : Prop :=
  ∃ chars, text = encode chars

/-- A byte that continues a sequence. -/
def IsContinuation (byte : UInt8) : Prop :=
  byte &&& 0xc0 = 0x80

instance (byte : UInt8) : Decidable (IsContinuation byte) :=
  inferInstanceAs (Decidable (byte &&& 0xc0 = 0x80))

@[simp]
theorem encode_nil : encode [] = [] :=
  rfl

@[simp]
theorem encode_cons
    (char : Char)
    (chars : List Char) :
    encode (char :: chars) = String.utf8EncodeChar char ++ encode chars :=
  rfl

theorem encode_append
    (front back : List Char) :
    encode (front ++ back) = encode front ++ encode back :=
  List.flatMap_append

/-! ## One scalar -/

/-- A byte below `0x80` is not a continuation. -/
theorem ascii_lead : ∀ part < 128, ¬ IsContinuation (UInt8.ofNat part) := by
  decide

theorem two_lead : ∀ part < 32, ¬ IsContinuation (UInt8.ofNat (part + 0xc0)) := by
  decide

theorem three_lead :
    ∀ part < 16, ¬ IsContinuation (UInt8.ofNat (part + 0xe0)) := by
  decide

theorem four_lead : ∀ part < 8, ¬ IsContinuation (UInt8.ofNat (part + 0xf0)) := by
  decide

theorem tail_continues :
    ∀ part < 64, IsContinuation (UInt8.ofNat (part + 0x80)) := by
  decide

theorem utf8EncodeChar_shape
    (char : Char) :
    ∃ lead rest,
      String.utf8EncodeChar char = lead :: rest ∧
        ¬ IsContinuation lead ∧
        ∀ byte ∈ rest, IsContinuation byte := by
  have tail (value : Nat) : IsContinuation (UInt8.ofNat (value % 0x40 + 0x80)) :=
    tail_continues _ (Nat.mod_lt _ (by decide))
  unfold String.utf8EncodeChar
  dsimp only
  split
  · next small =>
      exact ⟨_, _, rfl, ascii_lead _ (by omega), by simp⟩
  · split
    · refine ⟨_, _, rfl, two_lead _ (Nat.mod_lt _ (by decide)), ?_⟩
      intro byte listed
      obtain rfl := List.mem_singleton.mp listed
      exact tail _
    · split
      · refine ⟨_, _, rfl, three_lead _ (Nat.mod_lt _ (by decide)), ?_⟩
        intro byte listed
        simp only [List.mem_cons, List.not_mem_nil, or_false] at listed
        rcases listed with rfl | rfl
        · exact tail _
        · exact tail _
      · refine ⟨_, _, rfl, four_lead _ (Nat.mod_lt _ (by decide)), ?_⟩
        intro byte listed
        simp only [List.mem_cons, List.not_mem_nil, or_false] at listed
        rcases listed with rfl | rfl | rfl
        · exact tail _
        · exact tail _
        · exact tail _

/-! ## Cutting valid text -/

theorem Valid.nil : Valid [] :=
  ⟨[], rfl⟩

theorem Valid.append
    {front back : Bytes}
    (first : Valid front)
    (second : Valid back) :
    Valid (front ++ back) := by
  obtain ⟨frontChars, rfl⟩ := first
  obtain ⟨backChars, rfl⟩ := second
  exact ⟨frontChars ++ backChars, (encode_append _ _).symm⟩

theorem Valid.lead
    {lead : UInt8}
    {rest : Bytes}
    (valid : Valid (lead :: rest)) :
    ¬ IsContinuation lead := by
  obtain ⟨chars, shape⟩ := valid
  cases chars with
  | nil => simp at shape
  | cons char chars =>
    obtain ⟨first, others, unit, leads, -⟩ := utf8EncodeChar_shape char
    rw [encode_cons, unit, List.cons_append, List.cons.injEq] at shape
    rw [shape.1]
    exact leads

theorem Valid.cut
    {front back : Bytes}
    (valid : Valid (front ++ back))
    (starts : ∀ byte ∈ back.head?, ¬ IsContinuation byte) :
    Valid front ∧ Valid back := by
  obtain ⟨chars, shape⟩ := valid
  induction chars generalizing front with
  | nil =>
    obtain ⟨rfl, rfl⟩ := List.append_eq_nil_iff.mp shape
    exact ⟨.nil, .nil⟩
  | cons char chars ih =>
    obtain ⟨lead, others, unit, leads, continues⟩ :=
      utf8EncodeChar_shape char
    rw [encode_cons] at shape
    rcases List.append_eq_append_iff.mp shape with
      ⟨middle, unitEq, backEq⟩ | ⟨middle, frontEq, restEq⟩
    · -- The cut lies within the first scalar, or right behind it.
      cases front with
      | nil =>
        refine ⟨.nil, char :: chars, ?_⟩
        rw [encode_cons]
        exact shape
      | cons byte front =>
        cases middle with
        | nil =>
          refine ⟨⟨[char], ?_⟩, ⟨chars, ?_⟩⟩
          · rw [encode_cons, unitEq]
            simp
          · simpa using backEq
        | cons inner middle =>
          exfalso
          rw [unit, List.cons_append, List.cons.injEq] at unitEq
          refine starts inner (by rw [backEq]; simp)
            (continues inner ?_)
          rw [unitEq.2]
          simp
    · subst frontEq
      obtain ⟨middleValid, backValid⟩ :=
        ih restEq.symm
      exact ⟨Valid.append ⟨[char], by simp⟩ middleValid, backValid⟩

/-- The first scalar of a text is determined by the text. -/
theorem utf8EncodeChar_append_inj
    {one other : Char}
    {oneRest otherRest : Bytes}
    (same :
      String.utf8EncodeChar one ++ oneRest =
        String.utf8EncodeChar other ++ otherRest) :
    one = other ∧ oneRest = otherRest := by
  have decoded := congrArg
    (fun text : List UInt8 => ByteArray.utf8DecodeChar? text.toByteArray 0) same
  simp only [List.toByteArray_append,
    ByteArray.utf8DecodeChar?_utf8EncodeChar_append, Option.some.injEq]
    at decoded
  subst decoded
  exact ⟨rfl, List.append_cancel_left same⟩

/-- A text determines its scalars. -/
theorem encode_injective : Function.Injective encode := by
  intro one other same
  induction one generalizing other with
  | nil =>
    cases other with
    | nil => rfl
    | cons char chars =>
      rw [encode_nil, encode_cons] at same
      exact absurd (List.append_eq_nil_iff.mp same.symm).1
        String.utf8EncodeChar_ne_nil
  | cons char chars ih =>
    cases other with
    | nil =>
      rw [encode_nil, encode_cons] at same
      exact absurd (List.append_eq_nil_iff.mp same).1
        String.utf8EncodeChar_ne_nil
    | cons second others =>
      rw [encode_cons, encode_cons] at same
      obtain ⟨rfl, rest⟩ := utf8EncodeChar_append_inj same
      rw [ih rest]

theorem Valid.rest
    {front back : Bytes}
    (first : Valid front)
    (whole : Valid (front ++ back)) :
    Valid back := by
  obtain ⟨chars, rfl⟩ := first
  obtain ⟨all, shape⟩ := whole
  induction chars generalizing all with
  | nil => exact ⟨all, shape⟩
  | cons char chars ih =>
    cases all with
    | nil =>
      rw [encode_nil, encode_cons, List.append_assoc] at shape
      have empty := (List.append_eq_nil_iff.mp shape).1
      exact absurd empty String.utf8EncodeChar_ne_nil
    | cons other all =>
      rw [encode_cons, encode_cons, List.append_assoc] at shape
      exact ih all (utf8EncodeChar_append_inj shape).2

end Aeon.Utf8
