import Aeon.JsonStrings

namespace Aeon.Json

/-!
# The number literals the reader accepts

`NumberText` is the grammar of a JSON number.  The reader accepts exactly these
literals, and reads each of them alike wherever a number may end.
-/

/-! ## Cursors -/

/-- The reader moved over `text`. -/
structure Advances
    (cursor : Cursor)
    (text : Bytes)
    (after : Cursor) : Prop where
  rest : cursor.rest = text ++ after.rest
  position : after.position = cursor.position + text.length

theorem Advances.refl
    (cursor : Cursor) :
    Advances cursor [] cursor :=
  ⟨rfl, rfl⟩

/-- Readings one after the other make one reading. -/
theorem Advances.trans
    {cursor middle after : Cursor}
    {first second : Bytes}
    (before : Advances cursor first middle)
    (behind : Advances middle second after) :
    Advances cursor (first ++ second) after := by
  refine ⟨?_, ?_⟩
  · rw [before.rest, behind.rest, List.append_assoc]
  · rw [behind.position, before.position, List.length_append, Nat.add_assoc]

/-- Skipping a text that stands there. -/
theorem Advances.skip
    {cursor : Cursor}
    {text rest : Bytes}
    (here : cursor.rest = text ++ rest) :
    Advances cursor text (cursor.skip text.length) := by
  refine ⟨?_, rfl⟩
  rw [here, Cursor.skip, here]
  simp

theorem Advances.skip_one
    {cursor : Cursor}
    {byte : UInt8}
    (here : cursor.rest.head? = some byte) :
    Advances cursor [byte] (cursor.skip 1) := by
  obtain ⟨rest, shape⟩ := List.head?_eq_some_iff.mp here
  exact @Advances.skip cursor [byte] rest shape

variable {cursor after : Cursor}
variable {text rest : Bytes}

theorem expect_ok
    {byte : UInt8}
    (expected : expect cursor byte = .ok after) :
    Advances cursor [byte] after := by
  unfold expect at expected
  split at expected
  · next here =>
      cases expected
      exact Advances.skip_one here
  · cases expected

/-- The bytes in front that satisfy a test are skipped. -/
theorem Advances.takeWhile
    (cursor : Cursor)
    (test : UInt8 → Bool) :
    Advances cursor (cursor.rest.takeWhile test)
      (cursor.skip (cursor.rest.takeWhile test).length) :=
  Advances.skip (List.takeWhile_append_dropWhile (p := test)).symm

theorem skipWhitespace_advances
    (cursor : Cursor) :
    ∃ lead, Blank lead ∧ Advances cursor lead (skipWhitespace cursor) :=
  ⟨_, fun _ listed => List.mem_takeWhile_imp listed,
    Advances.takeWhile cursor isWhitespace⟩

/-! ## Numbers -/

/-- A non-empty run of digits. -/
structure Digits (digits : Bytes) : Prop where
  all : ∀ byte ∈ digits, isDigit byte = true
  nonempty : digits ≠ []

/-- Zero alone, or digits without a leading zero. -/
inductive WholePart : Bytes → Prop where
  | zero : WholePart [0x30]
  | digits
      {digits : Bytes}
      (run : Digits digits)
      (lead : digits.head? ≠ some 0x30) :
      WholePart digits

/-- Nothing, or a point and digits. -/
inductive FractionPart : Bytes → Prop where
  | absent : FractionPart []
  | digits
      {digits : Bytes}
      (run : Digits digits) :
      FractionPart (0x2e :: digits)

/-- Nothing, or an exponent mark, a sign and digits. -/
inductive ExponentPart : Bytes → Prop where
  | absent : ExponentPart []
  | digits
      {mark : UInt8}
      {sign digits : Bytes}
      (marks : mark = 0x65 ∨ mark = 0x45)
      (signs : sign = [] ∨ sign = [0x2b] ∨ sign = [0x2d])
      (run : Digits digits) :
      ExponentPart (mark :: (sign ++ digits))

/-- The literal of a number. -/
inductive NumberText : Bytes → Prop where
  | parts
      {sign whole fraction exponent : Bytes}
      (signs : sign = [] ∨ sign = [0x2d])
      (isWhole : WholePart whole)
      (isFraction : FractionPart fraction)
      (isExponent : ExponentPart exponent) :
      NumberText (sign ++ (whole ++ (fraction ++ exponent)))

theorem skipDigits_ok
    {cursor : Cursor}
    (starts : cursor.rest.head?.any isDigit = true) :
    ∃ digits,
      Digits digits ∧ digits.head? = cursor.rest.head? ∧
        Advances cursor digits (skipDigits cursor) := by
  cases shape : cursor.rest with
  | nil => simp [shape] at starts
  | cons first rest =>
    have digit : isDigit first = true := by simpa [shape] using starts
    have taken :
        cursor.rest.takeWhile isDigit =
          first :: rest.takeWhile isDigit := by
      rw [shape, List.takeWhile_cons_of_pos digit]
    refine ⟨cursor.rest.takeWhile isDigit,
      ⟨fun _ listed => List.mem_takeWhile_imp listed, ?_⟩, ?_,
      Advances.takeWhile cursor isDigit⟩
    · simp [taken]
    · simp [taken]

theorem requireDigits_ok
    {message : String}
    (read : requireDigits cursor message = .ok after) :
    ∃ digits, Digits digits ∧ Advances cursor digits after := by
  unfold requireDigits at read
  split at read
  · next starts =>
      cases read
      obtain ⟨digits, run, _, moved⟩ := skipDigits_ok starts
      exact ⟨digits, run, moved⟩
  · cases read

theorem parseFraction_ok
    (read : parseFraction cursor = .ok after) :
    ∃ text, FractionPart text ∧ Advances cursor text after := by
  unfold parseFraction at read
  split at read
  · next point =>
      obtain ⟨digits, run, moved⟩ := requireDigits_ok read
      exact ⟨0x2e :: digits, .digits run,
        (Advances.skip_one point).trans moved⟩
  · cases read
    exact ⟨[], .absent, .refl cursor⟩

theorem parseExponent_ok
    (read : parseExponent cursor = .ok after) :
    ∃ text, ExponentPart text ∧ Advances cursor text after := by
  unfold parseExponent at read
  split at read
  · next mark =>
      have marked : ∃ byte, (byte = 0x65 ∨ byte = 0x45) ∧
          Advances cursor [byte] (cursor.skip 1) := by
        rcases mark with lower | upper
        · exact ⟨0x65, Or.inl rfl, Advances.skip_one lower⟩
        · exact ⟨0x45, Or.inr rfl, Advances.skip_one upper⟩
      obtain ⟨byte, marks, moved⟩ := marked
      obtain ⟨digits, run, behind⟩ := requireDigits_ok read
      split at behind
      · next sign =>
          rcases sign with plus | minus
          · exact ⟨byte :: ([0x2b] ++ digits),
              .digits marks (Or.inr (Or.inl rfl)) run,
              moved.trans ((Advances.skip_one plus).trans behind)⟩
          · exact ⟨byte :: ([0x2d] ++ digits),
              .digits marks (Or.inr (Or.inr rfl)) run,
              moved.trans ((Advances.skip_one minus).trans behind)⟩
      · exact ⟨byte :: ([] ++ digits), .digits marks (Or.inl rfl) run,
          moved.trans behind⟩
  · cases read
    exact ⟨[], .absent, .refl cursor⟩

/-- What is read as a number is the text of one, rounded. -/
theorem parseNumber_ok
    {start after : Cursor}
    {value : JsonValue}
    (read : parseNumber start = .ok (value, after)) :
    ∃ text number,
      NumberText text ∧ stod text = some number ∧ value = .number number ∧
        Advances start text after := by
  have signed :
      ∃ sign, (sign = [] ∨ sign = [0x2d]) ∧
        Advances start sign
          (if start.rest.head? = some 0x2d then start.skip 1 else start) := by
    split
    · next minus => exact ⟨[0x2d], Or.inr rfl, Advances.skip_one minus⟩
    · exact ⟨[], Or.inl rfl, .refl start⟩
  obtain ⟨sign, signs, movedSign⟩ := signed
  unfold parseNumber at read
  simp only at read
  generalize (if start.rest.head? = some 0x2d then start.skip 1 else start) =
    unsigned at read movedSign
  split at read
  · cases read
  · next starts =>
      have whole :
          ∃ digits, WholePart digits ∧
            Advances unsigned digits
              (if unsigned.rest.head? = some 0x30 then unsigned.skip 1
                else skipDigits unsigned) := by
        split
        · next zero => exact ⟨[0x30], .zero, Advances.skip_one zero⟩
        · next nonzero =>
            obtain ⟨digits, run, sameHead, moved⟩ :=
              skipDigits_ok (by simpa using starts)
            exact ⟨digits, .digits run (by rw [sameHead]; exact nonzero),
              moved⟩
      obtain ⟨digits, isWhole, movedWhole⟩ := whole
      obtain ⟨middle, readFraction, read⟩ := bind_eq_ok.mp read
      obtain ⟨ended, readExponent, read⟩ := bind_eq_ok.mp read
      obtain ⟨fraction, isFraction, movedFraction⟩ :=
        parseFraction_ok readFraction
      obtain ⟨exponent, isExponent, movedExponent⟩ :=
        parseExponent_ok readExponent
      have moved :
          Advances start (sign ++ (digits ++ (fraction ++ exponent))) ended :=
        movedSign.trans (movedWhole.trans (movedFraction.trans movedExponent))
      have literal :
          start.rest.take (ended.position - start.position) =
            sign ++ (digits ++ (fraction ++ exponent)) := by
        rw [moved.position, Nat.add_sub_cancel_left, moved.rest]
        exact List.take_left
      rw [literal] at read
      split at read
      · cases read
      · next number rounds =>
          simp only [Except.ok.injEq, Prod.mk.injEq] at read
          obtain ⟨rfl, rfl⟩ := read
          exact ⟨_, number, .parts signs isWhole isFraction isExponent, rounds,
            rfl, moved⟩

/-- What may stand behind a run of digits. -/
def EndsDigits (rest : Bytes) : Prop :=
  ∀ byte, rest.head? = some byte → isDigit byte = false

/-- A run of digits is skipped whole. -/
theorem Digits.skip
    {digits rest : Bytes}
    (run : Digits digits)
    (ends : EndsDigits rest)
    (position : Nat) :
    skipDigits ⟨position, digits ++ rest⟩ =
      ⟨position + digits.length, rest⟩ := by
  have taken : (digits ++ rest).takeWhile isDigit = digits := by
    rw [List.takeWhile_append_of_pos run.all]
    cases rest with
    | nil => simp
    | cons byte rest => simp [ends byte rfl]
  unfold skipDigits
  simp only
  rw [taken, Cursor.skip_append]

theorem Digits.head
    {digits : Bytes}
    (run : Digits digits)
    (rest : Bytes) :
    ∃ first, (digits ++ rest).head? = some first ∧ isDigit first = true ∧
      digits.head? = some first := by
  cases digits with
  | nil => exact absurd rfl run.nonempty
  | cons first others =>
    exact ⟨first, rfl, run.all first List.mem_cons_self, rfl⟩

theorem Digits.require
    {digits rest : Bytes}
    {message : String}
    (run : Digits digits)
    (ends : EndsDigits rest)
    (position : Nat) :
    requireDigits ⟨position, digits ++ rest⟩ message =
      .ok ⟨position + digits.length, rest⟩ := by
  obtain ⟨first, head, digit, _⟩ := run.head rest
  unfold requireDigits
  rw [if_pos (by rw [head]; exact digit), run.skip ends]

theorem Stops.endsDigits
    {rest : Bytes}
    (stops : Stops rest) :
    EndsDigits rest :=
  fun byte head => (stops byte head).1

theorem ExponentPart.reads
    (isExponent : ExponentPart text)
    (stops : Stops rest)
    (position : Nat) :
    parseExponent ⟨position, text ++ rest⟩ =
      .ok ⟨position + text.length, rest⟩ := by
  cases isExponent with
  | absent =>
    unfold parseExponent
    rw [if_neg]
    · rfl
    · rintro (mark | mark)
      · exact (stops _ mark).2.2.1 rfl
      · exact (stops _ mark).2.2.2 rfl
  | @digits mark sign digits marks signs run =>
    obtain ⟨first, head, digit, _⟩ := run.head rest
    have read (position : Nat) :=
      @Digits.require digits rest "invalid exponent" run stops.endsDigits
        position
    have notPlus : first ≠ 0x2b := by
      rintro rfl
      exact absurd digit (by decide)
    have notMinus : first ≠ 0x2d := by
      rintro rfl
      exact absurd digit (by decide)
    have marked : mark = 0x65 ∨ mark = 0x45 := marks
    rcases signs with rfl | rfl | rfl
    · simp [parseExponent, marked, head, notPlus, notMinus, read]
      omega
    · simp [parseExponent, marked, read]
      omega
    · simp [parseExponent, marked, read]
      omega

/-- Behind the digits of a number stands neither a digit nor a point. -/
theorem ExponentPart.ends
    (isExponent : ExponentPart text)
    (stops : Stops rest) :
    EndsDigits (text ++ rest) ∧ (text ++ rest).head? ≠ some 0x2e := by
  cases isExponent with
  | absent =>
    exact ⟨stops.endsDigits, fun point => (stops _ point).2.1 rfl⟩
  | digits marks signs run =>
    constructor
    · intro byte head
      cases head
      rcases marks with rfl | rfl <;> decide
    · intro point
      cases point
      rcases marks with wrong | wrong <;> cases wrong

theorem FractionPart.reads
    (isFraction : FractionPart text)
    (ends : EndsDigits rest)
    (pointless : rest.head? ≠ some 0x2e)
    (position : Nat) :
    parseFraction ⟨position, text ++ rest⟩ =
      .ok ⟨position + text.length, rest⟩ := by
  cases isFraction with
  | absent => simp [parseFraction, pointless]
  | @digits digits run =>
    have read :=
      @Digits.require digits rest "invalid fractional part" run ends
        (position + 1)
    simp [parseFraction, read]
    omega

theorem FractionPart.ends
    (isFraction : FractionPart text)
    (ends : EndsDigits rest) :
    EndsDigits (text ++ rest) := by
  cases isFraction with
  | absent => exact ends
  | digits run =>
    intro byte head
    cases head
    decide

theorem WholePart.skip
    {text rest : Bytes}
    (isWhole : WholePart text)
    (ends : EndsDigits rest)
    (position : Nat) :
    (text ++ rest).head?.any isDigit = true ∧
      (if (text ++ rest).head? = some 0x30 then
        (Cursor.mk position (text ++ rest)).skip 1
      else
        skipDigits ⟨position, text ++ rest⟩) =
        ⟨position + text.length, rest⟩ := by
  cases isWhole with
  | zero => exact ⟨rfl, rfl⟩
  | digits run lead =>
    obtain ⟨first, head, digit, alone⟩ := run.head rest
    refine ⟨by rw [head]; exact digit, ?_⟩
    rw [if_neg, run.skip ends]
    rw [head, ← alone]
    exact lead

theorem NumberText.head
    {text : Bytes}
    (isNumber : NumberText text) :
    ∃ first rest, text = first :: rest ∧
      (first = 0x2d ∨ isDigit first = true) := by
  cases isNumber with
  | @parts sign whole fraction exponent signs isWhole isFraction isExponent =>
    rcases signs with rfl | rfl
    · cases isWhole with
      | zero => exact ⟨0x30, _, rfl, Or.inr (by decide)⟩
      | digits run lead =>
        cases whole with
        | nil => exact absurd rfl run.nonempty
        | cons first others =>
          exact ⟨first, _, rfl,
            Or.inr (run.all first List.mem_cons_self)⟩
    · exact ⟨0x2d, _, rfl, Or.inl rfl⟩

/-- The text of a number is read up to its end. -/
theorem NumberText.reads
    {number : ℚ}
    (isNumber : NumberText text)
    (rounds : stod text = some number)
    (stops : Stops rest)
    (position : Nat) :
    parseNumber ⟨position, text ++ rest⟩ =
      .ok (.number number, ⟨position + text.length, rest⟩) := by
  cases isNumber with
  | @parts sign whole fraction exponent signs isWhole isFraction isExponent =>
    obtain ⟨endsExponent, pointless⟩ := isExponent.ends stops
    have endsWhole := isFraction.ends endsExponent
    obtain ⟨starts, skipped⟩ :=
      isWhole.skip endsWhole (position + sign.length)
    have unsigned :
        (if (sign ++ (whole ++ (fraction ++ (exponent ++ rest)))).head? =
            some 0x2d then
          (Cursor.mk position
            (sign ++ (whole ++ (fraction ++ (exponent ++ rest))))).skip 1
        else
          ⟨position, sign ++ (whole ++ (fraction ++ (exponent ++ rest)))⟩) =
          ⟨position + sign.length,
            whole ++ (fraction ++ (exponent ++ rest))⟩ := by
      rcases signs with rfl | rfl
      · rw [List.nil_append, if_neg]
        · rfl
        · intro minus
          rw [minus] at starts
          exact absurd starts (by decide)
      · rfl
    have literal :
        (sign ++ (whole ++ (fraction ++ (exponent ++ rest)))).take
          (position + sign.length + whole.length + fraction.length +
            exponent.length - position) =
          sign ++ (whole ++ (fraction ++ exponent)) := by
      have length :
          position + sign.length + whole.length + fraction.length +
              exponent.length - position =
            (sign ++ (whole ++ (fraction ++ exponent))).length := by
        simp only [List.length_append]
        omega
      have regrouped :
          sign ++ (whole ++ (fraction ++ (exponent ++ rest))) =
            (sign ++ (whole ++ (fraction ++ exponent))) ++ rest := by
        simp
      rw [length, regrouped]
      exact List.take_left
    unfold parseNumber
    simp only [List.append_assoc, unsigned, starts, not_true, if_false,
      skipped]
    rw [isFraction.reads endsExponent pointless, ok_bind,
      isExponent.reads stops, ok_bind]
    simp only [literal, rounds]
    simp only [List.length_append, Except.ok.injEq, Prod.mk.injEq,
      Cursor.mk.injEq, true_and, and_true]
    omega

end Aeon.Json
