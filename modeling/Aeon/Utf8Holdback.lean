import Aeon.StreamDecoder
import Aeon.Utf8

namespace Aeon.Text.Utf8Chunker

open List (append_nil cons_append length_cons length_drop length_nil)

/-!
# UTF-8 holdback

A reply arrives in pieces that may end within a code point.  `push` emits what is
complete and holds the rest, `flush` turns a held rest into U+FFFD, and an invalid byte
becomes U+FFFD as soon as it is known.  What a scan emits is final, so where the pieces
are cut does not matter.
-/

/-! ## The calls of a chunker -/

/-- A call of a chunker. -/
inductive Call where
  | push (text : Bytes)
  | flush
  deriving Repr, DecidableEq

/-- One call: what it returned and what is held behind it. -/
def call (held : Bytes) : Call → Bytes × Bytes
  | .push text => push held text
  | .flush => (flush held, [])

/-- Calls in order: what each returned, and what is held behind them. -/
def calls : Bytes → List Call → List Bytes × Bytes
  | held, [] => ([], held)
  | held, first :: rest =>
    let next := call held first
    let later := calls next.2 rest
    (next.1 :: later.1, later.2)

/-- The pieces of a text pushed into a fresh chunker, and the end of the reply. -/
def reply (pieces : List Bytes) : Bytes :=
  (calls [] (pieces.map Call.push ++ [.flush])).1.flatten

/-! ## A round of the scan -/

/-- What a round does: emit something and go on, or hold the rest. -/
inductive ScanStep where
  | emit (output : Bytes) (advance : Nat)
  | hold
  deriving Repr, DecidableEq

/-- A round of `scan`, at a byte and what follows it. -/
def scanStep
    (lead : UInt8)
    (rest : Bytes) : ScanStep :=
  if lead < 0x80 then
    .emit [lead] 1
  else if sequenceLength lead = 0 then
    .emit replacement 1
  else
    match continuation lead 1 (sequenceLength lead - 1) rest with
    -- The lead alone is replaced; the byte that failed is looked at again.
    | .invalid => .emit replacement 1
    | .incomplete => .hold
    | .complete =>
      .emit ((lead :: rest).take (sequenceLength lead)) (sequenceLength lead)

/-- A whole buffer scanned. -/
def scanned (buffer : Bytes) : Bytes × Bytes :=
  scan buffer.length buffer

variable {lead : UInt8}
variable {rest : Bytes}
variable {advance : Nat}
variable {missing k : Nat}

theorem scan_hold_round
    (holds : scanStep lead rest = .hold)
    (rounds : Nat) :
    scan (rounds + 1) (lead :: rest) = ([], lead :: rest) := by
  unfold scanStep at holds
  rw [scan]
  split_ifs at holds ⊢
  cases continued : continuation lead 1 (sequenceLength lead - 1) rest with
  | invalid =>
    rw [continued] at holds
    cases holds
  | incomplete => rfl
  | complete =>
    rw [continued] at holds
    cases holds

theorem scan_emit_round
    {rest output : Bytes}
    (emits : scanStep lead rest = .emit output advance)
    (rounds : Nat) :
    scan (rounds + 1) (lead :: rest) =
      (output ++ (scan rounds ((lead :: rest).drop advance)).1,
        (scan rounds ((lead :: rest).drop advance)).2) := by
  unfold scanStep at emits
  rw [scan]
  split_ifs at emits ⊢
  · obtain ⟨rfl, rfl⟩ := ScanStep.emit.inj emits
    rfl
  · obtain ⟨rfl, rfl⟩ := ScanStep.emit.inj emits
    rfl
  cases continued : continuation lead 1 (sequenceLength lead - 1) rest with
  | invalid =>
    rw [continued] at emits
    obtain ⟨rfl, rfl⟩ := ScanStep.emit.inj emits
    rfl
  | incomplete =>
    rw [continued] at emits
    cases emits
  | complete =>
    rw [continued] at emits
    obtain ⟨rfl, rfl⟩ := ScanStep.emit.inj emits
    rfl

theorem sequenceLength_cases
    (lead : UInt8) :
    sequenceLength lead = 0 ∨
      (0xC2 ≤ lead.toNat ∧ lead.toNat ≤ 0xDF ∧ sequenceLength lead = 2) ∨
      (0xE0 ≤ lead.toNat ∧ lead.toNat ≤ 0xEF ∧ sequenceLength lead = 3) ∨
      (0xF0 ≤ lead.toNat ∧ lead.toNat ≤ 0xF4 ∧ sequenceLength lead = 4) := by
  unfold sequenceLength
  simp only [UInt8.le_iff_toNat_le, UInt8.reduceToNat]
  split_ifs with two three four
  · exact .inr (.inl ⟨two.1, two.2, rfl⟩)
  · exact .inr (.inr (.inl ⟨three.1, three.2, rfl⟩))
  · exact .inr (.inr (.inr ⟨four.1, four.2, rfl⟩))
  · exact .inl rfl

/-- What follows does not change a verdict. -/
theorem continuation_verdict
    (known : continuation lead k missing rest ≠ .incomplete)
    (more : Bytes) :
    continuation lead k missing (rest ++ more) = continuation lead k missing rest := by
  induction missing generalizing k rest with
  | zero => simp only [continuation]
  | succ missing ih =>
    cases rest with
    | nil => exact absurd rfl known
    | cons byte rest =>
      rw [continuation] at known
      rw [cons_append, continuation, continuation]
      split at known
      next allowed => rw [if_pos allowed, if_pos allowed, ih known]
      next refused => rw [if_neg refused, if_neg refused]

/-- A complete sequence has all its bytes. -/
theorem continuation_complete_length
    (complete : continuation lead k missing rest = .complete) :
    missing ≤ rest.length := by
  induction missing generalizing k rest with
  | zero => exact Nat.zero_le _
  | succ missing ih =>
    cases rest with
    | nil => cases complete
    | cons byte rest =>
      rw [continuation] at complete
      split at complete
      · exact Nat.succ_le_succ (ih complete)
      · cases complete

/-- An incomplete sequence lacks a byte. -/
theorem continuation_incomplete_length
    (incomplete : continuation lead k missing rest = .incomplete) :
    rest.length < missing := by
  induction missing generalizing k rest with
  | zero => cases incomplete
  | succ missing ih =>
    cases rest with
    | nil => exact Nat.succ_pos _
    | cons byte rest =>
      rw [continuation] at incomplete
      split at incomplete
      · exact Nat.succ_lt_succ (ih incomplete)
      · cases incomplete

/-- Everything the loop can do at an index. -/
theorem scanStep_cases
    (lead : UInt8)
    (rest : Bytes) :
    (lead < 0x80 ∧ scanStep lead rest = .emit [lead] 1) ∨
      (scanStep lead rest = .emit replacement 1 ∧
        ∀ more, scanStep lead (rest ++ more) = .emit replacement 1) ∨
      (continuation lead 1 (sequenceLength lead - 1) rest = .incomplete ∧
        scanStep lead rest = .hold) ∨
      (¬ lead < 0x80 ∧ sequenceLength lead ≠ 0 ∧
        continuation lead 1 (sequenceLength lead - 1) rest = .complete ∧
        scanStep lead rest =
          .emit ((lead :: rest).take (sequenceLength lead)) (sequenceLength lead)) := by
  unfold scanStep
  by_cases ascii : lead < 0x80
  · simp only [ascii, if_true, true_and]
    exact .inl trivial
  simp only [ascii, if_false, false_and, false_or, not_false_iff, true_and]
  by_cases leads : sequenceLength lead = 0
  · simp only [leads, if_true]
    exact .inl ⟨trivial, fun _ => trivial⟩
  simp only [leads, if_false]
  cases verdict : continuation lead 1 (sequenceLength lead - 1) rest with
  | invalid =>
    refine .inl ⟨rfl, fun more => ?_⟩
    rw [continuation_verdict (by rw [verdict]; decide) more, verdict]
  | incomplete => exact .inr (.inl ⟨rfl, rfl⟩)
  | complete => exact .inr (.inr ⟨leads, rfl, rfl⟩)

/-- An emission is final, and takes at least a byte. -/
theorem scanStep_emit
    {rest output : Bytes}
    (emits : scanStep lead rest = .emit output advance) :
    0 < advance ∧ advance ≤ (lead :: rest).length ∧
      ∀ more, scanStep lead (rest ++ more) = .emit output advance := by
  rcases scanStep_cases lead rest with
    ⟨ascii, step⟩ | ⟨step, stable⟩ | ⟨-, step⟩ | ⟨wide, leads, verdict, step⟩
  · obtain ⟨rfl, rfl⟩ := ScanStep.emit.inj (step.symm.trans emits)
    refine ⟨Nat.one_pos, Nat.succ_le_succ (Nat.zero_le _), fun more => ?_⟩
    rw [scanStep, if_pos ascii]
  · obtain ⟨rfl, rfl⟩ := ScanStep.emit.inj (step.symm.trans emits)
    exact ⟨Nat.one_pos, Nat.succ_le_succ (Nat.zero_le _), stable⟩
  · exact nomatch step.symm.trans emits
  · obtain ⟨rfl, rfl⟩ := ScanStep.emit.inj (step.symm.trans emits)
    have length := continuation_complete_length verdict
    have fits : sequenceLength lead ≤ (lead :: rest).length := by
      rw [length_cons]
      omega
    refine ⟨Nat.pos_of_ne_zero leads, fits, fun more => ?_⟩
    have kept := continuation_verdict (by rw [verdict]; decide) more
    rw [scanStep, if_neg wide]
    simp only [leads, if_false, kept, verdict]
    rw [← cons_append, List.take_append_of_le_length fits]

/-- What is held is an incomplete sequence. -/
theorem scanStep_hold
    (holds : scanStep lead rest = .hold) :
    (lead :: rest).length ≤ 3 := by
  rcases scanStep_cases lead rest with
    ⟨-, step⟩ | ⟨step, -⟩ | ⟨verdict, -⟩ | ⟨-, -, -, step⟩
  · exact nomatch step.symm.trans holds
  · exact nomatch step.symm.trans holds
  · have short := continuation_incomplete_length verdict
    rw [length_cons]
    rcases sequenceLength_cases lead with none | ⟨-, -, two⟩ | ⟨-, -, three⟩ | ⟨-, -, four⟩
    all_goals omega
  · exact nomatch step.symm.trans holds

/-! ## The scan -/

theorem scan_rounds
    {rounds : Nat}
    {buffer : Bytes}
    (enough : buffer.length ≤ rounds) :
    scan rounds buffer = scanned buffer := by
  unfold scanned
  induction rounds using Nat.strongRecOn generalizing buffer with
  | ind rounds ih =>
    cases buffer with
    | nil => cases rounds <;> rfl
    | cons lead rest =>
      cases rounds with
      | zero => exact absurd enough (Nat.not_succ_le_zero _)
      | succ rounds =>
        rw [length_cons]
        cases step : scanStep lead rest with
        | hold => rw [scan_hold_round step, scan_hold_round step]
        | emit output advance =>
          obtain ⟨positive, -, -⟩ := scanStep_emit step
          rw [length_cons] at enough
          have shorter : ((lead :: rest).drop advance).length ≤ rest.length := by
            rw [length_drop, length_cons]
            omega
          have long := ih rounds (Nat.lt_succ_self _)
            (Nat.le_trans shorter (Nat.le_of_succ_le_succ enough))
          have exact_ := ih rest.length (by omega) shorter
          rw [scan_emit_round step, scan_emit_round step, long, exact_]

theorem scanned_hold
    (holds : scanStep lead rest = .hold) :
    scanned (lead :: rest) = ([], lead :: rest) :=
  scan_hold_round holds _

theorem scanned_emit
    {rest output : Bytes}
    (emits : scanStep lead rest = .emit output advance) :
    scanned (lead :: rest) =
      (output ++ (scanned ((lead :: rest).drop advance)).1,
        (scanned ((lead :: rest).drop advance)).2) := by
  obtain ⟨positive, -, -⟩ := scanStep_emit emits
  have enough : ((lead :: rest).drop advance).length ≤ rest.length := by
    rw [length_drop, length_cons]
    omega
  rw [scanned, length_cons, scan_emit_round emits, scan_rounds enough]

/-- Follows the scan: nothing left, a sequence held back, or one emitted. -/
theorem scanned_induction
    {motive : Bytes → Prop}
    (nil : motive [])
    (hold : ∀ lead rest, scanStep lead rest = .hold → motive (lead :: rest))
    (emit : ∀ lead rest output advance, scanStep lead rest = .emit output advance →
      motive ((lead :: rest).drop advance) → motive (lead :: rest))
    (buffer : Bytes) :
    motive buffer := by
  induction length : buffer.length using Nat.strongRecOn generalizing buffer with
  | ind size ih =>
    cases buffer with
    | nil => exact nil
    | cons lead rest =>
      cases step : scanStep lead rest with
      | hold => exact hold lead rest step
      | emit output advance =>
        obtain ⟨positive, fits, -⟩ := scanStep_emit step
        refine emit lead rest output advance step
          (ih _ ?_ _ rfl)
        rw [length_drop]
        omega

/-- A text may be scanned in two parts, the second behind what the first holds. -/
theorem scanned_append
    (front back : Bytes) :
    scanned (front ++ back) =
      ((scanned front).1 ++ (scanned ((scanned front).2 ++ back)).1,
        (scanned ((scanned front).2 ++ back)).2) := by
  induction front using scanned_induction with
  | nil => rfl
  | hold lead rest holds =>
    rw [scanned_hold holds]
    rfl
  | emit lead rest output advance emits ih =>
    obtain ⟨-, fits, stable⟩ := scanStep_emit emits
    rw [scanned_emit emits, cons_append, scanned_emit (stable back), ← cons_append,
      List.drop_append_of_le_length fits, ih, List.append_assoc]

/-- At most three bytes are held back. -/
theorem scanned_held_length
    (buffer : Bytes) :
    (scanned buffer).2.length ≤ 3 := by
  induction buffer using scanned_induction with
  | nil => exact Nat.zero_le _
  | hold lead rest holds =>
    rw [scanned_hold holds]
    exact scanStep_hold holds
  | emit lead rest output advance emits ih =>
    rw [scanned_emit emits]
    exact ih

/-! ## Code points -/

theorem exists_scalar
    {code : Nat}
    (scalar : code < 0xD800 ∨ (0xDFFF < code ∧ code < 0x110000)) :
    ∃ char : Char, char.val.toNat = code :=
  ⟨Char.ofNatAux code scalar, rfl⟩

theorem char_scalar
    (char : Char) :
    char.val.toNat < 0xD800 ∨
      (0xDFFF < char.val.toNat ∧ char.val.toNat < 0x110000) :=
  char.valid

theorem valid_of_code
    {code : Nat}
    {sequence : Bytes}
    (scalar : code < 0xD800 ∨ (0xDFFF < code ∧ code < 0x110000))
    (spells : ∀ char : Char, char.val.toNat = code →
      String.utf8EncodeChar char = sequence) :
    Utf8.Valid sequence := by
  obtain ⟨char, same⟩ := exists_scalar scalar
  refine ⟨[char], ?_⟩
  rw [Utf8.encode_cons, Utf8.encode_nil, append_nil, spells char same]

theorem continuationOk_first
    {lead byte : UInt8} :
    continuationOk lead 1 byte = true ↔
      0x80 ≤ byte.toNat ∧ byte.toNat ≤ 0xBF ∧
        (lead.toNat = 0xE0 → 0xA0 ≤ byte.toNat) ∧
        (lead.toNat = 0xED → byte.toNat ≤ 0x9F) ∧
        (lead.toNat = 0xF0 → 0x90 ≤ byte.toNat) ∧
        (lead.toNat = 0xF4 → byte.toNat ≤ 0x8F) := by
  unfold continuationOk
  simp only [UInt8.le_iff_toNat_le, UInt8.reduceToNat, ← UInt8.toNat_inj]
  split_ifs <;> simp only [Bool.and_eq_true, decide_eq_true_eq] <;> omega

theorem continuationOk_later
    {lead byte : UInt8}
    {k : Nat}
    (later : 1 < k) :
    continuationOk lead k byte = true ↔ 0x80 ≤ byte.toNat ∧ byte.toNat ≤ 0xBF := by
  unfold continuationOk
  simp only [UInt8.le_iff_toNat_le, UInt8.reduceToNat, later, if_true, Bool.and_eq_true,
    decide_eq_true_eq]

theorem two_valid
    {lead first : UInt8}
    (low : 0xC2 ≤ lead.toNat)
    (high : lead.toNat ≤ 0xDF)
    (allowed : continuationOk lead 1 first = true) :
    Utf8.Valid [lead, first] := by
  have bounds := continuationOk_first.mp allowed
  refine @valid_of_code ((lead.toNat - 0xC0) * 64 + (first.toNat - 0x80)) _ (by omega)
    fun char same => ?_
  unfold String.utf8EncodeChar
  dsimp only
  rw [same, if_neg (by omega), if_pos (by omega)]
  simp only [List.cons.injEq, ← UInt8.toNat_inj, UInt8.toNat_ofNat', and_true]
  omega

theorem three_valid
    {lead first second : UInt8}
    (low : 0xE0 ≤ lead.toNat)
    (high : lead.toNat ≤ 0xEF)
    (allowed : continuationOk lead 1 first = true)
    (next : continuationOk lead 2 second = true) :
    Utf8.Valid [lead, first, second] := by
  have bounds := continuationOk_first.mp allowed
  have tail := (continuationOk_later (by decide)).mp next
  refine @valid_of_code ((lead.toNat - 0xE0) * 4096 + (first.toNat - 0x80) * 64 +
    (second.toNat - 0x80)) _ (by omega) fun char same => ?_
  unfold String.utf8EncodeChar
  dsimp only
  rw [same, if_neg (by omega), if_neg (by omega), if_pos (by omega)]
  simp only [List.cons.injEq, ← UInt8.toNat_inj, UInt8.toNat_ofNat', and_true]
  omega

theorem four_valid
    {lead first second third : UInt8}
    (low : 0xF0 ≤ lead.toNat)
    (high : lead.toNat ≤ 0xF4)
    (allowed : continuationOk lead 1 first = true)
    (next : continuationOk lead 2 second = true)
    (last : continuationOk lead 3 third = true) :
    Utf8.Valid [lead, first, second, third] := by
  have bounds := continuationOk_first.mp allowed
  have tail := (continuationOk_later (by decide)).mp next
  have end_ := (continuationOk_later (by decide)).mp last
  refine @valid_of_code ((lead.toNat - 0xF0) * 262144 + (first.toNat - 0x80) * 4096 +
    (second.toNat - 0x80) * 64 + (third.toNat - 0x80)) _ (by omega) fun char same => ?_
  unfold String.utf8EncodeChar
  dsimp only
  rw [same, if_neg (by omega), if_neg (by omega), if_neg (by omega)]
  simp only [List.cons.injEq, ← UInt8.toNat_inj, UInt8.toNat_ofNat', and_true]
  omega

theorem continuation_complete_cons
    (complete : continuation lead k (missing + 1) rest = .complete) :
    ∃ byte more, rest = byte :: more ∧ continuationOk lead k byte = true ∧
      continuation lead (k + 1) missing more = .complete := by
  cases rest with
  | nil => cases complete
  | cons byte more =>
    rw [continuation] at complete
    split at complete
    next allowed => exact ⟨byte, more, rfl, allowed, complete⟩
    next => cases complete

theorem ascii_valid
    (ascii : lead < 0x80) :
    Utf8.Valid [lead] := by
  simp only [UInt8.lt_iff_toNat_lt, UInt8.reduceToNat] at ascii
  refine @valid_of_code lead.toNat _ (by omega) fun char same => ?_
  unfold String.utf8EncodeChar
  dsimp only
  rw [same, if_pos (by omega), UInt8.ofNat_toNat]

theorem replacement_valid : Utf8.Valid replacement :=
  ⟨['\uFFFD'], by decide⟩

/-- What one step emits is valid UTF-8, -/
theorem scanStep_valid
    {rest output : Bytes}
    (emits : scanStep lead rest = .emit output advance) :
    Utf8.Valid output := by
  rcases scanStep_cases lead rest with
    ⟨ascii, step⟩ | ⟨step, -⟩ | ⟨-, step⟩ | ⟨-, leads, verdict, step⟩
  · obtain ⟨rfl, rfl⟩ := ScanStep.emit.inj (step.symm.trans emits)
    exact ascii_valid ascii
  · obtain ⟨rfl, rfl⟩ := ScanStep.emit.inj (step.symm.trans emits)
    exact replacement_valid
  · exact nomatch step.symm.trans emits
  · obtain ⟨rfl, rfl⟩ := ScanStep.emit.inj (step.symm.trans emits)
    rcases sequenceLength_cases lead with
      none | ⟨low, high, two⟩ | ⟨low, high, three⟩ | ⟨low, high, four⟩
    · exact absurd none leads
    · rw [two] at verdict ⊢
      obtain ⟨first, more, rfl, allowed, -⟩ := continuation_complete_cons verdict
      exact two_valid low high allowed
    · rw [three] at verdict ⊢
      obtain ⟨first, more, rfl, allowed, verdict⟩ := continuation_complete_cons verdict
      obtain ⟨second, more, rfl, next, -⟩ := continuation_complete_cons verdict
      exact three_valid low high allowed next
    · rw [four] at verdict ⊢
      obtain ⟨first, more, rfl, allowed, verdict⟩ := continuation_complete_cons verdict
      obtain ⟨second, more, rfl, next, verdict⟩ := continuation_complete_cons verdict
      obtain ⟨third, more, rfl, last, -⟩ := continuation_complete_cons verdict
      exact four_valid low high allowed next last

/-- and so is what a scan emits. -/
theorem scanned_valid
    (buffer : Bytes) :
    Utf8.Valid (scanned buffer).1 := by
  induction buffer using scanned_induction with
  | nil => exact .nil
  | hold lead rest holds =>
    rw [scanned_hold holds]
    exact .nil
  | emit lead rest output advance emits ih =>
    rw [scanned_emit emits]
    exact .append (scanStep_valid emits) ih

/-! ## Valid text -/

theorem sequenceLength_two
    (low : 0xC2 ≤ lead.toNat)
    (high : lead.toNat ≤ 0xDF) :
    sequenceLength lead = 2 := by
  rw [sequenceLength, if_pos]
  simpa only [UInt8.le_iff_toNat_le] using ⟨low, high⟩

theorem sequenceLength_three
    (low : 0xE0 ≤ lead.toNat)
    (high : lead.toNat ≤ 0xEF) :
    sequenceLength lead = 3 := by
  unfold sequenceLength
  simp only [UInt8.le_iff_toNat_le, UInt8.reduceToNat]
  rw [if_neg (by omega), if_pos ⟨low, high⟩]

theorem sequenceLength_four
    (low : 0xF0 ≤ lead.toNat)
    (high : lead.toNat ≤ 0xF4) :
    sequenceLength lead = 4 := by
  unfold sequenceLength
  simp only [UInt8.le_iff_toNat_le, UInt8.reduceToNat]
  rw [if_neg (by omega), if_neg (by omega), if_pos ⟨low, high⟩]

/-- A complete sequence is well formed. -/
theorem wellFormed_sequence
    {others : Bytes}
    (wide : 0x80 ≤ lead.toNat)
    (length : sequenceLength lead = others.length + 1)
    (verdict : continuation lead 1 others.length others = .complete) :
    WellFormed (lead :: others) := by
  have notAscii : ¬ lead < 0x80 := by
    simp only [UInt8.lt_iff_toNat_lt, UInt8.reduceToNat]
    omega
  simp only [WellFormed, if_neg notAscii, length, Nat.add_sub_cancel]
  exact ⟨Nat.succ_ne_zero _, trivial, verdict⟩

theorem wellFormed_scalar
    (char : Char) :
    WellFormed (String.utf8EncodeChar char) := by
  have scalar := char_scalar char
  have small (part : Nat) (below : part < 256) : (UInt8.ofNat part).toNat = part := by
    rw [UInt8.toNat_ofNat', Nat.mod_eq_of_lt below]
  unfold String.utf8EncodeChar
  dsimp only
  generalize char.val.toNat = code at scalar
  split_ifs with one two three
  · have ascii : UInt8.ofNat code < 0x80 := by
      simp only [UInt8.lt_iff_toNat_lt, UInt8.reduceToNat]
      rw [small _ (by omega)]
      omega
    simp only [WellFormed, if_pos ascii]
  · have lead := small (code / 64 % 32 + 0xc0) (by omega)
    have first := small (code % 64 + 0x80) (by omega)
    refine wellFormed_sequence (by omega) (sequenceLength_two (by omega) (by omega)) ?_
    have allowed : continuationOk (UInt8.ofNat (code / 64 % 32 + 0xc0)) 1
        (UInt8.ofNat (code % 64 + 0x80)) = true := continuationOk_first.mpr (by omega)
    simp only [length_cons, length_nil, continuation, allowed, if_true]
  · have lead := small (code / 4096 % 16 + 0xe0) (by omega)
    have first := small (code / 64 % 64 + 0x80) (by omega)
    have second := small (code % 64 + 0x80) (by omega)
    refine wellFormed_sequence (by omega) (sequenceLength_three (by omega) (by omega)) ?_
    have allowed : continuationOk (UInt8.ofNat (code / 4096 % 16 + 0xe0)) 1
        (UInt8.ofNat (code / 64 % 64 + 0x80)) = true :=
      continuationOk_first.mpr (by omega)
    have next : continuationOk (UInt8.ofNat (code / 4096 % 16 + 0xe0)) 2
        (UInt8.ofNat (code % 64 + 0x80)) = true :=
      (continuationOk_later (by decide)).mpr (by omega)
    simp only [length_cons, length_nil, continuation, allowed, next, if_true]
  · have lead := small (code / 262144 % 8 + 0xf0) (by omega)
    have first := small (code / 4096 % 64 + 0x80) (by omega)
    have second := small (code / 64 % 64 + 0x80) (by omega)
    have third := small (code % 64 + 0x80) (by omega)
    refine wellFormed_sequence (by omega) (sequenceLength_four (by omega) (by omega)) ?_
    have allowed : continuationOk (UInt8.ofNat (code / 262144 % 8 + 0xf0)) 1
        (UInt8.ofNat (code / 4096 % 64 + 0x80)) = true :=
      continuationOk_first.mpr (by omega)
    have next : continuationOk (UInt8.ofNat (code / 262144 % 8 + 0xf0)) 2
        (UInt8.ofNat (code / 64 % 64 + 0x80)) = true :=
      (continuationOk_later (by decide)).mpr (by omega)
    have last : continuationOk (UInt8.ofNat (code / 262144 % 8 + 0xf0)) 3
        (UInt8.ofNat (code % 64 + 0x80)) = true :=
      (continuationOk_later (by decide)).mpr (by omega)
    simp only [length_cons, length_nil, continuation, allowed, next, last,
      if_true]

theorem validUtf8_of_valid
    {text : Bytes}
    (valid : Utf8.Valid text) :
    ValidUtf8 text := by
  obtain ⟨chars, rfl⟩ := valid
  induction chars with
  | nil => exact .nil
  | cons char chars ih =>
    exact .cons (wellFormed_scalar char) ih

/-- Valid text is emitted as it is. -/
theorem scanned_of_valid
    {text : Bytes}
    (valid : Utf8.Valid text) :
    scanned text = (text, []) := by
  have whole : ValidUtf8 (text ++ []) := by
    rw [append_nil]
    exact validUtf8_of_valid valid
  obtain ⟨kept, -, nothing⟩ := scan_valid whole text.length (Nat.le_refl _)
  have held : (scanned text).2 = [] := nothing.resolve_right (fun more => more rfl)
  refine Prod.ext ?_ held
  rw [← append_nil (scanned text).1, ← held]
  exact kept

/-! ## Calls -/

/-- What a scan holds is held again. -/
theorem scanned_held
    (buffer : Bytes) :
    scanned (scanned buffer).2 = ([], (scanned buffer).2) := by
  have again := scanned_append buffer []
  rw [append_nil, append_nil] at again
  have outputs := congrArg Prod.fst again
  have rests := congrArg Prod.snd again
  exact Prod.ext (List.append_cancel_left ((append_nil _).trans outputs)).symm
    rests.symm

/-- Between calls what is held begins a sequence. -/
structure Idle (held : Bytes) : Prop where
  again : scanned held = ([], held)
  few : held.length ≤ 3

theorem idle_fresh : Idle [] :=
  ⟨rfl, by decide⟩

/-- Each call leaves only an unfinished sequence behind. -/
theorem call_idle
    (held : Bytes)
    (made : Call) :
    Idle (call held made).2 := by
  cases made with
  | push text => exact ⟨scanned_held _, scanned_held_length _⟩
  | flush => exact idle_fresh

theorem call_valid
    (held : Bytes)
    (made : Call) :
    Utf8.Valid (call held made).1 := by
  cases made with
  | push text => exact scanned_valid _
  | flush =>
    unfold call flush
    split_ifs
    · exact .nil
    · exact replacement_valid

theorem calls_spec
    {held : Bytes}
    (idle : Idle held)
    (history : List Call) :
    Idle (calls held history).2 ∧
      ∀ output ∈ (calls held history).1, Utf8.Valid output := by
  induction history generalizing held with
  | nil => exact ⟨idle, fun output listed => absurd listed List.not_mem_nil⟩
  | cons made rest ih =>
    obtain ⟨last, outputs⟩ := ih (call_idle held made)
    exact ⟨last, List.forall_mem_cons.mpr ⟨call_valid held made, outputs⟩⟩

/-- Pieces pushed one by one come out as their concatenation does. -/
theorem calls_push
    {held : Bytes}
    (idle : Idle held)
    (pieces : List Bytes)
    (rest : List Call) :
    (calls held (pieces.map Call.push ++ rest)).1.flatten =
      (scanned (held ++ pieces.flatten)).1 ++
        (calls (scanned (held ++ pieces.flatten)).2 rest).1.flatten := by
  induction pieces generalizing held with
  | nil =>
    rw [List.flatten_nil, append_nil, idle.again]
    rfl
  | cons piece pieces ih =>
    have next := ih (call_idle held (.push piece))
    rw [List.map_cons, cons_append, calls, List.flatten_cons, next,
      List.flatten_cons, ← List.append_assoc held, scanned_append (held ++ piece),
      List.append_assoc]
    rfl

theorem reply_eq
    (pieces : List Bytes) :
    reply pieces =
      (push [] pieces.flatten).1 ++ flush (push [] pieces.flatten).2 := by
  rw [reply, calls_push idle_fresh pieces [.flush]]
  exact congrArg _ (append_nil _)

/--
Where a text is cut does not change what comes out, everything that comes out is valid
UTF-8, valid text comes out as it is, and at most three bytes are ever held.
-/
theorem chunking_independent_and_valid :
    (∀ pieces : List Bytes,
      reply pieces =
        (push [] pieces.flatten).1 ++ flush (push [] pieces.flatten).2) ∧
      (∀ history : List Call,
        ∀ output ∈ (calls [] history).1, Utf8.Valid output) ∧
      (∀ pieces : List Bytes, Utf8.Valid pieces.flatten →
        reply pieces = pieces.flatten) ∧
      ∀ history : List Call, (calls [] history).2.length ≤ 3 := by
  refine ⟨reply_eq, fun history => (calls_spec idle_fresh history).2,
    fun pieces valid => ?_, fun history => (calls_spec idle_fresh history).1.few⟩
  have whole : push [] pieces.flatten = (pieces.flatten, []) := scanned_of_valid valid
  rw [reply_eq, whole]
  exact append_nil _

/-- A code point in two pieces, then one that never ends. -/
example :
    reply [[0xF0, 0x9F], [0x98, 0x80, 0xC3]] =
      [0xF0, 0x9F, 0x98, 0x80, 0xEF, 0xBF, 0xBD] := by
  decide

end Aeon.Text.Utf8Chunker
