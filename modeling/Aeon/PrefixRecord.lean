import Aeon.ConversationSeam

namespace Aeon.Session

/-!
# The resident-state record

`PrefixRecord` describes the layer state a live conversation keeps on the
devices: the token ids it was fed, in order, and the computation key it was built
under.  `plan` decides from it whether a prompt can keep the resident state.  The
decision is all or nothing, so a prefix that diverges anywhere is a cold replay.
-/

/-- `ReuseDecision`. -/
structure ReuseDecision where
  verdict : ReuseVerdict := .cold
  start : Nat := 0
  divergedAt : Nat := 0
  deriving Repr, DecidableEq

/-- The `logic_error` of `feed`: the position given and the one expected. -/
structure PositionGap where
  position : Nat
  expected : Nat
  deriving Repr, DecidableEq

/-- `PrefixRecord`. -/
structure PrefixRecord where
  ids : List Nat := []
  key : Bytes := []
  deriving Repr, DecidableEq

namespace PrefixRecord

/-- `PrefixRecord::clear`. -/
def clear (_ : PrefixRecord) : PrefixRecord :=
  { ids := [], key := [] }

variable (record : PrefixRecord)

/-- `PrefixRecord::begin`. -/
def begin
    (computationKey : Bytes) : PrefixRecord :=
  { record.clear with key := computationKey }

/-- `PrefixRecord::feed`. -/
def feed
    (position tokenId : Nat) : Except PositionGap PrefixRecord :=
  if position ≠ record.ids.length then
    .error { position, expected := record.ids.length }
  else
    .ok { record with ids := record.ids ++ [tokenId] }

/-- The token comparison of `plan`: the first index that differs. -/
def firstDivergence : List Nat → List Nat → Nat → Option Nat
  | [], _, _ => none
  | _ :: _, [], index => some index
  | id :: ids, token :: prompt, index =>
    if id ≠ token then some index
    else firstDivergence ids prompt (index + 1)

/-- `PrefixRecord::plan`. -/
def plan
    (prompt : List Nat)
    (computationKey : Bytes) : ReuseDecision :=
  if record.ids.isEmpty then
    { verdict := .cold }
  else if record.key ≠ computationKey then
    { verdict := .keyChanged }
  else if prompt.length ≤ record.ids.length then
    { verdict := .noTail }
  else
    match firstDivergence record.ids prompt 0 with
    | some index => { verdict := .diverged, divergedAt := index }
    | none => { verdict := .reused, start := record.ids.length }

/-- Nothing diverges exactly when the record's ids are a prefix of the prompt. -/
theorem firstDivergence_eq_none
    (ids prompt : List Nat)
    (index : Nat) :
    firstDivergence ids prompt index = none ↔ ids <+: prompt := by
  induction ids generalizing prompt index with
  | nil =>
    simp [firstDivergence]
  | cons id ids ih =>
    cases prompt with
    | nil =>
      simp [firstDivergence]
    | cons token prompt =>
      by_cases same : id = token
      · simp [firstDivergence, same, List.cons_prefix_cons,
          ih]
      · simp [firstDivergence, same, List.cons_prefix_cons]

/-- The condition under which `plan` keeps the resident state. -/
theorem plan_reused_iff
    (prompt : List Nat)
    (computationKey : Bytes) :
    (record.plan prompt computationKey).verdict = .reused ↔
      record.ids ≠ [] ∧
        record.key = computationKey ∧
        record.ids.length < prompt.length ∧
        record.ids <+: prompt := by
  have same := firstDivergence_eq_none record.ids prompt 0
  unfold plan
  split
  · next empty => simp_all
  · next nonempty =>
      split
      · next changed => simp [changed]
      · next unchanged =>
          split
          · next noTail => simp [Nat.not_lt.mpr noTail]
          · next tail =>
              split
              · next index found => simp_all
              · next found => simp_all

/-- A prompt starts behind the record exactly if it reuses it. -/
theorem plan_start
    (prompt : List Nat)
    (computationKey : Bytes) :
    (record.plan prompt computationKey).start =
      if (record.plan prompt computationKey).verdict = .reused then
        record.ids.length
      else 0 := by
  unfold plan
  repeat' split
  all_goals simp_all

/-- Fed at its own end, a record grows by the token. -/
theorem feed_next
    (tokenId : Nat) :
    record.feed record.ids.length tokenId =
      .ok { record with ids := record.ids ++ [tokenId] } := by
  simp [feed]

end PrefixRecord

end Aeon.Session
