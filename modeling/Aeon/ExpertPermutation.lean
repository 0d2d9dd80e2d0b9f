import Aeon.GroupedStores

namespace Aeon.Rdna3

/-!
# The expert permutation

`dispatch_expert_permutation` gathers a chunk's draws expert after expert by a counting
sort: one block counts and scans, then a block an expert places its draws.  What a
launch does lands in any order.
-/

/-- The order in which the work of each launch lands. -/
structure Schedule where
  order : {Work : Type} → Nat → List Work → List Work
  perm : ∀ {Work : Type} (launch : Nat) (work : List Work),
    (order launch work).Perm work

/-- The buffers of a permutation. -/
structure DrawPermutation (Weight : Type) where
  expertOffsets : Nat → Nat
  tokenIndices : Nat → Nat
  drawIndices : Nat → Nat
  weights : Nat → Weight

section Kernels

variable (ids : Nat → Int) (draws expertCount : Nat)

/-- The atomic addition of a draw; an id outside the range is dropped. -/
def countDraw (histogram : Nat → Nat) (draw : Nat) : Nat → Nat :=
  if 0 ≤ ids draw ∧ ids draw < expertCount then
    Function.update histogram (ids draw).toNat (histogram (ids draw).toNat + 1)
  else histogram

/-- An expert of the serial scan: the offsets and `running`. -/
def scanExpert
    (histogram : Nat → Nat)
    (state : (Nat → Nat) × Nat)
    (expert : Nat) : (Nat → Nat) × Nat :=
  (Function.update state.1 expert state.2, state.2 + histogram expert)

/-- `expert_permutation_offsets_kernel`, the atomics in this order. -/
def offsetsKernel (order : List Nat) (expertOffsets : Nat → Nat) : Nat → Nat :=
  let histogram := order.foldl (countDraw ids expertCount) fun _ => 0
  let scan := (List.range expertCount).foldl (scanExpert histogram) (expertOffsets, 0)
  Function.update scan.1 expertCount scan.2

/-- A block's walk over the draws: the positions and draws it stores. -/
def scatterWalk (expert last : Nat) : List Nat → Nat → List (Nat × Nat)
  | [], _ => []
  | draw :: rest, position =>
    if position < last then
      if ids draw = expert then
        (position, draw) :: scatterWalk expert last rest (position + 1)
      else scatterWalk expert last rest position
    else []

/-- The stores of `expert_permutation_scatter_kernel`, block after block. -/
def scatterStores (expertOffsets : Nat → Nat) : List (Nat × Nat) :=
  (List.range expertCount).flatMap fun expert =>
    scatterWalk ids expert (expertOffsets (expert + 1)) (List.range draws)
      (expertOffsets expert)

/--
`dispatch_expert_permutation`; `none` is a refused shape.  Its `int` counters hold fewer
than 2^31 draws, less a block.
-/
def dispatchExpertPermutation
    {Weight : Type}
    (schedule : Schedule)
    (slots : Nat)
    (weightsByDraw : Nat → Weight)
    (before : DrawPermutation Weight) : Option (DrawPermutation Weight) :=
  if slots = 0 ∨ expertCount = 0 ∨ 1024 < expertCount then none
  else
    let expertOffsets := offsetsKernel ids expertCount
      (schedule.order 0 (List.range draws)) before.expertOffsets
    let stores := schedule.order 1 (scatterStores ids draws expertCount expertOffsets)
    let drawIndices := fillSlab stores before.drawIndices
    some
      { expertOffsets
        tokenIndices := fillSlab
          (stores.map fun store => (store.1, store.2 / slots)) before.tokenIndices
        drawIndices
        weights := fun position =>
          if position < draws then weightsByDraw (drawIndices position)
          else before.weights position }

/-- The draws of an expert, in index order. -/
def chosenBy (expert : Nat) : List Nat :=
  (List.range draws).filter fun draw => ids draw = expert

/-- The draws of the first experts, expert after expert. -/
def gathered (experts : Nat) : List Nat :=
  (List.range experts).flatMap (chosenBy ids draws)

end Kernels

/-- A cell whose every store puts one value holds it, once it did or one store is there. -/
theorem fillSlab_of_agree
    {Value : Type}
    {stores : List (Nat × Value)}
    {cell : Nat}
    {value : Value}
    (agree : ∀ store ∈ stores, store.1 = cell → store.2 = value)
    (before : Nat → Value)
    (holds : before cell = value ∨ ∃ store ∈ stores, store.1 = cell) :
    fillSlab stores before cell = value := by
  induction stores generalizing before with
  | nil => exact holds.resolve_right fun ⟨_, member, _⟩ => nomatch member
  | cons first rest ih =>
    refine ih (fun store member => agree store (.tail _ member)) _ ?_
    by_cases here : first.1 = cell
    · subst here
      exact .inl ((Function.update_self ..).trans (agree first (.head _) rfl))
    · refine holds.imp (Function.update_of_ne (Ne.symm here) ..).trans ?_
      rintro ⟨store, member, same⟩
      rcases List.mem_cons.mp member with rfl | later
      · exact absurd same here
      · exact ⟨store, later, same⟩

variable {ids : Nat → Int} {draws expertCount : Nat}

theorem gathered_succ (experts : Nat) :
    gathered ids draws (experts + 1) =
      gathered ids draws experts ++ chosenBy ids draws experts := by
  simp [gathered, List.range_succ]

theorem histogram_eq
    {order : List Nat}
    {expert : Nat}
    (inside : expert < expertCount)
    (perm : order.Perm (List.range draws)) :
    order.foldl (countDraw ids expertCount) (fun _ => 0) expert =
      (chosenBy ids draws expert).length := by
  have counted : ∀ (order : List Nat) (histogram : Nat → Nat),
      order.foldl (countDraw ids expertCount) histogram expert =
        histogram expert + order.countP fun draw => ids draw = expert := by
    intro order
    induction order with
    | nil => exact fun _ => rfl
    | cons draw rest ih =>
      intro histogram
      rw [List.foldl_cons, ih, List.countP_cons, countDraw]
      by_cases same : ids draw = expert
      · simp [same, inside]
        omega
      · have apart : expert ≠ (ids draw).toNat ∨ ¬ 0 ≤ ids draw := by omega
        split <;> simp_all [Function.update_of_ne]
  rw [counted, Nat.zero_add, perm.countP_eq, List.countP_eq_length_filter]
  rfl

/-- The offsets are the numbers of draws of the experts before. -/
theorem offsetsKernel_eq
    {order : List Nat}
    (perm : order.Perm (List.range draws))
    (expertOffsets : Nat → Nat)
    {expert : Nat}
    (inside : expert ≤ expertCount) :
    offsetsKernel ids expertCount order expertOffsets expert =
      (gathered ids draws expert).length := by
  have scanned : ∀ count ≤ expertCount,
      let scan := (List.range count).foldl
        (scanExpert (order.foldl (countDraw ids expertCount) fun _ => 0))
        (expertOffsets, 0)
      scan.2 = (gathered ids draws count).length ∧
        ∀ expert < count, scan.1 expert = (gathered ids draws expert).length := by
    intro count
    induction count with
    | zero => exact fun _ => ⟨rfl, fun _ impossible => nomatch impossible⟩
    | succ count ih =>
      intro small
      obtain ⟨running, offsets⟩ := ih (by omega)
      rw [List.range_succ, List.foldl_append, gathered_succ, List.length_append]
      refine ⟨?_, fun expert below => ?_⟩
      · exact congrArg₂ (· + ·) running (histogram_eq small perm)
      · by_cases last : expert = count
        · subst last
          exact (Function.update_self ..).trans running
        · exact (Function.update_of_ne last ..).trans (offsets expert (by omega))
  obtain ⟨running, offsets⟩ := scanned expertCount le_rfl
  rw [offsetsKernel]
  by_cases last : expert = expertCount
  · subst last
    exact (Function.update_self ..).trans running
  · exact (Function.update_of_ne last ..).trans (offsets expert (by omega))

/-- A block stores its draws in index order, one position after another. -/
theorem scatterWalk_eq
    (expert : Nat)
    (walked : List Nat)
    (position : Nat) :
    let own := walked.filter fun draw => ids draw = expert
    scatterWalk ids expert (position + own.length) walked position =
      (own.zipIdx position).map Prod.swap := by
  induction walked generalizing position with
  | nil => rfl
  | cons draw rest ih =>
    dsimp only at ih ⊢
    rw [scatterWalk]
    by_cases same : ids draw = expert
    · have next := ih (position + 1)
      rw [List.filter_cons_of_pos (by simpa using same), List.length_cons,
        if_pos (by omega), if_pos same, List.zipIdx_cons, List.map_cons, ← next]
      grind
    · rw [List.filter_cons_of_neg (by simpa using same), if_neg same, ih]
      split
      next => rfl
      next full =>
        have none_ : (rest.filter fun draw => ids draw = expert) = [] :=
          List.eq_nil_of_length_eq_zero (by omega)
        rw [none_]
        rfl

theorem scatterStores_eq
    {expertOffsets : Nat → Nat}
    (offsets : ∀ expert ≤ expertCount,
      expertOffsets expert = (gathered ids draws expert).length) :
    scatterStores ids draws expertCount expertOffsets =
      (gathered ids draws expertCount).zipIdx.map Prod.swap := by
  induction expertCount with
  | zero => rfl
  | succ count ih =>
    have walk := @scatterWalk_eq ids count (List.range draws)
      (gathered ids draws count).length
    rw [scatterStores, List.range_succ, List.flatMap_append, ← scatterStores,
      ih fun expert small => offsets expert (by omega), gathered_succ,
      List.zipIdx_append, List.map_append, List.flatMap_singleton,
      offsets count (by omega), offsets (count + 1) le_rfl, gathered_succ,
      List.length_append, Nat.zero_add]
    exact congrArg _ walk

theorem mem_scatterStores
    {expertOffsets : Nat → Nat}
    (offsets : ∀ expert ≤ expertCount,
      expertOffsets expert = (gathered ids draws expert).length)
    {store : Nat × Nat} :
    store ∈ scatterStores ids draws expertCount expertOffsets ↔
      (gathered ids draws expertCount)[store.1]? = some store.2 := by
  rw [scatterStores_eq offsets, List.mem_map_swap, List.mem_zipIdx_iff_getElem?]

theorem mem_gathered {draw : Nat} :
    draw ∈ gathered ids draws expertCount ↔
      draw < draws ∧ 0 ≤ ids draw ∧ ids draw < expertCount := by
  simp only [gathered, chosenBy, List.mem_flatMap, List.mem_filter, List.mem_range,
    decide_eq_true_eq]
  constructor
  · rintro ⟨expert, inside, known, same⟩
    omega
  · rintro ⟨inside, atLeast, below⟩
    exact ⟨(ids draw).toNat, by omega, inside, by omega⟩

theorem gathered_nodup : (gathered ids draws expertCount).Nodup := by
  refine List.nodup_flatMap.mpr ⟨fun _ _ => List.nodup_range.filter _, ?_⟩
  refine List.nodup_range.imp fun apart draw first second => ?_
  have one := (List.mem_filter.mp first).2
  have other := (List.mem_filter.mp second).2
  simp only [decide_eq_true_eq] at one other
  omega

/-- No more draws are gathered than there are. -/
theorem gathered_length_le : (gathered ids draws expertCount).length ≤ draws := by
  have within : gathered ids draws expertCount ⊆ List.range draws := fun _ member =>
    List.mem_range.mpr (mem_gathered.mp member).1
  simpa using (gathered_nodup.subperm within).length_le

/-- What a dispatched permutation holds. -/
structure Permuted
    {Weight : Type}
    (ids : Nat → Int)
    (draws slots expertCount : Nat)
    (weightsByDraw : Nat → Weight)
    (after : DrawPermutation Weight) : Prop where
  offsets : ∀ expert ≤ expertCount,
    after.expertOffsets expert = (gathered ids draws expert).length
  placed : ∀ position draw,
    (gathered ids draws expertCount)[position]? = some draw →
      after.drawIndices position = draw ∧ after.tokenIndices position = draw / slots ∧
        after.weights position = weightsByDraw draw

theorem dispatchExpertPermutation_spec
    {Weight : Type}
    {schedule : Schedule}
    {slots : Nat}
    {weightsByDraw : Nat → Weight}
    {before after : DrawPermutation Weight}
    (dispatched : dispatchExpertPermutation ids draws expertCount schedule slots
      weightsByDraw before = some after) :
    Permuted ids draws slots expertCount weightsByDraw after := by
  rw [dispatchExpertPermutation] at dispatched
  split at dispatched
  next => cases dispatched
  next =>
    obtain rfl := Option.some.inj dispatched
    have offsets := fun expert => @offsetsKernel_eq ids draws expertCount _
      (schedule.perm 0 (List.range draws)) before.expertOffsets expert
    have stored := fun store => ((schedule.perm 1 _).mem_iff (a := store)).trans
      (mem_scatterStores offsets)
    refine ⟨offsets, fun position draw here => ?_⟩
    have drawn : fillSlab _ before.drawIndices position = draw :=
      fillSlab_of_agree
        (fun store member same => Option.some.inj
          (((stored store).mp member).symm.trans (same ▸ here)))
        _ (.inr ⟨(position, draw), (stored _).mpr here, rfl⟩)
    refine ⟨drawn, fillSlab_of_agree ?_ _ (.inr ?_), ?_⟩
    · intro store member same
      obtain ⟨plain, placed, rfl⟩ := List.mem_map.mp member
      exact congrArg (· / slots) (Option.some.inj
        (((stored plain).mp placed).symm.trans (same ▸ here)))
    · exact ⟨_, List.mem_map.mpr ⟨(position, draw), (stored _).mpr here, rfl⟩, rfl⟩
    · have small := (List.getElem?_eq_some_iff.mp here).1
      exact (if_pos (small.trans_le gathered_length_le)).trans
        (congrArg weightsByDraw drawn)

/-- A counting sort, stable, whatever order the work lands in. -/
theorem dispatchExpertPermutation_sorts
    {Weight : Type}
    {schedule : Schedule}
    {slots : Nat}
    {weightsByDraw : Nat → Weight}
    {before after : DrawPermutation Weight}
    (dispatched : dispatchExpertPermutation ids draws expertCount schedule slots
      weightsByDraw before = some after) :
    Permuted ids draws slots expertCount weightsByDraw after ∧
      (gathered ids draws expertCount).Perm
        ((List.range draws).filter fun draw =>
          0 ≤ ids draw ∧ ids draw < expertCount) := by
  refine ⟨dispatchExpertPermutation_spec dispatched, ?_⟩
  refine (List.perm_ext_iff_of_nodup gathered_nodup (List.nodup_range.filter _)).mpr ?_
  intro draw
  simp [mem_gathered]

theorem three_draws_sorted :
    ∃ after, dispatchExpertPermutation (fun draw => draw % 2) 3 2
        ⟨fun _ work => work, fun _ _ => .refl _⟩ 3 id ⟨id, id, id, id⟩ = some after ∧
      Permuted (fun draw => draw % 2) 3 3 2 id after ∧
      (gathered (fun draw => draw % 2) 3 2).Perm [0, 1, 2] :=
  ⟨_, rfl, dispatchExpertPermutation_sorts rfl⟩

end Aeon.Rdna3
