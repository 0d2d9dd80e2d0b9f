import Aeon.DemandPaging
import Aeon.ReuseCurve
import Mathlib.Data.Finset.Max
import Mathlib.Data.Prod.Lex

namespace Aeon.RoutingReuse

open Finset Aeon.DemandPaging
open Function (update update_of_ne update_self)

/-!
# The curve of the farthest next use

`opt_hit_rate` replays the stream with Belady's rule: of a full cache it gives up the
expert whose next request is farthest away, counted or not.  The hits it reports are
the counted ones only.
-/

/--
The backward pass: the next position of every expert from `i` on, and for each request
the next position of its expert after it.
-/
def nextPositions (never : Nat) : Nat → List Nat → (Nat → Nat) × List Nat
  | _, [] => (fun _ => never, [])
  | i, gid :: rest =>
    let (lastSeen, nextPos) := nextPositions never (i + 1) rest
    (update lastSeen gid i, lastSeen gid :: nextPos)

/-- The locals of the replay; `resident` is ordered by next use, then by expert. -/
structure OptState where
  resident : Finset (Nat ×ₗ Nat) := ∅
  inCache : Nat → Bool := fun _ => false
  keyOf : Nat → Nat := fun _ => 0
  hits : Nat := 0

/-- `std::prev(resident.end())` -/
def lastResident (resident : Finset (Nat ×ₗ Nat)) : Option (Nat ×ₗ Nat) :=
  if nonempty : resident.Nonempty then some (resident.max' nonempty) else none

namespace OptState

variable (state : OptState)

/-- The victim leaves. -/
def evict : OptState :=
  match lastResident state.resident with
  | none => state
  | some victim =>
    { state with
      inCache := update state.inCache (ofLex victim).2 false
      resident := state.resident.erase victim }

/-- The expert is resident under its next use. -/
def settle (gid key : Nat) : OptState :=
  { state with
    keyOf := update state.keyOf gid key
    resident := insert (toLex (key, gid)) state.resident }

/-- One request of the replay. -/
def serve (capacity gid : Nat) (counted : Bool) (next : Nat) : OptState :=
  if state.inCache gid then
    let moved :=
      { state with
        resident := state.resident.erase (toLex (state.keyOf gid, gid)) }.settle gid next
    if counted then { moved with hits := moved.hits + 1 } else moved
  else
    let roomy := if state.resident.card ≥ capacity then state.evict else state
    { roomy with inCache := update roomy.inCache gid true }.settle gid next

/-- The replay of a stream whose next positions are known. -/
def replay (capacity : Nat) : OptState → List (Nat × Bool × Nat) → OptState
  | state, [] => state
  | state, (gid, counted, next) :: rest =>
    (state.serve capacity gid counted next).replay capacity rest

end OptState

/-- The counted hits `opt_hit_rate` divides by the observed requests. -/
def RoutingReuseProfiler.optHits
    (profiler : RoutingReuseProfiler)
    (capacity : Nat) : Nat :=
  if profiler.observed = 0 ∨ profiler.streamIds = [] ∨ capacity = 0 then 0
  else
    let never := profiler.streamIds.length + 1
    let nextPos := (nextPositions never 0 profiler.streamIds).2
    (OptState.replay capacity {}
      (profiler.streamIds.zip (profiler.streamCounted.zip nextPos))).hits

/-! ## What is given up -/

/-- The requests still to come, without their next positions. -/
def upcoming (rest : List (Nat × Bool × Nat)) : List (Nat × Bool) :=
  rest.map fun request => (request.1, request.2.1)

/--
Whether serving a request gives up an expert whose next request is counted while
another one stays whose next request is not.
-/
def OptState.sacrifices
    (state : OptState)
    (capacity gid : Nat)
    (rest : List (Nat × Bool)) : Prop :=
  state.inCache gid = false ∧ capacity ≤ state.resident.card ∧
    ∃ victim ∈ lastResident state.resident,
      nextCounted rest (ofLex victim).2 = some true ∧
        ∃ other ∈ state.resident, nextCounted rest (ofLex other).2 = some false

/-- A replay that never makes such a sacrifice. -/
def NeverSacrifices
    (capacity : Nat) : OptState → List (Nat × Bool × Nat) → Prop
  | _, [] => True
  | state, (gid, counted, next) :: rest =>
    ¬ state.sacrifices capacity gid (upcoming rest) ∧
      NeverSacrifices capacity (state.serve capacity gid counted next) rest

/-! ## The resident set -/

namespace OptState

/-- The three tables describe one cache, each expert under its key. -/
structure Holds
    (state : OptState)
    (cache : Finset Nat)
    (key : Nat → Nat) : Prop where
  resident : state.resident = cache.image fun gid => toLex (key gid, gid)
  inCache : ∀ gid, state.inCache gid = decide (gid ∈ cache)
  keyOf : ∀ gid ∈ cache, state.keyOf gid = key gid

section Tables

variable {state : OptState} {cache : Finset Nat} {key : Nat → Nat} {gid next : Nat}

section

variable
    (holds : state.Holds cache key)

include holds

theorem Holds.mem
    {entry : Nat ×ₗ Nat} :
    entry ∈ state.resident ↔
      (ofLex entry).2 ∈ cache ∧ (ofLex entry).1 = key (ofLex entry).2 := by
  rw [holds.resident, mem_image]
  constructor
  · rintro ⟨gid, member, rfl⟩
    exact ⟨member, rfl⟩
  · rintro ⟨member, same⟩
    exact ⟨_, member, by rw [← same]; rfl⟩

theorem Holds.card :
    state.resident.card = cache.card := by
  rw [holds.resident]
  refine card_image_of_injective _ fun first second same => ?_
  exact congrArg (fun entry => (ofLex entry).2) same

theorem Holds.victim
    {victim : Nat ×ₗ Nat}
    (last : lastResident state.resident = some victim) :
    (ofLex victim).2 ∈ cache ∧
      ∀ other ∈ cache, key other ≤ key (ofLex victim).2 := by
  unfold lastResident at last
  split at last
  next nonempty =>
    obtain rfl := Option.some.inj last
    obtain ⟨member, same⟩ := holds.mem.mp (max'_mem _ nonempty)
    refine ⟨member, fun other resident => ?_⟩
    have below := le_max' state.resident (toLex (key other, other))
      (holds.mem.mpr ⟨resident, rfl⟩)
    have ordered := Prod.Lex.le_iff.mp below
    rw [← same]
    rcases ordered with before | ⟨equal, -⟩
    · exact before.le
    · exact equal.le
  next => exact nomatch last

theorem Holds.evict
    {victim : Nat ×ₗ Nat}
    (last : lastResident state.resident = some victim) :
    state.evict.Holds (cache.erase (ofLex victim).2) key := by
  obtain ⟨member, -⟩ := holds.victim last
  have here : victim ∈ state.resident := by
    unfold lastResident at last
    split at last
    next nonempty => exact Option.some.inj last ▸ max'_mem _ nonempty
    next => exact nomatch last
  have same := (holds.mem.mp here).2
  rw [OptState.evict, last]
  constructor
  · ext entry
    rw [mem_erase, holds.mem, mem_image]
    constructor
    · rintro ⟨different, resident, keyed⟩
      refine ⟨(ofLex entry).2, mem_erase.mpr ⟨fun equal => different ?_, resident⟩, ?_⟩
      · refine ofLex_inj.mp (Prod.ext ?_ equal)
        rw [keyed, same, equal]
      · rw [← keyed]
        rfl
    · rintro ⟨gid, resident, rfl⟩
      obtain ⟨different, inside⟩ := mem_erase.mp resident
      exact ⟨fun equal => different (congrArg (fun entry => (ofLex entry).2) equal),
        inside, rfl⟩
  · intro gid
    by_cases equal : gid = (ofLex victim).2
    · simp [equal]
    · simp [equal, holds.inCache]
  · intro gid resident
    exact holds.keyOf gid (mem_of_mem_erase resident)

/-- An expert enters under its next use. -/
theorem Holds.enter
    (absent : gid ∉ cache) :
    ({ state with
        inCache := update state.inCache gid true }.settle gid next).Holds
      (insert gid cache) (update key gid next) := by
  have others : ∀ other ∈ cache, update key gid next other = key other :=
    fun other member => update_of_ne (ne_of_mem_of_not_mem member absent) _ _
  constructor
  · have same :
        cache.image (fun other => toLex (update key gid next other, other)) =
          cache.image fun other => toLex (key other, other) :=
      image_congr fun other member => by
        simp only [others other (mem_coe.mp member)]
    rw [image_insert, update_self, same, ← holds.resident]
    rfl
  · intro other
    by_cases equal : other = gid
    · simp [OptState.settle, equal]
    · simp [OptState.settle, equal, holds.inCache]
  · intro other member
    simp only [OptState.settle]
    by_cases equal : other = gid
    · simp [equal]
    · rw [update_of_ne equal, update_of_ne equal]
      exact holds.keyOf other ((mem_insert.mp member).resolve_left equal)

/-- A resident expert is moved to its next use. -/
theorem Holds.renew
    (member : gid ∈ cache) :
    ({ state with
        resident :=
          state.resident.erase (toLex (state.keyOf gid, gid)) }.settle gid next).Holds
      cache (update key gid next) := by
  constructor
  · ext entry
    rw [OptState.settle, mem_insert, mem_erase, holds.mem, holds.keyOf gid member,
      mem_image]
    constructor
    · rintro (rfl | ⟨different, resident, keyed⟩)
      · exact ⟨gid, member, by rw [update_self]⟩
      · refine ⟨(ofLex entry).2, resident, ?_⟩
        rw [update_of_ne, ← keyed]
        · rfl
        · intro equal
          refine different (ofLex_inj.mp (Prod.ext ?_ equal))
          rw [keyed, equal]
          rfl
    · rintro ⟨other, resident, rfl⟩
      by_cases equal : other = gid
      · subst equal
        exact .inl (by rw [update_self])
      · refine .inr ⟨fun same => equal ?_, resident, update_of_ne equal _ _⟩
        exact congrArg (fun entry => (ofLex entry).2) same
  · exact holds.inCache
  · intro other resident
    simp only [OptState.settle]
    by_cases equal : other = gid
    · simp [equal]
    · rw [update_of_ne equal, update_of_ne equal]
      exact holds.keyOf other resident

end

end Tables

end OptState

/-! ## Next uses -/

/-- The next position of every expert from a position on. -/
def nextUse (never i : Nat) (ids : List Nat) : Nat → Nat :=
  (nextPositions never i ids).1

theorem nextUse_cons
    (never i gid : Nat)
    (rest : List Nat) :
    nextUse never i (gid :: rest) =
      update (nextUse never (i + 1) rest) gid i :=
  rfl

theorem le_nextUse
    {never i : Nat}
    {ids : List Nat}
    (inside : i + ids.length ≤ never)
    (gid : Nat) :
    i ≤ nextUse never i ids gid := by
  induction ids generalizing i with
  | nil => exact Nat.le_of_add_right_le inside
  | cons first rest ih =>
    rw [List.length_cons] at inside
    rw [nextUse_cons]
    by_cases same : gid = first
    · rw [same, update_self]
    · rw [update_of_ne same]
      have later := ih (i := i + 1) (by omega)
      omega

/-- An expert with no later a next use than one that comes is asked for before it. -/
theorem ahead_of_nextUse_le
    {never i victim other : Nat}
    {ids : List Nat}
    (inside : i + ids.length ≤ never)
    (used : victim ∈ ids)
    (different : other ≠ victim)
    (ordered : nextUse never i ids other ≤ nextUse never i ids victim) :
    other ∈ ahead ids victim := by
  induction ids generalizing i with
  | nil => exact nomatch used
  | cons first rest ih =>
    rw [List.length_cons] at inside
    rw [nextUse_cons] at ordered
    have later := @le_nextUse never (i + 1) rest (by omega)
    by_cases isVictim : first = victim
    · subst isVictim
      rw [update_self, update_of_ne different] at ordered
      have := later other
      omega
    · rw [ahead_cons_of_ne isVictim, List.mem_cons]
      by_cases isOther : other = first
      · exact .inl isOther
      · rw [update_of_ne isOther,
          update_of_ne (Ne.symm isVictim)] at ordered
        exact .inr (ih (by omega)
          ((List.mem_cons.mp used).resolve_left (Ne.symm isVictim)) ordered)

/-! ## The replay is a policy -/

/-- A stream with the next positions of its requests. -/
def withNext (never i : Nat) (stream : List (Nat × Bool)) : List (Nat × Bool × Nat) :=
  (stream.map Prod.fst).zip
    ((stream.map Prod.snd).zip (nextPositions never i (stream.map Prod.fst)).2)

theorem withNext_cons
    (never i gid : Nat)
    (counted : Bool)
    (rest : List (Nat × Bool)) :
    withNext never i ((gid, counted) :: rest) =
      (gid, counted, nextUse never (i + 1) (rest.map Prod.fst) gid) ::
        withNext never (i + 1) rest :=
  rfl

theorem upcoming_withNext
    (never i : Nat)
    (stream : List (Nat × Bool)) :
    upcoming (withNext never i stream) = stream := by
  induction stream generalizing i with
  | nil => rfl
  | cons request rest ih =>
    rw [withNext_cons]
    exact congrArg _ (ih (i + 1))

/-- What the replay gives up: the last used, and under the condition no sacrifice. -/
def replayChoice (fair : Prop) (capacity : Nat) : Choice Nat :=
  fun cache item rest next =>
    farthestUse capacity cache item rest next ∧
      (fair →
        ∀ victim ∈ cache, victim ∉ next → nextCounted rest victim = some true →
          ∀ other ∈ cache, nextCounted rest other ≠ some false)

section Replay

variable {fair : Prop} {capacity never i gid : Nat} {counted : Bool}
  {rest : List (Nat × Bool)} {state : OptState} {cache : Finset Nat}

/-- The keys one position later. -/
theorem OptState.Holds.next
    (holds : state.Holds cache
      (update (nextUse never i (gid :: rest.map Prod.fst)) gid
        (nextUse never (i + 1) (rest.map Prod.fst) gid))) :
    state.Holds cache (nextUse never (i + 1) (rest.map Prod.fst)) := by
  rwa [nextUse_cons, Function.update_idem, Function.update_eq_self] at holds

section

variable
    (holds : state.Holds cache (nextUse never i (gid :: rest.map Prod.fst)))

include holds

/-- A request that is answered. -/
theorem OptState.serve_hit
    (member : gid ∈ cache) :
    let next := nextUse never (i + 1) (rest.map Prod.fst) gid
    (state.serve capacity gid counted next).Holds cache
        (nextUse never (i + 1) (rest.map Prod.fst)) ∧
      (state.serve capacity gid counted next).hits = state.hits + counted.toNat := by
  have answered : state.inCache gid = true := by
    rw [holds.inCache]
    exact decide_eq_true member
  have renewed := (@OptState.Holds.renew _ _ _ gid
    (nextUse never (i + 1) (rest.map Prod.fst) gid) holds member).next
  simp only [OptState.serve, answered, if_true]
  cases counted with
  | true => exact ⟨⟨renewed.resident, renewed.inCache, renewed.keyOf⟩, rfl⟩
  | false => exact ⟨renewed, rfl⟩

/-- A request that misses. -/
theorem OptState.serve_miss
    (absent : gid ∉ cache)
    (inside : i + (rest.length + 1) ≤ never)
    (small : cache.card ≤ capacity)
    (positive : 0 < capacity)
    (spares : fair → ¬ state.sacrifices capacity gid rest) :
    let next := nextUse never (i + 1) (rest.map Prod.fst) gid
    ∃ cacheNext, cacheNext.card ≤ capacity ∧
      replayChoice fair capacity cache gid rest cacheNext ∧
      (state.serve capacity gid counted next).Holds cacheNext
        (nextUse never (i + 1) (rest.map Prod.fst)) ∧
      (state.serve capacity gid counted next).hits = state.hits := by
  have missed : state.inCache gid = false := by
    rw [holds.inCache]
    exact decide_eq_false absent
  simp only [OptState.serve, missed, Bool.false_eq_true, if_false, holds.card]
  by_cases full : capacity ≤ cache.card
  · have nonempty : state.resident.Nonempty := by
      rw [← card_pos, holds.card]
      omega
    have last : lastResident state.resident = some (state.resident.max' nonempty) :=
      dif_pos nonempty
    generalize state.resident.max' nonempty = victim at last
    obtain ⟨resident, farthest⟩ := holds.victim last
    have gone : gid ∉ cache.erase (ofLex victim).2 :=
      fun member => absent (mem_of_mem_erase member)
    have size : (insert gid (cache.erase (ofLex victim).2)).card ≤ capacity := by
      rw [card_insert_of_notMem gone, card_erase_of_mem resident]
      omega
    rw [if_pos full]
    refine ⟨insert gid (cache.erase (ofLex victim).2), size,
      ⟨.inr ⟨by omega, _, resident, rfl, ?_⟩, ?_⟩, ((holds.evict last).enter gone).next,
      ?_⟩
    · intro other member different used
      have apart : gid ≠ (ofLex victim).2 := fun same => absent (same ▸ resident)
      have ordered := farthest other member
      have fits : i + (gid :: rest.map Prod.fst).length ≤ never := by
        simpa using inside
      have before := ahead_of_nextUse_le fits (List.mem_cons_of_mem gid used) different
        ordered
      rw [ahead_cons_of_ne apart, List.mem_cons] at before
      exact before.resolve_left fun same => absent (same ▸ member)
    · intro isFair other member left counts third thirdMember thirdCounts
      have isVictim : other = (ofLex victim).2 := by
        by_contra stays
        exact left (mem_insert_of_mem (mem_erase.mpr ⟨stays, member⟩))
      subst isVictim
      have crowded : capacity ≤ state.resident.card := holds.card ▸ full
      exact spares isFair ⟨missed, crowded, victim, last, counts,
        toLex (nextUse never i (gid :: rest.map Prod.fst) third, third),
        holds.mem.mpr ⟨thirdMember, rfl⟩, thirdCounts⟩
    · rw [OptState.evict, last]
      rfl
  · rw [if_neg full]
    refine ⟨insert gid cache, ?_, ⟨.inl ⟨by omega, rfl⟩, ?_⟩, (holds.enter absent).next,
      rfl⟩
    · rw [card_insert_of_notMem absent]
      omega
    · intro _ victim resident gone
      exact absurd (mem_insert_of_mem resident) gone

end

theorem replay_serves
    {stream : List (Nat × Bool)}
    (holds : state.Holds cache (nextUse never i (stream.map Prod.fst)))
    (inside : i + stream.length ≤ never)
    (small : cache.card ≤ capacity)
    (positive : 0 < capacity)
    (spares : fair → NeverSacrifices capacity state (withNext never i stream)) :
    ∃ hits, Serves (replayChoice fair capacity) cache stream hits ∧
      (state.replay capacity (withNext never i stream)).hits = state.hits + hits := by
  induction stream generalizing i state cache with
  | nil => exact ⟨0, .done cache, rfl⟩
  | cons request rest ih =>
    obtain ⟨gid, counted⟩ := request
    rw [List.length_cons] at inside
    rw [withNext_cons] at spares ⊢
    rw [NeverSacrifices, upcoming_withNext] at spares
    rw [OptState.replay]
    by_cases member : gid ∈ cache
    · obtain ⟨next, answered⟩ :=
        @OptState.serve_hit capacity _ _ _ counted _ _ _ holds member
      obtain ⟨hits, serves, total⟩ := ih next (by omega) small
        fun isFair => (spares isFair).2
      refine ⟨_, .hit counted member serves, ?_⟩
      rw [total, answered]
      omega
    · obtain ⟨cacheNext, room, chosen, next, same⟩ :=
        @OptState.serve_miss _ _ _ _ _ counted _ _ _ holds member inside small
          positive fun isFair => (spares isFair).1
      obtain ⟨hits, serves, total⟩ := ih next (by omega) room
        fun isFair => (spares isFair).2
      exact ⟨_, .load counted member chosen serves, by rw [total, same]⟩

end Replay

/-! ## The bound -/

/-- A stream as a replacement policy sees it. -/
def streamOf (requests : List Request) : List (Nat × Bool) :=
  requests.map fun request => (request.gid, request.counted)

/--
No eviction of the replay gives up an expert whose next request is counted while
another one stays whose next request is not.
-/
def ReplayFair (capacity : Nat) (requests : List Request) : Prop :=
  NeverSacrifices capacity {} (withNext (requests.length + 1) 0 (streamOf requests))

theorem lruAnswered_eq
    (capacity : Nat)
    (requests : List Request)
    (cache : List Nat)
    (before : Nat) :
    (requests.foldl (idealServe capacity) (cache, before)).2 =
      before + lruAnswered capacity cache (streamOf requests) := by
  induction requests generalizing cache before with
  | nil => rfl
  | cons request rest ih =>
    have next : streamOf (request :: rest) =
        (request.gid, request.counted) :: streamOf rest := rfl
    rw [List.foldl_cons, idealServe, ih, next, lruAnswered]
    cases request.counted with
    | true =>
      by_cases member : request.gid ∈ cache
      · simp [member, Nat.add_assoc]
      · simp [member]
    | false => simp

theorem hits_eq_zero
    {choice : Choice Nat}
    {cache : Finset Nat}
    {stream : List (Nat × Bool)}
    {hits : Nat}
    (serves : Serves choice cache stream hits)
    (uncounted : ∀ request ∈ stream, request.2 = false) :
    hits = 0 := by
  induction serves with
  | done => rfl
  | hit counted _ _ ih =>
    have none : counted = false := uncounted _ List.mem_cons_self
    rw [ih fun request member =>
      uncounted request (List.mem_cons_of_mem _ member), none]
    rfl
  | load _ _ _ _ ih =>
    exact ih fun request member =>
      uncounted request (List.mem_cons_of_mem _ member)

theorem optHits_run
    (totalExperts : Nat)
    (calls : List LayerCall)
    (capacity : Nat) :
    let requests := requestsOf totalExperts calls
    (run totalExperts calls).optHits capacity =
      if requests.countP Request.counted = 0 ∨ requests = [] ∨ capacity = 0 then 0
      else
        (OptState.replay capacity {}
          (withNext (requests.length + 1) 0 (streamOf requests))).hits := by
  have tracks := run_tracks totalExperts calls
  have ids : (run totalExperts calls).streamIds =
      (streamOf (requestsOf totalExperts calls)).map Prod.fst := by
    rw [tracks.streamIds, streamOf, List.map_map]
    rfl
  have counted : (run totalExperts calls).streamCounted =
      (streamOf (requestsOf totalExperts calls)).map Prod.snd := by
    rw [tracks.streamCounted, streamOf, List.map_map]
    rfl
  have empty : (run totalExperts calls).streamIds = [] ↔
      requestsOf totalExperts calls = [] := by
    rw [tracks.streamIds, idsOf, List.map_eq_nil_iff]
  simp only [RoutingReuseProfiler.optHits, tracks.observed, empty]
  rw [ids, counted, List.length_map, streamOf, List.length_map]
  rfl

theorem optHits_serves
    {fair : Prop}
    (totalExperts : Nat)
    (calls : List LayerCall)
    {capacity : Nat}
    (positive : 0 < capacity)
    (spares : fair → ReplayFair capacity (requestsOf totalExperts calls)) :
    Serves (replayChoice fair capacity) ∅ (streamOf (requestsOf totalExperts calls))
      ((run totalExperts calls).optHits capacity) := by
  have holds : OptState.Holds {} ∅
      (nextUse ((requestsOf totalExperts calls).length + 1) 0
        ((streamOf (requestsOf totalExperts calls)).map Prod.fst)) :=
    ⟨rfl, fun _ => rfl, nofun⟩
  obtain ⟨hits, serves, total⟩ := replay_serves holds (by simp [streamOf])
    (Nat.zero_le capacity) positive spares
  rw [optHits_run]
  split
  next degenerate =>
    have none : hits = 0 := by
      refine hits_eq_zero serves fun request member => ?_
      rw [streamOf, List.mem_map] at member
      obtain ⟨source, inside, rfl⟩ := member
      rcases degenerate with uncounted | empty | noSlots
      · simpa using List.countP_eq_zero.mp uncounted source inside
      · rw [empty] at inside
        exact nomatch inside
      · omega
    exact none ▸ serves
  next =>
    rw [total, zero_add]
    exact serves

theorem neverSacrifices_of_counted
    {capacity : Nat}
    {state : OptState}
    {stream : List (Nat × Bool × Nat)}
    (counted : ∀ request ∈ stream, request.2.1 = true) :
    NeverSacrifices capacity state stream := by
  induction stream generalizing state with
  | nil => trivial
  | cons request rest ih =>
    have later : ∀ request ∈ rest, request.2.1 = true :=
      fun request member => counted request (List.mem_cons_of_mem _ member)
    refine ⟨?_, ih later⟩
    rintro ⟨-, -, victim, -, -, other, -, uncounted⟩
    have found : ∀ stream : List (Nat × Bool),
        (∀ request ∈ stream, request.2 = true) →
          nextCounted stream (ofLex other).2 ≠ some false := by
      intro stream all
      induction stream with
      | nil =>
        intro same
        cases same
      | cons first stream step =>
        rw [nextCounted]
        split
        · rw [all first List.mem_cons_self]
          intro same
          cases same
        · exact step fun request member =>
            all request (List.mem_cons_of_mem _ member)
    refine found (upcoming rest) (fun request member => ?_) uncounted
    obtain ⟨source, inside, rfl⟩ := List.mem_map.mp member
    exact later source inside

/-- The reported hits are never below those of the least-recently-used cache. -/
theorem lruHits_le_optHits
    (totalExperts : Nat)
    (calls : List LayerCall)
    {capacity : Nat}
    (positive : 0 < capacity) :
    lruHits capacity (requestsOf totalExperts calls) ≤
      (run totalExperts calls).optHits capacity := by
  have serves := (@optHits_serves False totalExperts calls capacity positive
    False.elim).imp fun _ _ _ _ _ chosen => chosen.1
  have bound := @Serves.lru_le _ _ capacity _ [] _ _ serves (Nat.zero_le capacity) nofun
  rw [lruHits, lruAnswered_eq]
  omega

/--
The reported hits are never below those of the least-recently-used cache, and when the
replay never gives up a counted next request for an uncounted one they are an upper
bound on every demand-loading policy.
-/
theorem optHits_upper_bound
    (totalExperts : Nat)
    (calls : List LayerCall)
    (capacity : Nat)
    (positive : 0 < capacity) :
    lruHits capacity (requestsOf totalExperts calls) ≤
        (run totalExperts calls).optHits capacity ∧
      (ReplayFair capacity (requestsOf totalExperts calls) →
        ∀ answered,
          Serves (anyChoice capacity) ∅ (streamOf (requestsOf totalExperts calls))
              answered →
            answered ≤ (run totalExperts calls).optHits capacity) := by
  refine ⟨lruHits_le_optHits totalExperts calls positive, ?_⟩
  intro fair answered policy
  have replayed := optHits_serves totalExperts calls positive fun _ : True => fair
  have best := replayed.imp fun _ _ _ _ absent chosen =>
    farthestDue_of_fair absent ⟨chosen.1, chosen.2 trivial⟩
  have bound : answered ≤ (run totalExperts calls).optHits capacity + 0 :=
    best.le_farthestDue policy (Nat.zero_le capacity) fun _ => Nat.le_refl _
  exact bound

/-- Two counted experts asked for in turn. -/
def countedCalls : List LayerCall :=
  [(3, [⟨0, false⟩, ⟨1, false⟩, ⟨0, false⟩])]

theorem optHits_upper_bound_two :
    lruHits 2 (requestsOf 2 countedCalls) ≤ (run 2 countedCalls).optHits 2 ∧
      ∀ answered,
        Serves (anyChoice 2) ∅ (streamOf (requestsOf 2 countedCalls)) answered →
          answered ≤ (run 2 countedCalls).optHits 2 := by
  have bound := optHits_upper_bound 2 countedCalls 2 (by decide)
  exact ⟨bound.1, bound.2 (neverSacrifices_of_counted (by decide +kernel))⟩

/-- Expert 0 is asked for below the learned layers, experts 1 and 2 above. -/
def mixedCalls : List LayerCall :=
  [(0, [⟨0, false⟩]), (3, [⟨1, false⟩, ⟨2, false⟩]), (0, [⟨0, false⟩]),
    (3, [⟨1, false⟩])]

/-- Keeping expert 1 answers a counted request; the replay keeps expert 0. -/
theorem mixed_run_beats_opt :
    ¬ ∀ (totalExperts : Nat) (calls : List LayerCall) (capacity answered : Nat),
      1 ≤ capacity →
        Serves (anyChoice capacity) ∅ (streamOf (requestsOf totalExperts calls))
            answered →
          answered ≤ (run totalExperts calls).optHits capacity := by
  intro claim
  have stream : streamOf (requestsOf 3 mixedCalls) =
      [(0, false), (1, true), (2, true), (0, false), (1, true)] := by decide
  have policy : Serves (anyChoice 2) ∅ (streamOf (requestsOf 3 mixedCalls)) 1 := by
    rw [stream]
    refine @Serves.load _ _ _ {0} _ _ _ _ (by decide) (by decide) ?_
    refine @Serves.load _ _ _ {0, 1} _ _ _ _ (by decide) (by decide) ?_
    refine @Serves.load _ _ _ {1, 2} _ _ _ _ (by decide) (by decide) ?_
    refine @Serves.load _ _ _ {0, 1} _ _ _ _ (by decide) (by decide) ?_
    exact .hit true (by decide) (.done _)
  have replayed : (run 3 mixedCalls).optHits 2 = 0 := by
    rw [optHits_run]
    decide +kernel
  have bound := claim 3 mixedCalls 2 1 (by decide) policy
  omega

end Aeon.RoutingReuse
