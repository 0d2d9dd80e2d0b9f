import Aeon.StackDistance
import Mathlib.Data.Finset.Card

namespace Aeon.DemandPaging

open Finset

/-!
# Replacement under demand loading

A cache of a fixed number of slots serves a stream of requests, of which only some are
counted.  A request that misses is loaded, and what else stays is the policy's choice.
Giving up an item that is worth nothing before one that is worth something, and of two
that are worth something the one wanted later, is best possible for the counted hits.
-/

variable {α : Type} [DecidableEq α]

/-- The caches a policy may go on with after it loads an item. -/
abbrev Choice (α : Type) :=
  Finset α → α → List (α × Bool) → Finset α → Prop

/-- Serving a stream from a cache, with the counted requests answered from memory. -/
inductive Serves (choice : Choice α) : Finset α → List (α × Bool) → Nat → Prop where
  | done
      (cache : Finset α) :
      Serves choice cache [] 0
  | hit
      {cache : Finset α}
      {item : α}
      {rest : List (α × Bool)}
      {hits : Nat}
      (counted : Bool)
      (resident : item ∈ cache)
      (later : Serves choice cache rest hits) :
      Serves choice cache ((item, counted) :: rest) (counted.toNat + hits)
  | load
      {cache next : Finset α}
      {item : α}
      {rest : List (α × Bool)}
      {hits : Nat}
      (counted : Bool)
      (absent : item ∉ cache)
      (chosen : choice cache item rest next)
      (later : Serves choice next rest hits) :
      Serves choice cache ((item, counted) :: rest) hits

/-- Any choice of what to give up: the item is loaded and the slots are kept to. -/
def anyChoice (slots : Nat) : Choice α :=
  fun cache item _ next =>
    item ∈ next ∧ next ⊆ insert item cache ∧ next.card ≤ slots

instance decidableAnyChoice
    (slots : Nat)
    (cache : Finset α)
    (item : α)
    (rest : List (α × Bool))
    (next : Finset α) :
    Decidable (anyChoice slots cache item rest next) :=
  inferInstanceAs (Decidable (_ ∧ _ ∧ _))

/-- Whether the next request of an item is counted and at most so many requests away. -/
def due : Nat → List (α × Bool) → α → Bool
  | _, [], _ => false
  | distance, (first, counted) :: rest, item =>
    if first = item then counted
    else
      match distance with
      | 0 => false
      | distance + 1 => due distance rest item

@[simp] theorem not_due_nil
    (distance : Nat)
    (item : α) :
    due distance [] item = false := by
  cases distance <;> rfl

theorem due_cons
    (distance : Nat)
    (first item : α)
    (counted : Bool)
    (rest : List (α × Bool)) :
    due distance ((first, counted) :: rest) item =
      if first = item then counted
      else
        match distance with
        | 0 => false
        | distance + 1 => due distance rest item := by
  cases distance <;> rfl

/-- Give up one item of a full cache, and none that is due before another. -/
def farthestDue (slots : Nat) : Choice α :=
  fun cache item rest next =>
    cache.card < slots ∧ next = insert item cache ∨
      cache.card = slots ∧ ∃ victim ∈ cache, next = insert item (cache.erase victim) ∧
        ∀ other ∈ cache, ∀ distance, due distance rest victim = true →
          due distance rest other = true

/-- How many items of a cache are due. -/
def dueCount (distance : Nat) (rest : List (α × Bool)) (cache : Finset α) : Nat :=
  #{item ∈ cache | due distance rest item}

section Due

variable {distance : Nat} {rest : List (α × Bool)} {cache : Finset α} {item : α}
  {counted : Bool}

theorem dueCount_split
    (distance : Nat)
    (rest : List (α × Bool))
    (cache : Finset α)
    (item : α) :
    dueCount distance rest cache =
      dueCount distance rest (cache.erase item) +
        if item ∈ cache then (due distance rest item).toNat else 0 := by
  by_cases resident : item ∈ cache
  · rw [if_pos resident, dueCount, dueCount, ← insert_erase resident, filter_insert,
      insert_erase resident]
    cases due distance rest item with
    | true =>
      rw [if_pos rfl, card_insert_of_notMem (by simp)]
      rfl
    | false => rfl
  · rw [if_neg resident, erase_eq_of_notMem resident, add_zero]

/-- Only the next request itself is due at once. -/
theorem dueCount_zero :
    dueCount 0 ((item, counted) :: rest) cache =
      if item ∈ cache then counted.toNat else 0 := by
  have others : dueCount 0 ((item, counted) :: rest) (cache.erase item) = 0 := by
    rw [dueCount, card_eq_zero, filter_eq_empty_iff]
    intro other member
    simp [due, Ne.symm (ne_of_mem_erase member)]
  rw [dueCount_split _ _ _ item, others, zero_add]
  simp [due]

theorem dueCount_succ :
    dueCount (distance + 1) ((item, counted) :: rest) cache =
      dueCount distance rest (cache.erase item) +
        if item ∈ cache then counted.toNat else 0 := by
  have others : dueCount (distance + 1) ((item, counted) :: rest) (cache.erase item) =
      dueCount distance rest (cache.erase item) := by
    refine congrArg card (filter_congr fun other member => ?_)
    simp [due, Ne.symm (ne_of_mem_erase member)]
  rw [dueCount_split _ _ _ item, others]
  simp [due]

theorem dueCount_mono
    {fewer : Finset α}
    (sub : fewer ⊆ cache) :
    dueCount distance rest fewer ≤ dueCount distance rest cache :=
  card_le_card (filter_subset_filter _ sub)

theorem dueCount_le_card : dueCount distance rest cache ≤ cache.card :=
  card_filter_le _ _

end Due

/--
What a cache may be behind another: at every distance it holds fewer items that are
due, but at most `deficit` fewer.
-/
def Behind
    (rest : List (α × Bool))
    (cache other : Finset α)
    (deficit : Nat) : Prop :=
  ∀ distance, dueCount distance rest other ≤ dueCount distance rest cache + deficit

section Exchange

variable {slots deficit : Nat} {rest : List (α × Bool)} {cache other : Finset α}
  {item : α} {counted : Bool}

/-- The next request uses up the deficit, or makes up for it. -/
theorem Behind.served
    (behind : Behind ((item, counted) :: rest) cache other deficit) :
    (if item ∈ other then counted.toNat else 0) ≤
        (if item ∈ cache then counted.toNat else 0) + deficit ∧
      Behind rest (cache.erase item) (other.erase item)
        ((if item ∈ cache then counted.toNat else 0) + deficit -
          if item ∈ other then counted.toNat else 0) := by
  have now := behind 0
  rw [dueCount_zero, dueCount_zero] at now
  refine ⟨now, fun distance => ?_⟩
  have later := behind (distance + 1)
  rw [dueCount_succ, dueCount_succ] at later
  omega

theorem Behind.fewer
    {remaining : Finset α}
    (behind : Behind rest cache other deficit)
    (sub : remaining ⊆ other) :
    Behind rest cache remaining deficit :=
  fun distance => (dueCount_mono sub).trans (behind distance)

theorem Behind.loaded
    (behind : Behind rest (cache.erase item) (other.erase item) deficit)
    (resident : item ∈ cache)
    (otherResident : item ∈ other) :
    Behind rest cache other deficit := by
  intro distance
  have before := behind distance
  rw [dueCount_split _ _ other item, dueCount_split _ _ cache item,
    if_pos resident, if_pos otherResident]
  omega

/-- Giving up the item that is due last costs nothing. -/
theorem Behind.evict
    {victim : α}
    (behind : Behind rest cache other deficit)
    (full : cache.card = slots)
    (small : other.card < slots)
    (resident : victim ∈ cache)
    (farthest :
      ∀ third ∈ cache, ∀ distance, due distance rest victim = true →
        due distance rest third = true) :
    Behind rest (cache.erase victim) other deficit := by
  intro distance
  cases soon : due distance rest victim with
  | true =>
    have all : dueCount distance rest (cache.erase victim) =
        (cache.erase victim).card := by
      refine congrArg card (filter_eq_self.mpr fun third member => ?_)
      exact farthest third (mem_of_mem_erase member) distance soon
    have bounded : dueCount distance rest other ≤ other.card := dueCount_le_card
    rw [all, card_erase_of_mem resident]
    omega
  | false =>
    have before := behind distance
    rw [dueCount_split _ _ cache victim, if_pos resident, soon] at before
    exact before

/-- What any policy does with one request. -/
theorem Serves.step
    {hits : Nat}
    (serves : Serves (anyChoice slots) other ((item, counted) :: rest) hits)
    (small : other.card ≤ slots) :
    ∃ next later, item ∈ next ∧ next.erase item ⊆ other.erase item ∧
      next.card ≤ slots ∧ Serves (anyChoice slots) next rest later ∧
      hits = (if item ∈ other then counted.toNat else 0) + later := by
  cases serves with
  | hit _ resident later =>
    exact ⟨other, _, resident, Subset.refl _, small, later, by rw [if_pos resident]⟩
  | load _ absent chosen later =>
    obtain ⟨loaded, sub, room⟩ := chosen
    refine ⟨_, _, loaded, ?_, room, later, by rw [if_neg absent, zero_add]⟩
    rw [← @erase_insert_eq_erase _ _ other item]
    exact erase_subset_erase item sub

theorem Serves.farthestStep
    {hits : Nat}
    (serves : Serves (farthestDue slots) cache ((item, counted) :: rest) hits) :
    ∃ next later, item ∈ next ∧ Serves (farthestDue slots) next rest later ∧
      hits = (if item ∈ cache then counted.toNat else 0) + later ∧
      ∀ remaining deficit, remaining.card < slots →
        Behind rest (cache.erase item) remaining deficit →
          Behind rest (next.erase item) remaining deficit := by
  cases serves with
  | hit _ resident later =>
    exact ⟨cache, _, resident, later, by rw [if_pos resident],
      fun _ _ _ behind => behind⟩
  | load _ absent chosen later =>
    rcases chosen with ⟨-, rfl⟩ | ⟨full, victim, resident, rfl, farthest⟩
    · refine ⟨_, _, mem_insert_self _ _, later, by rw [if_neg absent, zero_add], ?_⟩
      intro remaining deficit _ behind
      rwa [erase_insert_eq_erase]
    · refine ⟨_, _, mem_insert_self _ _, later, by rw [if_neg absent, zero_add], ?_⟩
      intro remaining deficit small behind
      have gone : item ∉ cache.erase victim :=
        fun member => absent (mem_of_mem_erase member)
      rw [erase_eq_of_notMem absent] at behind
      rw [erase_insert gone]
      exact behind.evict full small resident farthest

end Exchange

/--
No policy answers more counted requests than one that gives up what is due last, beyond
the head start it has.
-/
theorem Serves.le_farthestDue
    {slots : Nat}
    {stream : List (α × Bool)}
    {cache other : Finset α}
    {hits otherHits deficit : Nat}
    (best : Serves (farthestDue slots) cache stream hits)
    (any : Serves (anyChoice slots) other stream otherHits)
    (small : other.card ≤ slots)
    (behind : Behind stream cache other deficit) :
    otherHits ≤ hits + deficit := by
  induction stream generalizing cache other hits otherHits deficit with
  | nil =>
    cases any
    exact Nat.zero_le _
  | cons request rest ih =>
    obtain ⟨item, counted⟩ := request
    obtain ⟨otherNext, otherLater, otherLoaded, sub, room, otherServes, rfl⟩ :=
      any.step small
    obtain ⟨next, later, loaded, serves, rfl, keeps⟩ := best.farthestStep
    obtain ⟨now, behindNext⟩ := behind.served
    have smaller : (otherNext.erase item).card < slots := by
      rw [card_erase_of_mem otherLoaded]
      have some := card_pos.mpr ⟨item, otherLoaded⟩
      omega
    have after := keeps _ _ smaller (behindNext.fewer sub)
    have bound := ih serves otherServes room
      (after.loaded loaded otherLoaded)
    omega

/-! ## Recency against the farthest next use -/

/-- The items that come before another one. -/
def ahead (items : List α) (item : α) : List α :=
  items.takeWhile fun other => decide (other ≠ item)

theorem ahead_cons_of_ne
    {first item : α}
    (different : first ≠ item)
    (rest : List α) :
    ahead (first :: rest) item = first :: ahead rest item := by
  simp [ahead, different]

theorem ahead_self
    (item : α)
    (rest : List α) :
    ahead (item :: rest) item = [] := by
  simp [ahead]

theorem ahead_length_lt
    {items : List α}
    {item : α}
    (member : item ∈ items) :
    (ahead items item).length < items.length := by
  induction items with
  | nil => exact nomatch member
  | cons first rest ih =>
    by_cases same : first = item
    · subst same
      simp [ahead_self]
    · rw [ahead_cons_of_ne same, List.length_cons, List.length_cons]
      have later := (List.mem_cons.mp member).resolve_left (Ne.symm same)
      exact Nat.succ_lt_succ (ih later)

theorem ahead_take
    {items : List α}
    {item : α}
    {count : Nat}
    (member : item ∈ items.take count) :
    ahead (items.take count) item = ahead items item := by
  induction items generalizing count with
  | nil => rw [List.take_nil]
  | cons first rest ih =>
    cases count with
    | zero => exact nomatch member
    | succ count =>
      rw [List.take_succ_cons] at member ⊢
      by_cases same : first = item
      · subst same
        rw [ahead_self, ahead_self]
      · have later := (List.mem_cons.mp member).resolve_left (Ne.symm same)
        rw [ahead_cons_of_ne same, ahead_cons_of_ne same, ih later]

theorem mem_ahead_erase
    {items : List α}
    {item removed other : α}
    (member : other ∈ ahead items item)
    (kept : other ≠ removed)
    (different : removed ≠ item) :
    other ∈ ahead (items.erase removed) item := by
  induction items with
  | nil => exact nomatch member
  | cons first rest ih =>
    by_cases stops : first = item
    · subst stops
      rw [ahead_self] at member
      exact nomatch member
    · rw [ahead_cons_of_ne stops] at member
      by_cases same : first = removed
      · subst same
        rw [List.erase_cons_head]
        exact (List.mem_cons.mp member).resolve_left kept
      · rw [List.erase_cons_tail (by simpa using same), ahead_cons_of_ne stops]
        rcases List.mem_cons.mp member with here | later
        · exact List.mem_cons.mpr (.inl here)
        · exact List.mem_cons.mpr (.inr (ih later))

/-- Give up one item of a full cache whose next request is the last to come. -/
def farthestUse (slots : Nat) : Choice α :=
  fun cache item rest next =>
    cache.card < slots ∧ next = insert item cache ∨
      cache.card = slots ∧ ∃ victim ∈ cache, next = insert item (cache.erase victim) ∧
        ∀ other ∈ cache, other ≠ victim → victim ∈ rest.map Prod.fst →
          other ∈ ahead (rest.map Prod.fst) victim

/-- The counted requests a least-recently-used cache answers from memory. -/
def lruAnswered (slots : Nat) : List α → List (α × Bool) → Nat
  | _, [] => 0
  | cache, (item, counted) :: rest =>
    (if item ∈ cache then counted.toNat else 0) +
      lruAnswered slots (StackDistance.lruServe slots cache item) rest

/--
What recency alone still holds it will have given up before it is asked for again.
-/
def Doomed
    (slots : Nat)
    (ranking : List α)
    (cache : Finset α)
    (rest : List (α × Bool)) : Prop :=
  ∀ item ∈ ranking, item ∉ cache → item ∈ rest.map Prod.fst →
    slots ≤ (ahead ranking item ++ ahead (rest.map Prod.fst) item).toFinset.card

/-- Whether the next request of an item is counted, if it has one. -/
def nextCounted : List (α × Bool) → α → Option Bool
  | [], _ => none
  | (first, counted) :: rest, item =>
    if first = item then some counted else nextCounted rest item

section Recency

variable {slots : Nat} {ranking : List α} {cache next : Finset α}
  {rest : List (α × Bool)} {item : α} {counted : Bool}

/-- A least-recently-used cache keeps to its slots. -/
theorem lruServe_length : (StackDistance.lruServe slots ranking item).length ≤ slots :=
  List.length_take_le _ _

/-- Recency answers nothing that the farthest next use misses. -/
theorem Doomed.resident
    (doomed : Doomed slots ranking cache ((item, counted) :: rest))
    (small : ranking.length ≤ slots)
    (ranked : item ∈ ranking) :
    item ∈ cache := by
  by_contra absent
  have many := doomed item ranked absent (by simp)
  rw [List.map_cons, ahead_self, List.append_nil] at many
  have few := ahead_length_lt ranked
  have size := List.toFinset_card_le (ahead ranking item)
  omega

theorem Doomed.served
    (doomed : Doomed slots ranking cache ((item, counted) :: rest))
    (kept :
      ∀ other ∈ cache, other ∉ next → other ∈ rest.map Prod.fst → other ≠ item →
        slots ≤ (item :: ahead (rest.map Prod.fst) other).toFinset.card)
    (loaded : item ∈ next) :
    Doomed slots (StackDistance.lruServe slots ranking item) next rest := by
  intro other ranked absent later
  have different : item ≠ other := by
    rintro rfl
    exact absent loaded
  have front : ahead (StackDistance.lruServe slots ranking item) other =
      item :: ahead (ranking.erase item) other := by
    rw [StackDistance.lruServe, ahead_take ranked, moveToFront,
      ahead_cons_of_ne different]
  rw [front]
  by_cases before : other ∈ cache
  · refine (kept other before absent later (Ne.symm different)).trans
      (card_le_card fun third member => ?_)
    simp only [List.mem_toFinset, List.mem_cons, List.cons_append,
      List.mem_append] at member ⊢
    tauto
  · have wasRanked : other ∈ ranking := by
      have member := List.mem_of_mem_take ranked
      rw [moveToFront, List.mem_cons] at member
      exact List.mem_of_mem_erase (member.resolve_left (Ne.symm different))
    have many := doomed other wasRanked before (by simp [later])
    rw [List.map_cons, ahead_cons_of_ne different] at many
    refine many.trans (card_le_card fun third member => ?_)
    simp only [List.mem_toFinset, List.mem_cons, List.cons_append,
      List.mem_append] at member ⊢
    by_cases same : third = item
    · exact .inl same
    · rcases member with inFront | here | inRest
      · exact .inr (.inl (mem_ahead_erase inFront same different))
      · exact absurd here same
      · exact .inr (.inr inRest)

end Recency

/-- Giving up what is used last answers all that a recency cache answers. -/
theorem Serves.lru_le
    {slots : Nat}
    {stream : List (α × Bool)}
    {ranking : List α}
    {cache : Finset α}
    {hits : Nat}
    (serves : Serves (farthestUse slots) cache stream hits)
    (small : ranking.length ≤ slots)
    (doomed : Doomed slots ranking cache stream) :
    lruAnswered slots ranking stream ≤ hits := by
  induction serves generalizing ranking with
  | done cache => exact Nat.le_refl 0
  | @hit cache item rest hits counted resident later ih =>
    have next := @Doomed.served _ _ _ _ _ cache _ _ _ doomed
      (fun other member absent => absurd member absent) resident
    have bound := ih lruServe_length next
    rw [lruAnswered]
    split <;> omega
  | @load cache next item rest hits counted absent chosen later ih =>
    have unranked : item ∉ ranking :=
      fun ranked => absent (doomed.resident small ranked)
    rw [lruAnswered, if_neg unranked, zero_add]
    refine ih lruServe_length (doomed.served ?_ ?_)
    · intro other resident gone used different
      rcases chosen with ⟨-, rfl⟩ | ⟨full, victim, wasResident, rfl, farthest⟩
      · exact absurd (mem_insert_of_mem resident) gone
      · have isVictim : other = victim := by
          by_contra stays
          exact gone (mem_insert_of_mem (mem_erase.mpr ⟨stays, resident⟩))
        subst isVictim
        have inside : insert item (cache.erase other) ⊆
            (item :: ahead (rest.map Prod.fst) other).toFinset := by
          intro third member
          rw [mem_insert, mem_erase] at member
          rw [List.mem_toFinset, List.mem_cons]
          rcases member with here | ⟨apart, inCache⟩
          · exact .inl here
          · exact .inr (farthest third inCache apart used)
        have size := card_le_card inside
        rw [card_insert_of_notMem fun member => absent (mem_of_mem_erase member),
          card_erase_of_mem resident] at size
        have some := card_pos.mpr ⟨other, resident⟩
        omega
    · rcases chosen with ⟨-, rfl⟩ | ⟨-, victim, -, rfl, -⟩
      · exact mem_insert_self _ _
      · exact mem_insert_self _ _

/-! ## Counted uses -/

section Counted

variable {rest : List (α × Bool)} {item other : α} {distance : Nat}

theorem nextCounted_eq_none :
    nextCounted rest item = none ↔ item ∉ rest.map Prod.fst := by
  induction rest with
  | nil => simp [nextCounted]
  | cons request rest ih =>
    obtain ⟨first, counted⟩ := request
    by_cases same : first = item
    · simp [nextCounted, same]
    · simp [nextCounted, same, ih, Ne.symm same]

theorem nextCounted_of_due
    (soon : due distance rest item = true) :
    nextCounted rest item = some true := by
  induction rest generalizing distance with
  | nil => exact nomatch (not_due_nil distance item).symm.trans soon
  | cons request rest ih =>
    obtain ⟨first, counted⟩ := request
    rw [due_cons] at soon
    rw [nextCounted]
    by_cases same : first = item
    · rw [if_pos same] at soon ⊢
      rw [soon]
    · rw [if_neg same] at soon ⊢
      cases distance with
      | zero => exact nomatch soon
      | succ distance => exact ih soon

theorem due_of_ahead
    (soon : due distance rest item = true)
    (before : other ∈ ahead (rest.map Prod.fst) item)
    (counts : nextCounted rest other = some true) :
    due distance rest other = true := by
  induction rest generalizing distance with
  | nil => exact nomatch (not_due_nil distance item).symm.trans soon
  | cons request rest ih =>
    obtain ⟨first, counted⟩ := request
    rw [List.map_cons] at before
    rw [nextCounted] at counts
    by_cases same : first = item
    · subst same
      rw [ahead_self] at before
      exact nomatch before
    · rw [ahead_cons_of_ne same] at before
      rw [due_cons, if_neg same] at soon
      rw [due_cons]
      by_cases here : first = other
      · rw [if_pos here] at counts ⊢
        exact Option.some.inj counts
      · rw [if_neg here] at counts ⊢
        have later := (List.mem_cons.mp before).resolve_left (Ne.symm here)
        cases distance with
        | zero => exact nomatch soon
        | succ distance => exact ih soon later counts

end Counted

/--
Giving up what is used last, but never for an item that is wanted uncounted: then what
is given up is also due last.
-/
def farthestFair (slots : Nat) : Choice α :=
  fun cache item rest next =>
    farthestUse slots cache item rest next ∧
      ∀ victim ∈ cache, victim ∉ next → nextCounted rest victim = some true →
        ∀ other ∈ cache, nextCounted rest other ≠ some false

omit [DecidableEq α] in
theorem Serves.imp
    {choice wider : Choice α}
    {cache : Finset α}
    {stream : List (α × Bool)}
    {hits : Nat}
    (serves : Serves choice cache stream hits)
    (widens :
      ∀ cache item rest next, item ∉ cache → choice cache item rest next →
        wider cache item rest next) :
    Serves wider cache stream hits := by
  induction serves with
  | done cache => exact .done cache
  | hit counted resident _ ih =>
    exact .hit counted resident ih
  | load counted absent chosen _ ih =>
    exact .load counted absent (widens _ _ _ _ absent chosen) ih

theorem farthestDue_of_fair
    {slots : Nat}
    {cache next : Finset α}
    {item : α}
    {rest : List (α × Bool)}
    (absent : item ∉ cache)
    (fair : farthestFair slots cache item rest next) :
    farthestDue slots cache item rest next := by
  obtain ⟨room | ⟨full, victim, resident, rfl, farthest⟩, spares⟩ := fair
  · exact .inl room
  · refine .inr ⟨full, victim, resident, rfl, fun other member distance soon => ?_⟩
    by_cases same : other = victim
    · exact same ▸ soon
    have counted := nextCounted_of_due soon
    have used : victim ∈ rest.map Prod.fst := by
      by_contra never
      rw [nextCounted_eq_none.mpr never] at counted
      exact nomatch counted
    have gone : victim ∉ insert item (cache.erase victim) := by
      rw [mem_insert, mem_erase]
      rintro (loaded | ⟨apart, -⟩)
      · exact absent (loaded ▸ resident)
      · exact apart rfl
    have before := farthest other member same used
    refine due_of_ahead soon before ?_
    cases next : nextCounted rest other with
    | none =>
      have requested := (List.takeWhile_sublist _).subset before
      exact absurd requested (nextCounted_eq_none.mp next)
    | some counts =>
      cases counts with
      | true => rfl
      | false => exact absurd next (spares victim resident gone counted other member)

end Aeon.DemandPaging
