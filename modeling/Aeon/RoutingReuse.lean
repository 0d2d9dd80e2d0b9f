import Aeon.FenwickTree
import Aeon.StackDistance

namespace Aeon.RoutingReuse

open Aeon.Fenwick Aeon.StackDistance

/-!
# The reuse-distance profiler

Every request to a routed expert goes through `observe_layer`.  A Fenwick tree over
request positions marks where each expert was last selected, so that the marks after
an expert's last position count the distinct experts selected since.  The tree starts
small and is rebuilt from the position table when a position outgrows it.
-/

/-- `kFirstLearnedLayer`: requests below it are excluded from the aggregate. -/
def firstLearnedLayer : Nat := 3

structure Observation where
  globalExpertId : Nat
  answeredFromHot : Bool
deriving Repr, DecidableEq

/-- `RoutingReuseProfiler`; a `lastPos` of `none` is the source's `-1`. -/
structure RoutingReuseProfiler where
  enabled : Bool := false
  totalExperts : Nat := 0
  lastPos : Nat → Option Nat := fun _ => none
  fenwick : Nodes := fun _ => 0
  fenwickCapacity : Nat := 0
  clock : Nat := 0
  observed : Nat := 0
  measuredHot : Nat := 0
  compulsory : Nat := 0
  distanceHist : Nat → Nat := fun _ => 0
  streamIds : List Nat := []
  streamCounted : List Bool := []

/-- `reset` -/
def reset (totalExperts : Nat) : RoutingReuseProfiler :=
  { enabled := true
    totalExperts
    fenwickCapacity := max totalExperts 1024 }

namespace RoutingReuseProfiler

variable (profiler : RoutingReuseProfiler)

/-- The doubling loop of `grow`. -/
def doubledTo (capacity needed : Nat) : Nat :=
  if 0 < capacity ∧ capacity < needed then doubledTo (capacity * 2) needed
  else capacity
termination_by needed - capacity

/-- The marks `grow` puts into the fresh tree: one for each expert's last position. -/
def rebuilt (capacity : Nat) : Nodes :=
  (List.range profiler.totalExperts).foldl
    (fun fresh gid =>
      match profiler.lastPos gid with
      | none => fresh
      | some last => addFrom capacity 1 fresh (last + 1))
    fun _ => 0

/-- `grow` -/
def grow (needed : Nat) : RoutingReuseProfiler :=
  let capacity := doubledTo profiler.fenwickCapacity needed
  { profiler with
    fenwick := profiler.rebuilt capacity
    fenwickCapacity := capacity }

/-- `add_mark` -/
def addMark (index : Nat) (delta : Int) : RoutingReuseProfiler :=
  let roomy :=
    if index + 1 > profiler.fenwickCapacity then profiler.grow (index + 1)
    else profiler
  { roomy with
    fenwick := addFrom roomy.fenwickCapacity delta roomy.fenwick (index + 1) }

/-- `fenwick_sum` -/
def fenwickSum (index : Nat) : Int :=
  sumFrom profiler.fenwick (min (index + 1) profiler.fenwickCapacity)

/-- `record_distance` -/
def recordDistance (distance : Int) : RoutingReuseProfiler :=
  let index := if distance < 0 then 0 else distance.toNat
  let clamped := min index profiler.totalExperts
  { profiler with
    distanceHist := Function.update profiler.distanceHist clamped
      (profiler.distanceHist clamped + 1) }

/-- The aggregate counts one learned request, and whether Hot answered it. -/
def countObserved (answeredFromHot : Bool) : RoutingReuseProfiler :=
  { profiler with
    observed := profiler.observed + 1
    measuredHot := profiler.measuredHot + answeredFromHot.toNat }

/-- The expert's last position is the clock, which advances. -/
def advance (gid : Nat) : RoutingReuseProfiler :=
  { profiler with
    lastPos := Function.update profiler.lastPos gid (some profiler.clock)
    clock := profiler.clock + 1 }

/-- The first request of an expert. -/
def observeFirst (learned : Bool) (request : Observation) : RoutingReuseProfiler :=
  let counted :=
    if learned then
      { profiler.countObserved request.answeredFromHot with
        compulsory := profiler.compulsory + 1 }
    else profiler
  (counted.addMark counted.clock 1).advance request.globalExpertId

/-- A request of an expert that was selected before, at `last`. -/
def observeAgain
    (learned : Bool)
    (request : Observation)
    (last : Nat) : RoutingReuseProfiler :=
  let distance := profiler.fenwickSum (profiler.clock - 1) - profiler.fenwickSum last
  let counted :=
    if learned then
      (profiler.countObserved request.answeredFromHot).recordDistance distance
    else profiler
  let moved := (counted.addMark last (-1)).addMark counted.clock 1
  moved.advance request.globalExpertId

/-- One request of `observe_layer`. -/
def observe (learned : Bool) (request : Observation) : RoutingReuseProfiler :=
  if request.globalExpertId ≥ profiler.totalExperts then profiler
  else
    let streamed :=
      { profiler with
        streamIds := profiler.streamIds ++ [request.globalExpertId]
        streamCounted := profiler.streamCounted ++ [learned] }
    match profiler.lastPos request.globalExpertId with
    | none => streamed.observeFirst learned request
    | some last => streamed.observeAgain learned request last

/-- `observe_layer` -/
def observeLayer
    (layerId : Nat)
    (requests : List Observation) : RoutingReuseProfiler :=
  if !profiler.enabled || profiler.totalExperts == 0 then profiler
  else
    let learned := layerId ≥ firstLearnedLayer
    requests.foldl (fun profiler request => profiler.observe learned request) profiler

/-- The recorded distances below a capacity, as `curve` adds them up. -/
def idealLruHits (capacity : Nat) : Nat :=
  ∑ distance ∈ Finset.range (min (profiler.totalExperts + 1) capacity),
    profiler.distanceHist distance

end RoutingReuseProfiler

/-- The calls of a run: a layer and its requests in slot order. -/
abbrev LayerCall := Nat × List Observation

/-- Any number of `observe_layer` calls after a `reset`. -/
def run (totalExperts : Nat) (calls : List LayerCall) : RoutingReuseProfiler :=
  calls.foldl (fun profiler call => profiler.observeLayer call.1 call.2)
    (reset totalExperts)

end Aeon.RoutingReuse
