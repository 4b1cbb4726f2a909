import Karpenter.DynamicResources.Counters
import Karpenter.DynamicResources.Capacity

/-! The allocation tracker: which devices, counters and capacity the node claims of a scheduling loop
hold, per instance type they may still launch as. `none` stands for a panic of the source. A Go set is a
finite set; logging is left out. -/
namespace Karpenter.DynamicResources

open Go (Map)
open Resources
open Scheduling (Requirements)

/-- Withdrawing alternatives of a party; one without any left is dropped. -/
def withdraw [DecidableEq κ] (parties : Map κ (Map ι ν)) (party : κ) (kept : Map ι ν) : Map κ (Map ι ν) :=
  if kept.entries.isEmpty then parties.erase party else parties.insert party kept

structure InflightAllocationMetadata where
  nodeClaimID : NodeClaimID
  instanceTypes : Finset InstanceTypeID
  deriving DecidableEq

abbrev AllocationsByNodeClaim := Map NodeClaimID (Map InstanceTypeID (Finset DeviceID))

structure AllocationTracker where
  preallocatedDevices : Finset DeviceID
  preallocatedConsumedCapacity : DeviceCapacities
  inflightClusterAllocations : Map DeviceID InflightAllocationMetadata := ∅
  inflightClusterAllocationsByNodeClaim : AllocationsByNodeClaim := ∅
  inflightTemplateAllocations : AllocationsByNodeClaim := ∅
  inflightConsumedCapacity : DeviceCapacities := ∅
  consumedCapacityByNodeClaimIT : Map NodeClaimID (Map InstanceTypeID DeviceCapacities) := ∅
  templateConsumedCapacity : Map NodeClaimID (Map InstanceTypeID DeviceCapacities) := ∅
  remainingCounters : PoolCounters := ∅
  countersByNodeClaimIT : Map NodeClaimID (Map InstanceTypeID PoolCounters) := ∅
  templateRemainingCounters : Map NodeClaimID (Map InstanceTypeID PoolCounters) := ∅

structure AllocatedDeviceState where
  exclusiveDevices : Finset CloudProvider.DeviceID := ∅
  consumedCapacity : Map CloudProvider.DeviceID ConsumedCapacity := ∅

structure DeviceAllocationResult where
  deviceID : DeviceID
  consumedCapacity : Option ConsumedCapacity
  requestName : RequestName

structure ResourceClaimAllocationMetadata where
  nodeClaimID : NodeClaimID
  contributedRequirements : Map InstanceTypeID Requirements := ∅
  totalRequirements : Requirements := Requirements.empty
  usedTemplateDevices : Bool := false
  devices : Map InstanceTypeID (List DeviceAllocationResult) := ∅

/-- What a successful search hands over for committing. -/
structure Allocation where
  nodeClaimID : NodeClaimID
  deviceIDsByIT : Map InstanceTypeID (List DeviceID)
  claimMetadata : Map ResourceClaimID ResourceClaimAllocationMetadata
  filteredPools : List Pool
  counterConsumptionByIT : Map InstanceTypeID PoolCounters
  templateCounterConsumptionByIT : Map InstanceTypeID PoolCounters
  capacityConsumptionByIT : Map InstanceTypeID DeviceCapacities
  templateCapacityConsumptionByIT : Map InstanceTypeID DeviceCapacities
  templateCounterTotalsByIT : Map InstanceTypeID PoolCounters

def newAllocationTracker (allocatedState : AllocatedDeviceState) : AllocationTracker where
  preallocatedDevices := allocatedState.exclusiveDevices.image fun id => { toDeviceID := id }
  preallocatedConsumedCapacity := allocatedState.consumedCapacity.entries.foldl
    (fun capacities entry => capacities.insert { toDeviceID := entry.1 } entry.2) ∅

/-- The devices recorded for an instance type of a node claim. -/
def devicesFor (m : AllocationsByNodeClaim) (nodeClaimID : NodeClaimID) (it : InstanceTypeID) :
    Finset DeviceID :=
  ((m.lookup nodeClaimID).bind (·.lookup it)).getD ∅

def insertAllocation (m : AllocationsByNodeClaim) (deviceID : DeviceID) (nodeClaimID : NodeClaimID)
    (instanceTypeID : InstanceTypeID) : Option AllocationsByNodeClaim :=
  let itAllocs := devicesFor m nodeClaimID instanceTypeID
  if deviceID ∈ itAllocs then none
  else some (m.insert nodeClaimID
    (((m.lookup nodeClaimID).getD ∅).insert instanceTypeID (insert deviceID itAllocs)))

/-- `delete(m[nodeClaim], instanceType)` -/
def deleteAllocations (m : AllocationsByNodeClaim) (nodeClaimID : NodeClaimID) (it : InstanceTypeID) :
    AllocationsByNodeClaim :=
  match m.lookup nodeClaimID with
  | none => m
  | some nodeClaimAllocs => m.insert nodeClaimID (nodeClaimAllocs.erase it)

/-- Whether a search recorded consumed capacity, possibly none, for the device. -/
def tracksCapacity (consumptionByIT : Map InstanceTypeID DeviceCapacities) (it : InstanceTypeID)
    (deviceID : DeviceID) : Bool :=
  ((consumptionByIT.lookup it).bind (·.lookup deviceID)).isSome

namespace AllocationTracker

variable (tracker : AllocationTracker)

def isAllocated (deviceID : DeviceID) (nodeClaimID : NodeClaimID) (instanceType : InstanceTypeID) : Bool :=
  if deviceID.template then
    deviceID ∈ devicesFor tracker.inflightTemplateAllocations nodeClaimID instanceType
  else if deviceID ∈ tracker.preallocatedDevices then true
  else match tracker.inflightClusterAllocations.lookup deviceID with
    | some metadata =>
      if metadata.nodeClaimID ≠ nodeClaimID then true else instanceType ∈ metadata.instanceTypes
    | none => false

/-- Records one in-cluster device as held by an instance type of a node claim. -/
def hold (nodeClaimID : NodeClaimID) (it : InstanceTypeID) (id : DeviceID) : Option AllocationTracker :=
  (insertAllocation tracker.inflightClusterAllocationsByNodeClaim id nodeClaimID it).bind fun byNodeClaim =>
    match tracker.inflightClusterAllocations.lookup id with
    | some metadata =>
      if metadata.nodeClaimID ≠ nodeClaimID then none
      else if it ∈ metadata.instanceTypes then none
      else some { tracker with
        inflightClusterAllocationsByNodeClaim := byNodeClaim
        inflightClusterAllocations := tracker.inflightClusterAllocations.insert id
          { metadata with instanceTypes := insert it metadata.instanceTypes } }
    | none => some { tracker with
        inflightClusterAllocationsByNodeClaim := byNodeClaim
        inflightClusterAllocations := tracker.inflightClusterAllocations.insert id ⟨nodeClaimID, {it}⟩ }

/-- A device tracked through its capacity is not recorded as held. -/
def commitDevice (alloc : Allocation) (it : InstanceTypeID) (tracker : AllocationTracker)
    (id : DeviceID) : Option AllocationTracker :=
  if id.template then
    if tracksCapacity alloc.templateCapacityConsumptionByIT it id then some tracker
    else (insertAllocation tracker.inflightTemplateAllocations id alloc.nodeClaimID it).map
      fun allocations => { tracker with inflightTemplateAllocations := allocations }
  else if tracksCapacity alloc.capacityConsumptionByIT it id then some tracker
  else tracker.hold alloc.nodeClaimID it id

def commitDevices (alloc : Allocation) : Option AllocationTracker :=
  (alloc.deviceIDsByIT.entries.flatMap fun entry => entry.2.map fun id => (entry.1, id)).foldlM
    (fun tracker use => tracker.commitDevice alloc use.1 use.2) tracker

def commitCounters (nodeClaimID : NodeClaimID) (newCounterConsumptionByIT : Map InstanceTypeID PoolCounters) :
    AllocationTracker :=
  if newCounterConsumptionByIT.entries.isEmpty then tracker
  else
    let stored := (tracker.countersByNodeClaimIT.lookup nodeClaimID).getD ∅
    let oldCounterMax := pessimisticCounterMax stored
    let merged := stored.mergeAll (fun old pools => old.elim pools (accumulatePools · pools))
      newCounterConsumptionByIT
    let newCounterMax := pessimisticCounterMax merged
    { tracker with
      countersByNodeClaimIT := tracker.countersByNodeClaimIT.insert nodeClaimID merged
      remainingCounters :=
        subtractDeltaFromRemaining tracker.remainingCounters oldCounterMax newCounterMax }

def releaseCounters (nodeClaimID : NodeClaimID) (releasedITs : List InstanceTypeID) : AllocationTracker :=
  match tracker.countersByNodeClaimIT.lookup nodeClaimID with
  | none => tracker
  | some stored =>
    let kept := stored.deleteAll releasedITs
    { tracker with
      countersByNodeClaimIT := withdraw tracker.countersByNodeClaimIT nodeClaimID kept
      remainingCounters := addDeltaToRemaining tracker.remainingCounters
        (pessimisticCounterMax stored) (pessimisticCounterMax kept) }

def commitCapacity (nodeClaimID : NodeClaimID) (newCapacityByIT : Map InstanceTypeID DeviceCapacities) :
    AllocationTracker :=
  if newCapacityByIT.entries.isEmpty then tracker
  else
    let stored := (tracker.consumedCapacityByNodeClaimIT.lookup nodeClaimID).getD ∅
    let merged := stored.mergeAll (fun old devices => old.elim devices (accumulateKeyed · devices))
      newCapacityByIT
    { tracker with
      consumedCapacityByNodeClaimIT := tracker.consumedCapacityByNodeClaimIT.insert nodeClaimID merged
      inflightConsumedCapacity := addCapacityDelta tracker.inflightConsumedCapacity
        (pessimisticCapacityMax stored) (pessimisticCapacityMax merged) }

def releaseCapacity (nodeClaimID : NodeClaimID) (releasedITs : List InstanceTypeID) : AllocationTracker :=
  match tracker.consumedCapacityByNodeClaimIT.lookup nodeClaimID with
  | none => tracker
  | some stored =>
    let kept := stored.deleteAll releasedITs
    { tracker with
      consumedCapacityByNodeClaimIT :=
        withdraw tracker.consumedCapacityByNodeClaimIT nodeClaimID kept
      inflightConsumedCapacity := subtractCapacityDelta tracker.inflightConsumedCapacity
        (pessimisticCapacityMax stored) (pessimisticCapacityMax kept) }

/-- The budget of a pool, less what its already allocated devices consume. -/
def initRemainingCounters (pool : Pool) : AllocationTracker :=
  if (tracker.remainingCounters.lookup pool.key).isSome then tracker
  else if pool.counterSets.entries.isEmpty then tracker
  else
    let isPreallocated := fun (d : DeviceWithID) =>
      decide (d.id ∈ tracker.preallocatedDevices) ||
        (tracker.preallocatedConsumedCapacity.lookup d.id).isSome
    { tracker with
      remainingCounters := tracker.remainingCounters.insert pool.key
        (((pool.devices ++ pool.nonTargetingDevices).filter isPreallocated).foldl
          (fun remaining d => deductFromCounters remaining d.device) pool.counterSets) }

def initTemplateRemainingCounters (nodeClaimID : NodeClaimID) (itID : InstanceTypeID) (totals : PoolCounters) :
    AllocationTracker :=
  let remainingByIT := (tracker.templateRemainingCounters.lookup nodeClaimID).getD ∅
  let initialised := if (remainingByIT.lookup itID).isSome then remainingByIT
    else remainingByIT.insert itID totals
  { tracker with
    templateRemainingCounters := tracker.templateRemainingCounters.insert nodeClaimID initialised }

def templateRemainingForIT (nodeClaimID : NodeClaimID) (itID : InstanceTypeID) : Option PoolCounters :=
  (tracker.templateRemainingCounters.lookup nodeClaimID).bind (·.lookup itID)

def templateConsumedCapacityForIT (nodeClaimID : NodeClaimID) (itID : InstanceTypeID) : Option DeviceCapacities :=
  (tracker.templateConsumedCapacity.lookup nodeClaimID).bind (·.lookup itID)

/-- A consumed counter set without a budget: the source writes to a nil map there. -/
def missesTemplateBudget (remaining consumed : PoolCounters) : Bool :=
  consumed.entries.any fun pool => pool.2.entries.any fun counterSet =>
    !counterSet.2.entries.isEmpty &&
      ((remaining.lookup pool.1).bind (·.lookup counterSet.1)).isNone

/-- A counter the budget does not name is charged from zero. -/
def deductTemplateBudget (remaining consumed : PoolCounters) : PoolCounters :=
  remaining.mergePresent (fun sets consumedSets => sets.mergePresent subQuantities consumedSets) consumed

def commitTemplateCounters (nodeClaimID : NodeClaimID) (consumptionByIT : Map InstanceTypeID PoolCounters) :
    Option AllocationTracker :=
  match tracker.templateRemainingCounters.lookup nodeClaimID with
  | none => some tracker
  | some remainingByIT =>
    if consumptionByIT.entries.any fun entry =>
        (remainingByIT.lookup entry.1).any (missesTemplateBudget · entry.2) then none
    else some { tracker with
      templateRemainingCounters := tracker.templateRemainingCounters.insert nodeClaimID
        (remainingByIT.mergePresent deductTemplateBudget consumptionByIT) }

def releaseTemplateCounters (nodeClaimID : NodeClaimID) (releasedITs : List InstanceTypeID) : AllocationTracker :=
  match tracker.templateRemainingCounters.lookup nodeClaimID with
  | none => tracker
  | some remainingByIT =>
    let kept := remainingByIT.deleteAll releasedITs
    { tracker with
      templateRemainingCounters :=
        withdraw tracker.templateRemainingCounters nodeClaimID kept }

def commitTemplateCapacity (nodeClaimID : NodeClaimID) (consumptionByIT : Map InstanceTypeID DeviceCapacities) :
    AllocationTracker :=
  if consumptionByIT.entries.isEmpty then tracker
  else
    let consumedByIT := (tracker.templateConsumedCapacity.lookup nodeClaimID).getD ∅
    { tracker with
      templateConsumedCapacity := tracker.templateConsumedCapacity.insert nodeClaimID
        (consumedByIT.mergeAll (fun old devices => old.elim devices (accumulateKeyed · devices))
          consumptionByIT) }

def releaseTemplateCapacity (nodeClaimID : NodeClaimID) (releasedITs : List InstanceTypeID) : AllocationTracker :=
  match tracker.templateConsumedCapacity.lookup nodeClaimID with
  | none => tracker
  | some consumedByIT =>
    let kept := consumedByIT.deleteAll releasedITs
    { tracker with
      templateConsumedCapacity :=
        withdraw tracker.templateConsumedCapacity nodeClaimID kept }

def commit (alloc : Allocation) : Option AllocationTracker :=
  (tracker.commitDevices alloc).bind fun held =>
    let charged := held.commitCounters alloc.nodeClaimID alloc.counterConsumptionByIT
    let initialised := alloc.templateCounterTotalsByIT.entries.foldl
      (fun tracker entry => tracker.initTemplateRemainingCounters alloc.nodeClaimID entry.1 entry.2) charged
    (initialised.commitTemplateCounters alloc.nodeClaimID alloc.templateCounterConsumptionByIT).map
      fun tracker =>
        (tracker.commitCapacity alloc.nodeClaimID alloc.capacityConsumptionByIT).commitTemplateCapacity
          alloc.nodeClaimID alloc.templateCapacityConsumptionByIT

/-- Withdraws one instance type from every device recorded for it; a device no instance type holds any
more becomes free. The panics are the two ways in which the indexes can disagree. -/
def releaseDevices (nodeClaimID : NodeClaimID) (tracker : AllocationTracker) (it : InstanceTypeID) :
    Option AllocationTracker :=
  let devices := devicesFor tracker.inflightClusterAllocationsByNodeClaim nodeClaimID it
  let isReferenced := fun id => (tracker.inflightClusterAllocations.lookup id).any fun metadata =>
    decide (it ∈ metadata.instanceTypes)
  if ∀ id ∈ devices, isReferenced id = true then
    some { tracker with
      inflightClusterAllocationsByNodeClaim :=
        deleteAllocations tracker.inflightClusterAllocationsByNodeClaim nodeClaimID it
      inflightClusterAllocations := tracker.inflightClusterAllocations.filterMapValues fun id metadata =>
        if id ∈ devices then
          let rest := metadata.instanceTypes.erase it
          if rest = ∅ then none else some { metadata with instanceTypes := rest }
        else some metadata
      inflightTemplateAllocations :=
        deleteAllocations tracker.inflightTemplateAllocations nodeClaimID it }
  else none

def releaseInstanceTypes (nodeClaimID : NodeClaimID) (instanceTypes : List InstanceTypeID) :
    Option AllocationTracker :=
  (instanceTypes.foldlM (releaseDevices nodeClaimID) tracker).map fun freed =>
    (((freed.releaseCounters nodeClaimID instanceTypes).releaseTemplateCounters nodeClaimID
      instanceTypes).releaseCapacity nodeClaimID instanceTypes).releaseTemplateCapacity nodeClaimID
        instanceTypes

end AllocationTracker

end Karpenter.DynamicResources
