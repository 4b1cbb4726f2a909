import Karpenter.DynamicResources.Request
import Karpenter.DynamicResources.Tracker

/-! The depth-first search for devices on one instance type. The search state is explicit: a branch that
fails undoes its own changes step by step, exactly where the source does. The recursion is open in the
call that fills the next slot and is closed by a bound on its depth; running out of depth looks like the
deadline, which may also end any branch. The index of pools by key is read off the list of pools. -/
namespace Karpenter.DynamicResources

open Go (Map)
open Resources
open Scheduling (Requirements)
open CloudProvider (Device CounterSets)

structure MatchKey where
  deviceID : DeviceID
  claimIndex : Nat
  requestIndex : Nat
  subRequestIndex : Option Nat
  deriving DecidableEq

structure BacktrackSnapshot where
  reqs : Requirements
  pools : List Pool

structure DeviceAllocationMetadata where
  claimIndex : Nat
  deviceWithID : DeviceWithID
  consumedCapacity : Option ConsumedCapacity
  requestName : RequestName

/-- What stays fixed while one instance type is searched. -/
structure SearchContext where
  env : Environment
  tracker : AllocationTracker
  nodeClaim : NodeClaim
  itID : InstanceTypeID
  templateDevicesByIT : Map InstanceTypeID (List DeviceWithID)
  claimData : List ClaimData
  templateRemainingCounters : Option PoolCounters

/-- What the search changes. `constraints` lists the constraints of each claim. -/
structure Search where
  polls : Nat := 0
  deviceMatchesRequest : Map MatchKey Bool := ∅
  allocatedDevices : Finset DeviceID := ∅
  allocatedDevicesMetadata : List DeviceAllocationMetadata := []
  allocatingCounters : PoolCounters := ∅
  templateAllocatingCounters : PoolCounters := ∅
  allocatingCapacity : DeviceCapacities := ∅
  templateAllocatingCapacity : DeviceCapacities := ∅
  requirements : Requirements
  pools : List Pool
  snapshots : List BacktrackSnapshot := []
  constraints : List (List MatchAttributeConstraint)

/-- The slot being filled; no sub-request for an exact request or the parent of alternatives. -/
structure Position where
  claimIdx : Nat
  reqIdx : Nat
  subReqIdx : Option Nat
  slotIdx : Nat

def poolCountersExhausted (ctx : SearchContext) (a : Search) (pool : Pool) : Bool :=
  if pool.counterSets.entries.isEmpty then false
  else match ctx.tracker.remainingCounters.lookup pool.key, a.allocatingCounters.lookup pool.key with
    | some remaining, some allocating =>
      allocating.entries.any fun counterSet => counterSet.2.entries.any fun allocCounter =>
        match quantity? remaining counterSet.1 allocCounter.1 with
        | some remCounter => decide (value remCounter - value allocCounter.2 ≤ 0)
        | none => false
    | _, _ => false

/-- Whether the budget covers the device on top of what this search has taken. -/
def checkCounters (allocatingCounterSets : CounterSets) (device : Device)
    (remainingCounterSets : Option CounterSets) : Bool :=
  if device.consumesCounters.entries.isEmpty then true
  else match remainingCounterSets with
    | none => false
    | some remaining =>
      device.consumesCounters.entries.all fun consumption =>
        match remaining.lookup consumption.1 with
        | none => false
        | some counterSetRemaining => consumption.2.entries.all fun counter =>
          match counterSetRemaining.lookup counter.1 with
          | none => false
          | some remainingCounter =>
            let allocatingVal := value (amountAt allocatingCounterSets consumption.1 counter.1)
            !decide (value remainingCounter - allocatingVal < value counter.2)

/-- The capacity already taken from a device, by earlier allocations and by this search. -/
def usedCapacity (ctx : SearchContext) (a : Search) (deviceID : DeviceID) (name : String) : Quantity :=
  if deviceID.template then
    ((ctx.tracker.templateConsumedCapacityForIT ctx.nodeClaim.id ctx.itID).elim 0
        (amountAt · deviceID name)) +
      amountAt a.templateAllocatingCapacity deviceID name
  else
    amountAt ctx.tracker.preallocatedConsumedCapacity deviceID name +
      amountAt ctx.tracker.inflightConsumedCapacity deviceID name +
      amountAt a.allocatingCapacity deviceID name

/-- What the device would be charged for the request; `none` if it cannot take it. -/
def checkCapacity (ctx : SearchContext) (a : Search) (device : Device) (deviceID : DeviceID)
    (rd : RequestData) : Option (Option ConsumedCapacity) :=
  if !device.allowMultipleAllocations then some none
  else if requestsContainNonExistCapacity rd.capacityRequests device.capacity then none
  else match computeConsumedCapacity rd.capacityRequests device.capacity with
    | .error _ => none
    | .ok none => some none
    | .ok (some consumed) =>
      if consumed.entries.all fun charge =>
          let total := (device.capacity.lookup charge.1).elim 0 (·.value)
          decide (usedCapacity ctx a deviceID charge.1 + charge.2 ≤ total)
      then some (some consumed) else none

/-- Shared devices are gated by their capacity, exclusive ones by not being held. -/
def availability (ctx : SearchContext) (a : Search) (rd : RequestData) (dw : DeviceWithID) :
    Option (Option ConsumedCapacity) :=
  if dw.device.allowMultipleAllocations then checkCapacity ctx a dw.device dw.id rd
  else if ctx.tracker.isAllocated dw.id ctx.nodeClaim.id ctx.itID then none
  else if dw.id ∈ a.allocatedDevices then none
  else some none

def countersAvailable (ctx : SearchContext) (a : Search) (dw : DeviceWithID) : Bool :=
  if dw.device.consumesCounters.entries.isEmpty then true
  else if dw.id.template then
    checkCounters ((a.templateAllocatingCounters.lookup dw.id.poolKey).getD ∅) dw.device
      (ctx.templateRemainingCounters.bind (·.lookup dw.id.poolKey))
  else if a.pools.any (·.key = dw.id.poolKey) then
    checkCounters ((a.allocatingCounters.lookup dw.id.poolKey).getD ∅) dw.device
      (ctx.tracker.remainingCounters.lookup dw.id.poolKey)
  else false

/-- Selector results are remembered per device and request; an evaluation error is not. -/
def matchesRequest (ctx : SearchContext) (pos : Position) (rd : RequestData) (dw : DeviceWithID)
    (a : Search) : Bool × Search :=
  let mk : MatchKey := ⟨dw.id, pos.claimIdx, pos.reqIdx, pos.subReqIdx⟩
  match a.deviceMatchesRequest.lookup mk with
  | some matched => (matched, a)
  | none =>
    match deviceMatchesSelectors ctx.env dw.device dw.id rd.selectors with
    | .error _ => (false, a)
    | .ok matched =>
      (matched, { a with deviceMatchesRequest := a.deviceMatchesRequest.insert mk matched })

namespace Search

def setConstraints (a : Search) (claimIdx : Nat) (constraints : List MatchAttributeConstraint) : Search :=
  { a with constraints := a.constraints.set claimIdx constraints }

def removeFromConstraints (a : Search) (claimIdx : Nat) (requestName : RequestName) : Search :=
  a.setConstraints claimIdx (removeConstraints requestName (a.constraints.getD claimIdx []))

/-- Takes on the topology of a device, keeping what is needed to drop it again. -/
def narrow (ctx : SearchContext) (dw : DeviceWithID) (a : Search) : Option Search :=
  match dw.topologyRequirements with
  | none => some a
  | some reqs =>
    if a.requirements.isCompatible reqs
        (compatibilityOptions ctx.env.wellKnownLabels ctx.nodeClaim.superposed) then
      let requirements := a.requirements.add reqs.values
      some { a with
        snapshots := ⟨a.requirements, a.pools⟩ :: a.snapshots
        requirements
        pools := filterPools ctx.env.wellKnownLabels a.pools requirements ctx.nodeClaim.nodeName
          ctx.nodeClaim.superposed }
    else none

def widen (dw : DeviceWithID) (a : Search) : Search :=
  match dw.topologyRequirements, a.snapshots with
  | some _, snapshot :: rest =>
    { a with requirements := snapshot.reqs, pools := snapshot.pools, snapshots := rest }
  | _, _ => a

/-- A shared device gets a capacity entry even if it has no dimensions, so that a commit can tell it from
an exclusive one. -/
def openCapacity (capacities : DeviceCapacities) (dw : DeviceWithID) : DeviceCapacities :=
  if dw.device.allowMultipleAllocations && (capacities.lookup dw.id).isNone then capacities.insert dw.id ∅
  else capacities

def record (pos : Position) (rd : RequestData) (dw : DeviceWithID) (consumed : Option ConsumedCapacity)
    (a : Search) : Search :=
  let recorded : Search := { a with
    allocatedDevices := insert dw.id a.allocatedDevices
    allocatedDevicesMetadata := a.allocatedDevicesMetadata ++ [⟨pos.claimIdx, dw, consumed, rd.name⟩] }
  if dw.id.template then
    { recorded with
      templateAllocatingCapacity :=
        deductAllocatingCapacity (openCapacity a.templateAllocatingCapacity dw) consumed dw.id
      templateAllocatingCounters :=
        deductAllocatingCounters a.templateAllocatingCounters dw.device dw.id.poolKey }
  else
    { recorded with
      allocatingCapacity := deductAllocatingCapacity (openCapacity a.allocatingCapacity dw) consumed dw.id
      allocatingCounters := deductAllocatingCounters a.allocatingCounters dw.device dw.id.poolKey }

def undo (dw : DeviceWithID) (consumed : Option ConsumedCapacity) (a : Search) : Search :=
  let removed : Search := { a with
    allocatedDevices := a.allocatedDevices.erase dw.id
    allocatedDevicesMetadata := a.allocatedDevicesMetadata.dropLast }
  if dw.id.template then
    { removed with
      templateAllocatingCapacity := restoreAllocatingCapacity a.templateAllocatingCapacity consumed dw.id
      templateAllocatingCounters :=
        restoreAllocatingCounters a.templateAllocatingCounters dw.device dw.id.poolKey }
  else
    { removed with
      allocatingCapacity := restoreAllocatingCapacity a.allocatingCapacity consumed dw.id
      allocatingCounters := restoreAllocatingCounters a.allocatingCounters dw.device dw.id.poolKey }

end Search

/-- One device at one slot: the checks, the tentative allocation, the rest of the search, and the way
back if the rest fails. -/
def tryDevice (ctx : SearchContext) (pos : Position) (rd : RequestData) (dw : DeviceWithID)
    (recurse : Search → Bool × Search) (a : Search) : Bool × Search :=
  match availability ctx a rd dw with
  | none => (false, a)
  | some consumed =>
    if !countersAvailable ctx a dw then (false, a)
    else
      match matchesRequest ctx pos rd dw a with
      | (false, a) => (false, a)
      | (true, a) =>
        let (satisfied, constraints) :=
          addConstraints rd.name dw.device dw.id (a.constraints.getD pos.claimIdx [])
        let a := a.setConstraints pos.claimIdx constraints
        if !satisfied then (false, a)
        else
          match a.narrow ctx dw with
          | none => (false, a.removeFromConstraints pos.claimIdx rd.name)
          | some narrowed =>
            match recurse (narrowed.record pos rd dw consumed) with
            | (true, a) => (true, a)
            | (false, a) =>
              (false, ((a.undo dw consumed).widen dw).removeFromConstraints pos.claimIdx rd.name)

/-- Tries the items in order on the state the failed ones leave behind. -/
def firstSuccess (attempt : α → Search → Bool × Search) : List α → Search → Bool × Search
  | [], a => (false, a)
  | x :: rest, a =>
    match attempt x a with
    | (true, a) => (true, a)
    | (false, a) => firstSuccess attempt rest a

def numSlots (ctx : SearchContext) (rd : RequestData) : Nat :=
  match rd.allocationMode with
  | .all => rd.allDevices.length + ((rd.allTemplateDevicesByIT.lookup ctx.itID).getD []).length
  | .exactCount => rd.numDevices

def claimDeviceCount (a : Search) (claimIdx : Nat) : Nat :=
  a.allocatedDevicesMetadata.countP fun metadata => metadata.claimIndex = claimIdx

def dfsExactCount (ctx : SearchContext) (pos : Position) (rd : RequestData)
    (recurse : Search → Bool × Search) (a : Search) : Bool × Search :=
  let inPool := fun (pool : Pool) (a : Search) =>
    if pool.incomplete then (false, a)
    else
      let exhausted := poolCountersExhausted ctx a pool
      firstSuccess (fun d a =>
        if exhausted && !d.device.consumesCounters.entries.isEmpty then (false, a)
        else tryDevice ctx pos rd d recurse a) pool.devices a
  match firstSuccess inPool a.pools a with
  | (true, a) => (true, a)
  | (false, a) => firstSuccess (fun d a => tryDevice ctx pos rd d recurse a)
      ((ctx.templateDevicesByIT.lookup ctx.itID).getD []) a

def dfsAllMode (ctx : SearchContext) (pos : Position) (rd : RequestData)
    (recurse : Search → Bool × Search) (a : Search) : Bool × Search :=
  let templateDevices := (rd.allTemplateDevicesByIT.lookup ctx.itID).getD []
  match (rd.allDevices ++ templateDevices)[pos.slotIdx]? with
  | some d => tryDevice ctx pos rd d recurse a
  | none => (false, a)

/-- The request a position refers to. -/
def ClaimRequest.resolve : ClaimRequest → Option Nat → Option RequestData
  | .exactly rd, none => some rd
  | .firstAvailable _ first others, some subReqIdx => (first :: others)[subReqIdx]?
  | _, _ => none

def Environment.isDone (env : Environment) (polls : Nat) : Bool :=
  match env.deadline with
  | some limit => limit ≤ polls
  | none => false

/-- Fills the slots of one resolved request and goes on to the next request. -/
def dfsSlots (ctx : SearchContext) (recurse : Position → Search → Bool × Search) (pos : Position)
    (rd : RequestData) (a : Search) : Bool × Search :=
  if rd.allocationMode = .all ∧ numSlots ctx rd = 0 then (false, a)
  else if pos.slotIdx = 0 ∧ allocationResultsMaxSize < claimDeviceCount a pos.claimIdx + numSlots ctx rd then
    (false, a)
  else if numSlots ctx rd ≤ pos.slotIdx then recurse ⟨pos.claimIdx, pos.reqIdx + 1, none, 0⟩ a
  else
    let nextSlot := recurse { pos with slotIdx := pos.slotIdx + 1 }
    match rd.allocationMode with
    | .all => dfsAllMode ctx pos rd nextSlot a
    | .exactCount => dfsExactCount ctx pos rd nextSlot a

def dfsBody (ctx : SearchContext) (recurse : Position → Search → Bool × Search) (pos : Position)
    (a : Search) : Bool × Search :=
  let polled := { a with polls := a.polls + 1 }
  if ctx.env.isDone a.polls then (false, polled)
  else match ctx.claimData[pos.claimIdx]? with
    | none => (true, polled)
    | some cd =>
      match cd.requests[pos.reqIdx]? with
      | none => recurse ⟨pos.claimIdx + 1, 0, none, 0⟩ polled
      | some req =>
        match req, pos.subReqIdx with
        | .firstAvailable _ _ others, none =>
          -- The first alternative whose subtree completes the search wins.
          firstSuccess (fun subIdx a => recurse ⟨pos.claimIdx, pos.reqIdx, some subIdx, 0⟩ a)
            (List.range (others.length + 1)) polled
        | req, subReqIdx =>
          match req.resolve subReqIdx with
          | some rd => dfsSlots ctx recurse pos rd polled
          | none => (false, polled)

def dfs (ctx : SearchContext) : Nat → Position → Search → Bool × Search
  | 0, _, a => (false, a)
  | depth + 1, pos, a => dfsBody ctx (dfs ctx depth) pos a

/-- One level for each claim, two and one per slot for each request. -/
def searchDepth (ctx : SearchContext) : Nat :=
  1 + (ctx.claimData.map fun cd => 1 + (cd.requests.map fun req =>
    2 + (req.alternatives.map (numSlots ctx)).foldl max 0).sum).sum

end Karpenter.DynamicResources
