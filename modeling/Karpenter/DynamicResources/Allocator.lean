import Karpenter.DynamicResources.Search

/-! The allocator of a scheduling loop: classifying claims, searching every instance type of a node
claim, and committing or releasing what was found. `none` stands for a panic. Requirements are values, so
the copies the source makes before it mutates them disappear; logging and the wrapping of errors with
object names are left out. -/
namespace Karpenter.DynamicResources

open Go (Map)
open Resources
open Scheduling (Requirements)
open CloudProvider (CounterSets)

structure Allocator where
  allocationTracker : AllocationTracker
  attributeBindings : AttributeBindings := ∅
  inClusterSlices : List ResourceSlice
  poolCache : Map NodeClaimID (List Pool) := ∅
  claimAllocationMetadata : Map ResourceClaimID ResourceClaimAllocationMetadata := ∅
  deletingPodUIDs : Finset String := ∅

structure AllocationResult where
  instanceTypes : List InstanceTypeID
  requirements : Requirements
  allocation : Option Allocation

/-- Counter budgets are set up for all pools at once, so that searches only read the tracker. -/
def newAllocator (wellKnownLabels : Finset String) (inClusterSlices : List ResourceSlice)
    (allocatedState : AllocatedDeviceState) (attributeBindings : AttributeBindings)
    (deletingPodUIDs : Finset String) : Allocator where
  allocationTracker := (gatherPools wellKnownLabels inClusterSlices Requirements.empty "" true).foldl
    (fun tracker pool => tracker.initRemainingCounters pool) (newAllocationTracker allocatedState)
  attributeBindings
  inClusterSlices
  deletingPodUIDs

/-- The budget shadowed while the devices of an all-devices request are added up. -/
def deductShadow (poolShadow consumed : CounterSets) : Option CounterSets :=
  if consumed.entries.all fun consumption =>
      match poolShadow.lookup consumption.1 with
      | none => false
      | some counters => consumption.2.entries.all fun counter =>
        match counters.lookup counter.1 with
        | none => false
        | some available => decide (0 ≤ available - counter.2)
  then some (deductKeyed poolShadow consumed) else none

/-- A pool without a budget ends the check: the search itself will decide. -/
def shadowsFeasible (ctx : SearchContext) :
    List DeviceWithID → PoolCounters → PoolCounters → Bool
  | [], _, _ => true
  | d :: rest, inClusterShadow, templateShadow =>
    if d.device.consumesCounters.entries.isEmpty then
      shadowsFeasible ctx rest inClusterShadow templateShadow
    else
      let key := d.id.poolKey
      let poolShadow :=
        if d.id.template then
          (templateShadow.lookup key).orElse fun _ => ctx.templateRemainingCounters.bind (·.lookup key)
        else (inClusterShadow.lookup key).orElse fun _ => ctx.tracker.remainingCounters.lookup key
      match poolShadow with
      | none => true
      | some budget =>
        match deductShadow budget d.device.consumesCounters with
        | none => false
        | some rest' =>
          if d.id.template then shadowsFeasible ctx rest inClusterShadow (templateShadow.insert key rest')
          else shadowsFeasible ctx rest (inClusterShadow.insert key rest') templateShadow

def allModeCountersFeasible (ctx : SearchContext) (rd : RequestData) : Bool :=
  shadowsFeasible ctx (rd.allDevices ++ (rd.allTemplateDevicesByIT.lookup ctx.itID).getD []) ∅ ∅

def countersFeasible (ctx : SearchContext) : Bool :=
  ctx.claimData.all fun cd => cd.requests.all fun
    | .exactly rd => decide (rd.allocationMode ≠ .all) || allModeCountersFeasible ctx rd
    | .firstAvailable _ first others => (first :: others).any fun sub =>
      decide (sub.allocationMode ≠ .all) || allModeCountersFeasible ctx sub

/-- Template devices that come with the requirements of their set carry them as topology. -/
def templateSliceDevices (s : TemplateSlice) : List DeviceWithID :=
  s.template.devices.map fun d => {
    device := d
    id := { driver := s.template.driver, pool := s.template.pool, device := d.name, template := true }
    topologyRequirements := if s.requirements.keys.isEmpty then none else some s.requirements }

def templateDevicesByInstanceType (resourceSlices : Map InstanceTypeID (List TemplateSlice)) :
    Map InstanceTypeID (List DeviceWithID) :=
  resourceSlices.filterMapValues fun _ slices =>
    let devices := slices.flatMap templateSliceDevices
    if devices.isEmpty then none else some devices

theorem template_of_templateDevices (found : (templateDevicesByInstanceType resourceSlices).lookup it = some devices) :
    ∀ d ∈ devices, d.id.template = true := by
  rw [templateDevicesByInstanceType, Map.lookup_filterMapValues] at found
  obtain ⟨slices, _, kept⟩ := Option.bind_eq_some_iff.mp found
  dsimp only at kept
  split at kept
  · cases kept
  · cases kept
    intro d member
    obtain ⟨s, _, inSlice⟩ := List.mem_flatMap.mp member
    obtain ⟨device, _, rfl⟩ := List.mem_map.mp inSlice
    rfl

def computeTemplateTotals (slices : List TemplateSlice) : Option PoolCounters :=
  let declared := slices.filter fun s => !s.template.sharedCounters.isEmpty
  if declared.isEmpty then none
  else some (declared.foldl (fun totals s =>
    let poolKey : PoolKey := ⟨s.template.driver, s.template.pool⟩
    totals.insert poolKey (s.template.sharedCounters.foldl (fun counterSets cs =>
      counterSets.insert cs.name
        (((counterSets.lookup cs.name).getD ∅).mergeAll (fun _ quantity => quantity) cs.counters))
      ((totals.lookup poolKey).getD ∅))) ∅)

/-- Everything one call of `allocate` has settled before it searches the instance types. -/
structure AllocateCall where
  allocator : Allocator
  env : Environment
  nodeClaim : NodeClaim
  initialPools : List Pool
  requirements : Requirements
  claimData : List ClaimData

namespace AllocateCall

def templateDevicesByIT (call : AllocateCall) : Map InstanceTypeID (List DeviceWithID) :=
  templateDevicesByInstanceType call.nodeClaim.resourceSlices

/-- Budgets an earlier commit has set up come first; otherwise they are computed for this call. -/
def buildTemplateCounters (call : AllocateCall) (itID : InstanceTypeID) : Option PoolCounters :=
  match call.allocator.allocationTracker.templateRemainingForIT call.nodeClaim.id itID with
  | some remaining => some remaining
  | none => (call.nodeClaim.resourceSlices.lookup itID).bind computeTemplateTotals

def context (call : AllocateCall) (itID : InstanceTypeID) : SearchContext where
  env := call.env
  tracker := call.allocator.allocationTracker
  nodeClaim := call.nodeClaim
  itID
  templateDevicesByIT := call.templateDevicesByIT
  claimData := call.claimData
  templateRemainingCounters := call.buildTemplateCounters itID

/-- The state a search starts from. Requirements and remembered selector results carry over from the
instance types searched before. -/
def restoreState (call : AllocateCall) (itID : InstanceTypeID) (a : Search) : Search where
  polls := a.polls
  deviceMatchesRequest := a.deviceMatchesRequest
  requirements := a.requirements
  pools := call.initialPools
  constraints := call.claimData.map fun cd => cd.constraints.map fun c =>
    { c.reset with
      attributeBindingFallback :=
        some ⟨call.allocator.attributeBindings, call.nodeClaim.nodePoolID, itID⟩ }

def initialSearch (call : AllocateCall) : Search where
  requirements := call.requirements
  pools := call.initialPools
  constraints := []

/-- The topology of all devices a finished search has allocated. -/
def contributed (a : Search) : Requirements :=
  Requirements.newRequirements
    (a.allocatedDevicesMetadata.flatMap fun da => (da.deviceWithID.topologyRequirements.map (·.values)).getD [])

/-- One search per instance type; an instance type whose search fails is dropped. -/
def searchInstanceTypes (call : AllocateCall) :
    List InstanceTypeID → Search → Except String (List (InstanceTypeID × Search) × Search)
  | [], a => .ok ([], a)
  | itID :: rest, a =>
    if call.env.isDone a.polls then .error "context deadline exceeded"
    else
      let ctx := call.context itID
      let started := call.restoreState itID { a with polls := a.polls + 1 }
      if !countersFeasible ctx then call.searchInstanceTypes rest started
      else match dfs ctx (searchDepth ctx) ⟨0, 0, none, 0⟩ started with
        | (false, failed) => call.searchInstanceTypes rest failed
        | (true, finished) =>
          let next := { finished with
            requirements := finished.requirements.add (contributed finished).values }
          match call.searchInstanceTypes rest next with
          | .error err => .error err
          | .ok (more, last) => .ok ((itID, finished) :: more, last)

def contribute (itID : InstanceTypeID) (claim : ResourceClaimAllocationMetadata)
    (da : DeviceAllocationMetadata) : ResourceClaimAllocationMetadata :=
  { claim with
    contributedRequirements :=
      match da.deviceWithID.topologyRequirements with
      | none => claim.contributedRequirements
      | some reqs => claim.contributedRequirements.insert itID
          (((claim.contributedRequirements.lookup itID).getD Requirements.empty).add reqs.values)
    usedTemplateDevices := claim.usedTemplateDevices || da.deviceWithID.id.template
    devices := claim.devices.insert itID ((claim.devices.lookup itID).getD [] ++
      [⟨da.deviceWithID.id, da.consumedCapacity, da.requestName⟩]) }

/-- What is recorded for one claim after all instance types have been searched. -/
def claimMetadata (call : AllocateCall) (survivors : List (InstanceTypeID × Search)) (claimIdx : Nat) :
    ResourceClaimAllocationMetadata :=
  let uses := survivors.flatMap fun survivor =>
    (survivor.2.allocatedDevicesMetadata.filter (·.claimIndex = claimIdx)).map fun da => (survivor.1, da)
  let claim := uses.foldl (fun claim use => contribute use.1 claim use.2) { nodeClaimID := call.nodeClaim.id }
  { claim with
    totalRequirements := Requirements.newRequirements
      (claim.contributedRequirements.entries.flatMap fun entry => entry.2.values) }

def claimMetadataByRC (call : AllocateCall) (survivors : List (InstanceTypeID × Search)) :
    Map ResourceClaimID ResourceClaimAllocationMetadata :=
  Map.ofList (call.claimData.zipIdx.map fun (cd, claimIdx) => (cd.id, call.claimMetadata survivors claimIdx))

/-- The handle for committing the finished searches. -/
def allocation (call : AllocateCall) (survivors : List (InstanceTypeID × Search)) (last : Search) :
    Allocation :=
  let byIT : Map InstanceTypeID Search := Map.ofList survivors
  { nodeClaimID := call.nodeClaim.id
    deviceIDsByIT := byIT.mapValues fun _ a => a.allocatedDevicesMetadata.map (·.deviceWithID.id)
    claimMetadata := call.claimMetadataByRC survivors
    filteredPools := filterPools call.env.wellKnownLabels call.initialPools last.requirements
      call.nodeClaim.nodeName call.nodeClaim.superposed
    counterConsumptionByIT := byIT.mapValues fun _ a => a.allocatingCounters
    templateCounterConsumptionByIT := byIT.mapValues fun _ a => a.templateAllocatingCounters
    capacityConsumptionByIT := byIT.mapValues fun _ a => a.allocatingCapacity
    templateCapacityConsumptionByIT := byIT.mapValues fun _ a => a.templateAllocatingCapacity
    -- Only budgets that no earlier commit has set up are handed over.
    templateCounterTotalsByIT := byIT.filterMapValues fun itID _ =>
      match call.allocator.allocationTracker.templateRemainingForIT call.nodeClaim.id itID with
      | some _ => none
      | none => call.buildTemplateCounters itID }

def allocate (call : AllocateCall) : Except String AllocationResult :=
  match call.searchInstanceTypes call.nodeClaim.instanceTypes call.initialSearch with
  | .error err => .error err
  | .ok ([], _) => .error "no instance type can satisfy the allocation"
  | .ok (survivor :: others, last) =>
    let survivors := survivor :: others
    .ok {
      instanceTypes := survivors.map (·.1)
      requirements := Requirements.newRequirements (call.claimData.zipIdx.flatMap fun (_, claimIdx) =>
        (call.claimMetadata survivors claimIdx).contributedRequirements.entries.flatMap (·.2.values))
      allocation := some (call.allocation survivors last) }

end AllocateCall

namespace Allocator

variable (a : Allocator)

def claimReservedEntirelyByDeletingPods (claim : ResourceClaim) : Bool :=
  !claim.reservedFor.isEmpty && claim.reservedFor.all fun ref =>
    decide (ref.resource = "pods") && decide (ref.apiGroup = "") && decide (ref.uid ∈ a.deletingPodUIDs)

/-- What one claim does to the unallocated claims and the requirements collected so far. -/
def classifyClaim (env : Environment) (nodeClaim : NodeClaim) (result : List ResourceClaim × Requirements)
    (claim : ResourceClaim) : Except String (List ResourceClaim × Requirements) :=
  let options := compatibilityOptions env.wellKnownLabels nodeClaim.superposed
  match claim.allocation with
  | some allocation =>
    if a.claimReservedEntirelyByDeletingPods claim then .ok (result.1 ++ [claim], result.2)
    else match nodeSelectorsToRequirements allocation.nodeSelector with
      | none => .ok result
      | some reqs =>
        if result.2.isCompatible reqs options then .ok (result.1, result.2.add reqs.values)
        else .error "in-cluster allocation topology is incompatible with NodeClaim requirements"
  | none =>
    match a.claimAllocationMetadata.lookup (resourceClaimID claim) with
    | none => .ok (result.1 ++ [claim], result.2)
    | some metadata =>
      if metadata.usedTemplateDevices then
        if metadata.nodeClaimID ≠ nodeClaim.id then
          .error "claim is bound to a different in-flight NodeClaim"
        else .ok result
      else if metadata.totalRequirements.keys.isEmpty then .ok result
      else if result.2.isCompatible metadata.totalRequirements options then
        .ok (result.1, result.2.add metadata.totalRequirements.values)
      else .error "in-memory allocation topology is incompatible with NodeClaim requirements"

def classifyClaims (env : Environment) (nodeClaim : NodeClaim) (claims : List ResourceClaim) :
    Except String (List ResourceClaim × Requirements) :=
  claims.foldlM (a.classifyClaim env nodeClaim) ([], nodeClaim.requirements)

/-- The pools a search starts from: the cached ones narrowed further, or all of them gathered anew. -/
def poolsFor (env : Environment) (nodeClaim : NodeClaim) (requirements : Requirements) : List Pool :=
  match a.poolCache.lookup nodeClaim.id with
  | some cached => filterPools env.wellKnownLabels cached requirements nodeClaim.nodeName nodeClaim.superposed
  | none => env.arrange (gatherPools env.wellKnownLabels a.inClusterSlices requirements nodeClaim.nodeName
      nodeClaim.superposed)

inductive Prepared where
  | settled (result : AllocationResult)
  | search (call : AllocateCall)

/-- Everything `allocate` does before the search. -/
def prepare (env : Environment) (nodeClaim : NodeClaim) (claims : List ResourceClaim) : Except String Prepared :=
  if claims.isEmpty then .ok (.settled ⟨nodeClaim.instanceTypes, Requirements.empty, none⟩)
  else match a.classifyClaims env nodeClaim claims with
    | .error err => .error err
    | .ok ([], requirements) => .ok (.settled ⟨nodeClaim.instanceTypes, requirements, none⟩)
    | .ok (first :: others, requirements) =>
      let pools := a.poolsFor env nodeClaim requirements
      let templateDevicesByIT := templateDevicesByInstanceType nodeClaim.resourceSlices
      match (first :: others).mapM fun claim =>
          (validateClaimRequest env claim pools templateDevicesByIT).mapError fun err =>
            "validating claim " ++ claim.name.quote ++ ": " ++ err with
      | .error err => .error err
      | .ok claimData => .ok (.search {
          allocator := a, env, nodeClaim, initialPools := pools, requirements, claimData })

/-- A call that gets to its search has unallocated claims, all of which are valid. -/
theorem exists_of_prepare {a : Allocator} {nodeClaim : NodeClaim}
    (prepared : a.prepare env nodeClaim claims = .ok (.search call)) : ∃ first others requirements claimData,
      a.classifyClaims env nodeClaim claims = .ok (first :: others, requirements) ∧
      ((first :: others).mapM fun claim => (validateClaimRequest env claim (a.poolsFor env nodeClaim requirements)
        (templateDevicesByInstanceType nodeClaim.resourceSlices)).mapError fun err =>
          "validating claim " ++ claim.name.quote ++ ": " ++ err) = .ok claimData ∧
      call = {
        allocator := a, env, nodeClaim, initialPools := a.poolsFor env nodeClaim requirements, requirements
        claimData } := by
  rw [prepare] at prepared
  split at prepared
  · cases prepared
  · split at prepared
    · cases prepared
    · cases prepared
    · rename_i first others requirements classified
      dsimp only at prepared
      split at prepared
      · cases prepared
      · rename_i claimData validated
        cases prepared
        exact ⟨first, others, requirements, claimData, classified, validated, rfl⟩

def allocate (env : Environment) (nodeClaim : NodeClaim) (claims : List ResourceClaim) :
    Except String AllocationResult :=
  match a.prepare env nodeClaim claims with
  | .error err => .error err
  | .ok (.settled result) => .ok result
  | .ok (.search call) => call.allocate

/-- A claim that is already recorded panics. -/
def commit (allocation : Allocation) : Option Allocator :=
  (a.allocationTracker.commit allocation).bind fun tracker =>
    if allocation.claimMetadata.keys.any fun claimID => (a.claimAllocationMetadata.lookup claimID).isSome
    then none
    else some { a with
      allocationTracker := tracker
      poolCache := a.poolCache.insert allocation.nodeClaimID allocation.filteredPools
      claimAllocationMetadata := a.claimAllocationMetadata.mergeAll (fun _ metadata => metadata)
        allocation.claimMetadata }

def releaseFromClaim (instanceTypeIDs : List InstanceTypeID) (metadata : ResourceClaimAllocationMetadata) :
    ResourceClaimAllocationMetadata :=
  let needsRecomputation := instanceTypeIDs.any fun it =>
    (metadata.contributedRequirements.lookup it).any fun reqs => !reqs.keys.isEmpty
  let contributedRequirements := metadata.contributedRequirements.deleteAll instanceTypeIDs
  { metadata with
    contributedRequirements
    devices := metadata.devices.deleteAll instanceTypeIDs
    totalRequirements :=
      if needsRecomputation then Requirements.newRequirements
        (contributedRequirements.entries.flatMap fun entry => entry.2.values)
      else metadata.totalRequirements }

def releaseInstanceType (nodeClaimID : NodeClaimID) (instanceTypeIDs : List InstanceTypeID) : Option Allocator :=
  (a.allocationTracker.releaseInstanceTypes nodeClaimID instanceTypeIDs).map fun tracker =>
    { a with
      allocationTracker := tracker
      claimAllocationMetadata := a.claimAllocationMetadata.mapValues fun _ metadata =>
        if metadata.nodeClaimID ≠ nodeClaimID then metadata
        else releaseFromClaim instanceTypeIDs metadata }

end Allocator

end Karpenter.DynamicResources
