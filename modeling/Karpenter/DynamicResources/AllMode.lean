import Karpenter.DynamicResources.Survivors

/-! All-mode requests. Parsing a claim lists every matching device for them, in the cluster and on each
instance type, and the search fills one slot per device. In between, an instance type on which the claim would
get too many devices loses its template devices, but stays a candidate: when it survives on devices of the
cluster alone, its own devices are missing. -/
namespace Karpenter.DynamicResources

open Go (Map)

/-- A minimum over alternatives that is positive is so for each of them. -/
theorem ClaimRequest.pos_of_minOver_pos {req : ClaimRequest} {measure : RequestData → Nat}
    (positive : 0 < req.minOver measure) : ∀ rd ∈ req.alternatives, 0 < measure rd := by
  cases req with
  | exactly request =>
    intro rd member
    rw [List.mem_singleton.mp member]
    exact positive
  | firstAvailable name first others =>
    have each (least : Nat) (rd : RequestData) : 0 < min least (measure rd) ↔ 0 < least ∧ 0 < measure rd := lt_min_iff
    exact List.forall_mem_cons.mpr ((Go.foldl_iff (P := (0 < ·)) each others (measure first)).mp positive)

/-- A pruned instance type has template devices in every alternative of some request. -/
theorem exists_of_mem_prunedITs {requests : List ClaimRequest}
    (within : baseTotalDevices requests ≤ allocationResultsMaxSize) (pruned : it ∈ prunedITs requests) :
    ∃ req ∈ requests, ∀ rd ∈ req.alternatives, (rd.allTemplateDevicesByIT.lookup it).getD [] ≠ [] := by
  have exceeds := of_decide_eq_true (List.mem_filter.mp pruned).2
  have positive : 0 < templateCount requests it := by omega
  rw [templateCount] at positive
  obtain ⟨count, member, nonzero⟩ := List.exists_mem_ne_zero_of_sum_ne_zero positive.ne'
  obtain ⟨req, inRequests, rfl⟩ := List.mem_map.mp member
  refine ⟨req, inRequests, fun rd alternative empty => ?_⟩
  have some_ := ClaimRequest.pos_of_minOver_pos (Nat.pos_of_ne_zero nonzero) rd alternative
  rw [empty] at some_
  exact absurd some_ (Nat.lt_irrefl 0)

/-- The claims of a call that have no devices yet. -/
def Allocator.unallocated (a : Allocator) (env : Environment) (nodeClaim : NodeClaim)
    (claims : List ResourceClaim) : List ResourceClaim :=
  match a.classifyClaims env nodeClaim claims with
  | .error _ => []
  | .ok (unallocated, _) => unallocated

namespace AllocateCall

/-- The slots that a search has filled, and for an All-mode request every device that matches it. -/
structure ServesInFull (call : AllocateCall) (it : InstanceTypeID) (claimIdx : Nat) (rd : RequestData)
    (own : List DeviceAllocationMetadata) : Prop where
  slots : FillsSlots (call.context it) (fun _ _ => True) 0 claimIdx rd own
  complete : rd.allocationMode = .all →
    ∀ d, d ∈ offered call.initialPools ∨ d ∈ (call.context it).templateDevices →
      Matches call.env rd.selectors d → ∃ m ∈ own, m.deviceWithID = d

/-- Every All-mode request, or alternative chosen for a request, gets all devices that match it. -/
def GivesAll (call : AllocateCall) (it : InstanceTypeID) (finished : Search) : Prop :=
  ServesAll (call.ServesInFull it) call.claimData finished.allocatedDevicesMetadata

end AllocateCall

section Prepared

variable {a : Allocator} {env : Environment} {nodeClaim : NodeClaim} {claims : List ResourceClaim}
  {call : AllocateCall} {it : InstanceTypeID}

theorem claimData_of_prepare (prepared : a.prepare env nodeClaim claims = .ok (.search call)) : call.env = env ∧
    (∀ claim ∈ a.unallocated env nodeClaim claims, ∃ cd ∈ call.claimData,
      validateClaimRequest env claim call.initialPools call.templateDevicesByIT = .ok cd) ∧
    ∀ cd ∈ call.claimData, ∃ claim ∈ a.unallocated env nodeClaim claims,
      validateClaimRequest env claim call.initialPools call.templateDevicesByIT = .ok cd := by
  obtain ⟨first, others, requirements, claimData, classified, validated, rfl⟩ := Allocator.exists_of_prepare prepared
  have unallocated : a.unallocated env nodeClaim claims = first :: others := by
    rw [Allocator.unallocated, classified]
  obtain ⟨forward, backward⟩ := Go.mapM_ok validated
  rw [unallocated]
  refine ⟨rfl, fun claim member => ?_, fun cd member => ?_⟩
  · obtain ⟨cd, inData, parsed⟩ := forward claim member
    exact ⟨cd, inData, Go.mapError_ok.mp parsed⟩
  · obtain ⟨claim, listed, parsed⟩ := backward cd member
    exact ⟨claim, listed, Go.mapError_ok.mp parsed⟩

/-- The devices that a prepared call may try are published or are on the template of the instance type. -/
theorem source_of_prepare (prepared : a.prepare env nodeClaim claims = .ok (.search call))
    (offers : (call.context it).Offers call.initialPools d) :
    d ∈ offered call.initialPools ∨ d ∈ (call.context it).templateDevices := by
  obtain ⟨rfl, -, backward⟩ := claimData_of_prepare prepared
  rcases offers with inPools | inTemplates | ⟨cd, inClaims, req, inRequests, rd, alternative, listed⟩
  · exact .inl inPools
  · exact .inr inTemplates
  · obtain ⟨claim, -, parsed⟩ := backward cd inClaims
    obtain ⟨fromPools, fromTemplates⟩ := listed_of_validateClaimRequest parsed inRequests alternative
    rcases List.mem_append.mp listed with inCluster | inTemplates
    · exact .inl (fromPools inCluster)
    · exact .inr (fromTemplates it inTemplates)

/-- The template devices of an instance type that was not pruned are still listed. -/
theorem matching_mem_allModeDevices
    (parsed : validateClaimRequest call.env claim call.initialPools call.templateDevicesByIT = .ok cd)
    (kept : it ∉ claim.pruned call.env call.initialPools call.templateDevicesByIT) (inRequests : req ∈ cd.requests)
    (alternative : rd ∈ req.alternatives) (mode : rd.allocationMode = .all)
    (present : d ∈ offered call.initialPools ∨ d ∈ (call.context it).templateDevices)
    (matching : Matches call.env rd.selectors d) : d ∈ (call.context it).allModeDevices rd := by
  obtain ⟨-, requests, pruned, same, -, listsAll⟩ := validateClaimRequest_spec parsed
  rw [pruned] at kept
  rw [same] at inRequests
  obtain ⟨parent, inParsed, rfl⟩ := List.mem_map.mp inRequests
  obtain ⟨original, inParent, rfl⟩ := ClaimRequest.mem_alternatives_mapAlternatives.mp alternative
  obtain ⟨inCluster, templates, -⟩ := listsAll parent inParsed original inParent
  rw [SearchContext.allModeDevices, List.mem_append]
  rcases present with inPools | inTemplates
  · exact .inl ((inCluster mode d).mpr ⟨inPools, matching⟩)
  · right
    rw [Map.lookup_deleteAll, if_neg (show ¬ (call.context it).itID ∈ _ from kept)]
    exact (templates mode it d).mpr ⟨inTemplates, matching⟩

/-- On an instance type that a claim has pruned, some All-mode request is missing its template devices. -/
theorem AllocateCall.GivesAll.not_pruned (prepared : a.prepare env nodeClaim claims = .ok (.search call))
    (gives : call.GivesAll it finished) (claim : ResourceClaim) (listed : claim ∈ a.unallocated env nodeClaim claims) :
    it ∉ claim.pruned env call.initialPools call.templateDevicesByIT := by
  obtain ⟨rfl, forward, -⟩ := claimData_of_prepare prepared
  intro inPruned
  obtain ⟨cd, inData, parsed⟩ := forward claim listed
  obtain ⟨-, requests, pruned, same, within, listsAll⟩ := validateClaimRequest_spec parsed
  rw [pruned] at inPruned
  obtain ⟨req, inRequests, nonempty⟩ := exists_of_mem_prunedITs within inPruned
  -- The part of that request in the allocations of the search.
  obtain ⟨i, claimAt⟩ := List.mem_iff_getElem?.mp inData
  obtain ⟨claimPart, serves, -⟩ := gives.exists_of_mem (List.mk_mem_zipIdx_iff_getElem?.mpr claimAt)
  rw [ServesClaim] at serves
  have inClaim : pruneRequest (prunedITs requests) req ∈ cd.requests := by
    rw [same]
    exact List.mem_map_of_mem inRequests
  obtain ⟨own, ⟨rd, alternative, slots, complete⟩, -⟩ := serves.exists_of_mem inClaim
  obtain ⟨original, inOriginal, rfl⟩ := ClaimRequest.mem_alternatives_mapAlternatives.mp alternative
  obtain ⟨inCluster, templates, none_⟩ := listsAll req inRequests original inOriginal
  have mode : original.allocationMode = .all := by
    cases mode : original.allocationMode with
    | all => rfl
    | exactCount => exact absurd (by rw [none_ mode it]; rfl) (nonempty original inOriginal)
  obtain ⟨d, isListed⟩ := List.exists_mem_of_ne_nil _ (nonempty original inOriginal)
  obtain ⟨ofTemplate, matching⟩ := (templates mode it d).mp isListed
  obtain ⟨m, inOwn, rfl⟩ := complete mode d (.inr ofTemplate) matching
  -- Its slots are those of devices in the cluster only.
  have inSlots : m.deviceWithID ∈ own.map (·.deviceWithID) := List.mem_map_of_mem inOwn
  rw [slots.devices mode, List.drop_zero, SearchContext.allModeDevices] at inSlots
  rw [Map.lookup_deleteAll, if_pos (show (call.context it).itID ∈ _ from inPruned), Option.getD_none,
    List.append_nil, inCluster mode] at inSlots
  have published := template_of_offered inSlots.1
  obtain ⟨devices, found, inDevices⟩ := Map.exists_of_mem_getD_lookup ofTemplate
  rw [template_of_templateDevices found _ inDevices] at published
  cases published

/-- A survivor gets all devices for its All-mode requests exactly if no claim had pruned it. -/
theorem givesAll_iff (prepared : a.prepare env nodeClaim claims = .ok (.search call))
    (searched : call.searchInstanceTypes call.nodeClaim.instanceTypes call.initialSearch = .ok (survivors, last))
    (survives : (it, finished) ∈ survivors) : call.GivesAll it finished ↔
      ∀ claim ∈ a.unallocated env nodeClaim claims,
        it ∉ claim.pruned env call.initialPools call.templateDevicesByIT := by
  refine ⟨fun gives => gives.not_pruned prepared, fun kept => ?_⟩
  obtain ⟨rfl, -, backward⟩ := claimData_of_prepare prepared
  refine (call.servesAll_of_survivor searched survives).imp ?_
  rintro ⟨cd, i⟩ inClaims claimPart serves
  have inData : cd ∈ call.claimData := List.mem_of_getElem? (List.mk_mem_zipIdx_iff_getElem?.mp inClaims)
  obtain ⟨claim, listed, parsed⟩ := backward cd inData
  refine Parts.imp ?_ serves
  rintro req inRequests own ⟨rd, alternative, slots⟩
  refine ⟨rd, alternative, slots, fun mode d present matching => ?_⟩
  have inSlots := matching_mem_allModeDevices parsed (kept claim listed) inRequests alternative mode present matching
  have devices := slots.devices mode
  rw [List.drop_zero] at devices
  rw [← devices] at inSlots
  obtain ⟨m, inOwn, same⟩ := List.mem_map.mp inSlots
  exact ⟨m, inOwn, same⟩

end Prepared

/-! A claim for all devices, with one device in the cluster and two instance types: the devices of the first one
exceed the limit. -/

def everySlices : List ResourceSlice := [
  { driver := "gpu", pool := "fabric", allNodes := true, devices := [{ name := "switch" }] }]

def everyNodeClaim : NodeClaim where
  id := "node"
  instanceTypes := ["large", "small"]
  resourceSlices := Map.ofList [
    ("large", [{ template := {
      driver := "gpu", pool := "local"
      devices := (List.range 32).map fun i => { name := "gpu-" ++ toString i } } }]),
    ("small", [{ template := { driver := "gpu", pool := "local", devices := [{ name := "gpu-0" }] } }])]

def everyClaim : ResourceClaim where
  namespaceName := "default"
  name := "every"
  requests := [{ name := "every", exactly := some { deviceClassName := "gpu", allocationMode := .all } }]

/-- The larger instance type survives with the device of the cluster and none of its own. -/
theorem large_loses_its_devices : ∃ call survivors last finished,
    Allocator.prepare (newAllocator ∅ everySlices {} ∅ ∅) sharedEnvironment everyNodeClaim [everyClaim] =
      .ok (.search call) ∧
    call.searchInstanceTypes call.nodeClaim.instanceTypes call.initialSearch = .ok (survivors, last) ∧
    ("large", finished) ∈ survivors ∧ ¬ call.GivesAll "large" finished := by
  refine ⟨_, _, _, _, rfl, rfl, List.mem_cons_self, fun gives => ?_⟩
  exact gives.not_pruned (rfl : Allocator.prepare (newAllocator ∅ everySlices {} ∅ ∅) sharedEnvironment
    everyNodeClaim [everyClaim] = _) everyClaim List.mem_cons_self (by decide +kernel)

/-- The smaller instance type, which is within the limit, gets its own device as well. -/
theorem givesAll_small : ∃ call survivors last finished,
    Allocator.prepare (newAllocator ∅ everySlices {} ∅ ∅) sharedEnvironment everyNodeClaim [everyClaim] =
      .ok (.search call) ∧
    call.searchInstanceTypes call.nodeClaim.instanceTypes call.initialSearch = .ok (survivors, last) ∧
    ("small", finished) ∈ survivors ∧ call.GivesAll "small" finished := by
  refine ⟨_, _, _, _, rfl, rfl, List.mem_cons_of_mem _ List.mem_cons_self, ?_⟩
  refine (givesAll_iff (rfl : Allocator.prepare (newAllocator ∅ everySlices {} ∅ ∅) sharedEnvironment
    everyNodeClaim [everyClaim] = _) rfl (List.mem_cons_of_mem _ List.mem_cons_self)).mpr ?_
  intro claim listed
  rw [List.mem_singleton.mp (show claim ∈ [everyClaim] from listed)]
  decide +kernel

end Karpenter.DynamicResources
