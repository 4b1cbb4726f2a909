import Karpenter.DynamicResources.SearchInvariant

/-! Where the handle of a successful call comes from: a prepared call and the searches it has finished, over pools that
were gathered for it. -/
namespace Karpenter.DynamicResources

open Go (Map)
open Resources
open Scheduling (Requirements)
open CloudProvider (Device)

/-- The finished searches behind a successful call of `allocate`. -/
def Allocator.survivors (a : Allocator) (env : Environment) (nodeClaim : NodeClaim)
    (claims : List ResourceClaim) : List (InstanceTypeID × Search) :=
  match a.prepare env nodeClaim claims with
  | .ok (.search call) =>
    match call.searchInstanceTypes nodeClaim.instanceTypes call.initialSearch with
    | .ok (survivors, _) => survivors
    | .error _ => []
  | _ => []

/-- Pools gathered for a search: distinct, and offering published devices only. -/
structure Gathered (slices : List ResourceSlice) (pools : List Pool) : Prop where
  keys : (pools.map (·.key)).Nodup
  published : ∀ d ∈ offered pools, Publishes slices d.device

theorem Gathered.filter (gathered : Gathered slices pools) :
    Gathered slices (filterPools wellKnown pools requirements nodeName superposed) :=
  ⟨(keys_filterPools wellKnown pools requirements nodeName superposed).nodup gathered.keys,
    fun d member => gathered.published d (mem_offered_of_filterPools member)⟩

theorem Gathered.gather (wellKnown : Finset String) (slices : List ResourceSlice)
    (requirements : Requirements) (nodeName : String) (superposed : Bool) :
    Gathered slices (gatherPools wellKnown slices requirements nodeName superposed) := by
  refine ⟨nodup_keys_gatherPools wellKnown slices requirements nodeName superposed, fun d member => ?_⟩
  obtain ⟨pool, inPools, inDevices⟩ := List.mem_flatMap.mp member
  exact (published_gatherPools inPools).devices d (List.mem_append_left _ inDevices)

theorem Gathered.perm (gathered : Gathered slices pools) (same : reordered.Perm pools) : Gathered slices reordered :=
  ⟨(same.map (·.key)).nodup_iff.mpr gathered.keys,
    fun d member => gathered.published d ((same.flatMap_right _).mem_iff.mp member)⟩

/-- Every list of pools the allocator keeps between calls is a gathered one. -/
def CacheGathered (a : Allocator) (slices : List ResourceSlice) : Prop :=
  ∀ nodeClaimID pools, a.poolCache.lookup nodeClaimID = some pools → Gathered slices pools

theorem gathered_poolsFor (cached : CacheGathered a a.inClusterSlices) (env : Environment) (nodeClaim : NodeClaim)
    (requirements : Requirements) : Gathered a.inClusterSlices (a.poolsFor env nodeClaim requirements) := by
  unfold Allocator.poolsFor
  split
  · rename_i pools found
    exact (cached _ pools found).filter
  · exact (Gathered.gather _ _ _ _ _).perm (env.arrange_perm _)

theorem handle_of_allocate {a : Allocator} (allocated : a.allocate env nodeClaim claims = .ok result)
    (handle : result.allocation = some alloc) : ∃ call last, a.prepare env nodeClaim claims = .ok (.search call) ∧
      call.searchInstanceTypes call.nodeClaim.instanceTypes call.initialSearch =
        .ok (a.survivors env nodeClaim claims, last) ∧
      alloc = call.allocation (a.survivors env nodeClaim claims) last := by
  unfold Allocator.allocate at allocated
  split at allocated
  · cases allocated
  · rename_i settled prepared
    cases allocated
    unfold Allocator.prepare at prepared
    repeat' (first | split at prepared | dsimp only at prepared)
    all_goals cases prepared
    all_goals cases handle
  · rename_i call prepared
    have sameClaim : call.nodeClaim = nodeClaim := by
      obtain ⟨_, _, _, _, _, _, rfl⟩ := Allocator.exists_of_prepare prepared
      rfl
    unfold AllocateCall.allocate at allocated
    split at allocated
    · cases allocated
    · cases allocated
    · rename_i survivor others last searched
      cases allocated
      cases handle
      have same : a.survivors env nodeClaim claims = survivor :: others := by
        unfold Allocator.survivors
        rw [prepared]
        dsimp only
        rw [← sameClaim, searched]
      rw [same]
      exact ⟨call, last, prepared, searched, rfl⟩

/-! A cluster with two partitions of one card, for which a run is carried out below. -/

def partitionDevice (name : String) : Device where
  name
  consumesCounters := Map.ofList [("memory", Map.ofList [("gigabytes", 4)])]

def partitionSlices : List ResourceSlice := [
  { driver := "gpu", pool := "card", resourceSliceCount := 2
    sharedCounters := some [⟨"memory", Map.ofList [("gigabytes", 8)]⟩] },
  { driver := "gpu", pool := "card", resourceSliceCount := 2, allNodes := true
    devices := [partitionDevice "partition-0", partitionDevice "partition-1"] }]

def partitionEnvironment : Environment where
  wellKnownLabels := ∅
  getDeviceClass := fun name => .ok { name }
  compile := fun _ => none
  deviceMatches := fun _ _ => .ok true
  deadline := none
  arrange := fun pools => pools
  arrange_perm := fun pools => List.Perm.refl pools

def partitionClaim : ResourceClaim where
  namespaceName := "default"
  name := "partition"
  requests := [{ name := "partition", exactly := some { deviceClassName := "gpu" } }]

theorem device_of_partitionSlices (published : Publishes partitionSlices device) :
    ∃ name, device = partitionDevice name := by
  obtain ⟨s, inSlices, inDevices⟩ := published
  simp only [partitionSlices, List.mem_cons, List.not_mem_nil, or_false] at inSlices
  rcases inSlices with rfl | rfl
  · cases inDevices
  · simp only [List.mem_cons, List.not_mem_nil, or_false] at inDevices
    rcases inDevices with rfl | rfl
    · exact ⟨_, rfl⟩
    · exact ⟨_, rfl⟩

end Karpenter.DynamicResources
