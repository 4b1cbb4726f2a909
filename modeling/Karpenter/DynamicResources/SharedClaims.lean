import Karpenter.DynamicResources.Handles

/-! Pods that share a claim. Once a commit has allocated a claim, its record stays until the loop ends, and
later pods are checked against the record. The exception is a claim with an allocation in the cluster whose
consumers are all deleting pods: it is searched for each pod that references it, whatever is on record, and
the second commit finds the record of the first. -/
namespace Karpenter.DynamicResources

open Go (Map)

namespace Allocator

/-- A claim that is searched for: its allocation is given up, or nothing has allocated it yet. -/
def searches (a : Allocator) (claim : ResourceClaim) : Bool :=
  if claim.allocation.isSome then a.claimReservedEntirelyByDeletingPods claim
  else (a.claimAllocationMetadata.lookup (resourceClaimID claim)).isNone

/-- The claims one call searches for; none when it finds a claim incompatible with the node claim. -/
def searched (a : Allocator) (env : Environment) (nodeClaim : NodeClaim) (claims : List ResourceClaim) :
    List ResourceClaim :=
  match a.classifyClaims env nodeClaim claims with
  | .ok (unallocated, _) => unallocated
  | .error _ => []

variable {a : Allocator} {claims : List ResourceClaim}

theorem classifyClaim_fst (stepped : a.classifyClaim env nodeClaim result claim = .ok after) :
    after.1 = result.1 ++ [claim].filter a.searches := by
  simp only [classifyClaim] at stepped
  cases allocation : claim.allocation with
  | some allocated =>
    rw [allocation] at stepped
    have decided : a.searches claim = a.claimReservedEntirelyByDeletingPods claim := by
      rw [searches, allocation]
      rfl
    rw [List.filter_cons, decided]
    repeat' split at stepped
    all_goals cases stepped
    all_goals simp_all
  | none =>
    rw [allocation] at stepped
    have decided : a.searches claim = (a.claimAllocationMetadata.lookup (resourceClaimID claim)).isNone := by
      rw [searches, allocation]
      rfl
    rw [List.filter_cons, decided]
    repeat' split at stepped
    all_goals cases stepped
    all_goals simp_all

theorem classifyClaims_fst (done : a.classifyClaims env nodeClaim claims = .ok (unallocated, requirements)) :
    unallocated = claims.filter a.searches := by
  refine Go.foldlM_ok (fun result rest after => after.1 = result.1 ++ rest.filter a.searches) ?_ ?_ done
  · simp
  · intro result claim rest next after stepped later
    rw [later, classifyClaim_fst stepped, List.append_assoc, ← List.filter_append]
    rfl

theorem searched_eq_filter (done : a.classifyClaims env nodeClaim claims = .ok result) :
    a.searched env nodeClaim claims = claims.filter a.searches := by
  rw [searched, done]
  exact classifyClaims_fst done

/-- A handle records exactly the claims that were searched for. -/
theorem recorded_of_allocate (allocated : a.allocate env nodeClaim claims = .ok result)
    (handle : result.allocation = some alloc) (id : ResourceClaimID) :
    (alloc.claimMetadata.lookup id).isSome = true ↔ ∃ claim ∈ a.searched env nodeClaim claims,
      resourceClaimID claim = id := by
  obtain ⟨call, last, prepared, -, rfl⟩ := handle_of_allocate allocated handle
  have ids : call.claimData.map (·.id) = (a.searched env nodeClaim claims).map resourceClaimID := by
    obtain ⟨first, others, requirements, claimData, classified, validated, rfl⟩ := exists_of_prepare prepared
    rw [searched, classified]
    exact Go.map_of_mapM_ok validated fun claim data valid => (validateClaimRequest_spec (Go.mapError_ok.mp valid)).1
  have keys : (call.claimData.zipIdx.map fun entry =>
      (entry.1.id, call.claimMetadata (a.survivors env nodeClaim claims) entry.2)).map (·.1) =
      call.claimData.map (·.id) := by
    rw [List.map_map]
    have plain : ((·.1) ∘ fun entry : ClaimData × Nat =>
        (entry.1.id, call.claimMetadata (a.survivors env nodeClaim claims) entry.2)) = (·.id) ∘ Prod.fst := rfl
    rw [← List.zipIdx_map_fst 0 call.claimData, List.map_map]
    simp [plain]
  show ((call.claimMetadataByRC _).lookup id).isSome = true ↔ _
  rw [AllocateCall.claimMetadataByRC, Map.isSome_lookup_ofList, keys, ids, List.mem_map]

end Allocator

/-- An allocator during a loop, with the claims that commits have allocated so far. -/
structure Loop where
  allocator : Allocator
  committed : List ResourceClaimID := []

/-- A pod is placed with a handle computed from the current state, or instance types are withdrawn. A step
that would panic is not part of a loop. -/
inductive Loop.Step : Loop → Loop → Prop
  | commit {l : Loop} {env : Environment} {nodeClaim : NodeClaim} {claims : List ResourceClaim}
      {result : AllocationResult} {alloc : Allocation} {next : Allocator}
      (allocated : l.allocator.allocate env nodeClaim claims = .ok result)
      (handle : result.allocation = some alloc) (committed : l.allocator.commit alloc = some next) :
      Loop.Step l {
        allocator := next
        committed := l.committed ++ (l.allocator.searched env nodeClaim claims).map resourceClaimID }
  | release {l : Loop} {nodeClaimID : NodeClaimID} {instanceTypes : List InstanceTypeID} {next : Allocator}
      (done : l.allocator.releaseInstanceType nodeClaimID instanceTypes = some next) :
      Loop.Step l { l with allocator := next }

/-- What is on record is what was committed. -/
def Loop.Recorded (l : Loop) : Prop :=
  ∀ id, (l.allocator.claimAllocationMetadata.lookup id).isSome = true ↔ id ∈ l.committed

theorem Loop.Recorded.step (recorded : l.Recorded) (step : Loop.Step l next) : next.Recorded := by
  cases step with
  | @commit env nodeClaim claims result alloc after allocated handle committed =>
    intro id
    rw [Allocator.commit] at committed
    obtain ⟨tracker, -, rest⟩ := Option.bind_eq_some_iff.mp committed
    split at rest
    · cases rest
    · cases rest
      rw [Map.lookup_mergeAll, List.mem_append, List.mem_map, ← recorded id,
        ← Allocator.recorded_of_allocate allocated handle id]
      cases alloc.claimMetadata.lookup id <;> simp
  | release done =>
    intro id
    rw [Allocator.releaseInstanceType] at done
    obtain ⟨tracker, -, rfl⟩ := Option.map_eq_some_iff.mp done
    rw [Map.lookup_mapValues, Option.isSome_map]
    exact recorded id

theorem Loop.Recorded.reaches (recorded : l.Recorded) (run : Relation.ReflTransGen Loop.Step l next) : next.Recorded := by
  induction run with
  | refl => exact recorded
  | tail _ step ih => exact ih.step step

/-- The call gets to its search, and one of its claims was given up in the cluster and then committed. -/
def Loop.Reallocates (l : Loop) (env : Environment) (nodeClaim : NodeClaim) (claims : List ResourceClaim) : Prop :=
  (∃ result, l.allocator.classifyClaims env nodeClaim claims = .ok result) ∧
  ∃ claim ∈ claims, claim.allocation.isSome = true ∧
    l.allocator.claimReservedEntirelyByDeletingPods claim = true ∧ resourceClaimID claim ∈ l.committed

theorem Loop.Recorded.searched_committed_iff {l : Loop} (recorded : l.Recorded) (env : Environment)
    (nodeClaim : NodeClaim) (claims : List ResourceClaim) :
    (∃ claim ∈ l.allocator.searched env nodeClaim claims, resourceClaimID claim ∈ l.committed) ↔
      l.Reallocates env nodeClaim claims := by
  constructor
  · rintro ⟨claim, member, committed⟩
    cases classified : l.allocator.classifyClaims env nodeClaim claims with
    | error err =>
      rw [Allocator.searched, classified] at member
      cases member
    | ok result =>
      rw [Allocator.searched_eq_filter classified, List.mem_filter, Allocator.searches] at member
      obtain ⟨listed, decided⟩ := member
      refine ⟨⟨result, classified⟩, claim, listed, ?_⟩
      split at decided
      · rename_i allocated
        exact ⟨allocated, decided, committed⟩
      · rw [Option.isNone_iff_eq_none] at decided
        rw [← recorded, decided] at committed
        cases committed
  · rintro ⟨⟨result, classified⟩, claim, listed, allocated, deleting, committed⟩
    refine ⟨claim, ?_, committed⟩
    rw [Allocator.searched_eq_filter classified, List.mem_filter, Allocator.searches, if_pos allocated]
    exact ⟨listed, deleting⟩

/-- A claim is allocated once. In every loop, a call searches for a claim that was committed before exactly
when it reallocates one, and then exactly does committing its handle run into the record. -/
theorem claim_allocated_once_iff {wellKnownLabels : Finset String} {slices : List ResourceSlice}
    {allocatedState : AllocatedDeviceState} {attributeBindings : AttributeBindings}
    {deletingPodUIDs : Finset String} {l : Loop} (run : Relation.ReflTransGen Loop.Step
      { allocator := newAllocator wellKnownLabels slices allocatedState attributeBindings deletingPodUIDs } l)
    (env : Environment) (nodeClaim : NodeClaim) (claims : List ResourceClaim) :
    ((∀ claim ∈ l.allocator.searched env nodeClaim claims, resourceClaimID claim ∉ l.committed) ↔
      ¬ l.Reallocates env nodeClaim claims) ∧
    ∀ result alloc, l.allocator.allocate env nodeClaim claims = .ok result → result.allocation = some alloc →
      ((∀ id ∈ alloc.claimMetadata.keys, l.allocator.claimAllocationMetadata.lookup id = none) ↔
        ¬ l.Reallocates env nodeClaim claims) := by
  have recorded : l.Recorded := Loop.Recorded.reaches (fun id => by simp [newAllocator]) run
  rw [← recorded.searched_committed_iff env nodeClaim claims]
  constructor
  · simp
  · intro result alloc allocated handle
    have keys := Allocator.recorded_of_allocate allocated handle
    constructor
    · rintro fresh ⟨claim, member, committed⟩
      have present := (keys (resourceClaimID claim)).mpr ⟨claim, member, rfl⟩
      rw [← recorded, fresh _ (AList.lookup_isSome.mp present)] at committed
      cases committed
    · intro never id member
      by_contra there
      obtain ⟨claim, searched, rfl⟩ := (keys id).mp (AList.lookup_isSome.mpr member)
      exact never ⟨claim, searched, (recorded _).mp (Option.isSome_iff_ne_none.mpr there)⟩

/-- A second pod with the same claim is not searched for. -/
theorem claim_allocated_once_partition : ∃ l, Relation.ReflTransGen Loop.Step
    { allocator := newAllocator ∅ partitionSlices {} ∅ ∅ } l ∧ l.committed = [resourceClaimID partitionClaim] ∧
    ∀ claim ∈ l.allocator.searched partitionEnvironment { id := "other", instanceTypes := ["small"] } [partitionClaim],
      resourceClaimID claim ∉ l.committed := by
  have commit := Loop.Step.commit (l := { allocator := newAllocator ∅ partitionSlices {} ∅ ∅ })
    (rfl : Allocator.allocate _ partitionEnvironment { id := "node", instanceTypes := ["small"] } [partitionClaim] =
      .ok _) rfl rfl
  refine ⟨_, .single commit, rfl, (claim_allocated_once_iff (.single commit) _ _ _).1.mpr ?_⟩
  rintro ⟨-, claim, listed, allocated, -⟩
  rw [List.mem_singleton.mp listed] at allocated
  cases allocated

def cardSlices : List ResourceSlice :=
  [{ driver := "gpu", pool := "cards", allNodes := true, devices := [{ name := "card-0" }, { name := "card-1" }] }]

/-- A claim held by one pod, which is being deleted. -/
def migratingClaim : ResourceClaim := { partitionClaim with
  allocation := some {}
  reservedFor := [{ resource := "pods", uid := "migrating" }] }

/-- Two pods reference the claim: the second is searched for again and its commit panics. -/
theorem claim_allocated_once_migrating : ∃ l result alloc, Relation.ReflTransGen Loop.Step
    { allocator := newAllocator ∅ cardSlices {} ∅ {"migrating"} } l ∧
    resourceClaimID migratingClaim ∈ l.committed ∧
    migratingClaim ∈ l.allocator.searched partitionEnvironment { id := "node", instanceTypes := ["small"] }
      [migratingClaim] ∧
    l.allocator.allocate partitionEnvironment { id := "node", instanceTypes := ["small"] } [migratingClaim] =
      .ok result ∧ result.allocation = some alloc ∧ l.allocator.commit alloc = none := by
  have commit := Loop.Step.commit
    (l := { allocator := newAllocator ∅ cardSlices {} ∅ {"migrating"} })
    (rfl : Allocator.allocate _ partitionEnvironment { id := "node", instanceTypes := ["small"] } [migratingClaim] =
      .ok _) rfl rfl
  exact ⟨_, _, _, .single commit, List.mem_singleton_self _, List.mem_singleton_self _, rfl, rfl, rfl⟩

end Karpenter.DynamicResources
