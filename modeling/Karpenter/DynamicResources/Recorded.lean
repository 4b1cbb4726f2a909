import Karpenter.DynamicResources.SharedClaims

/-! What the allocator has on record for each instance type of one node claim: the devices, counters, capacity and
template budgets of the tracker, and the devices and requirements in the metadata of claims. Committing an allocation
adds records for the instance types of its searches only, and releasing instance types takes away their records only. -/
namespace Karpenter.DynamicResources

open Go (Map)
open Resources

/-- There is an entry for the instance type of the node claim. -/
def RecordedIn (m : Map NodeClaimID (Map InstanceTypeID α)) (nodeClaimID : NodeClaimID) (it : InstanceTypeID) : Prop :=
  ((m.lookup nodeClaimID).bind (·.lookup it)).isSome = true

section Maps

variable {m : Map NodeClaimID (Map InstanceTypeID α)}

theorem recordedIn_insert (byIT : Map InstanceTypeID α) :
    RecordedIn (m.insert nodeClaimID byIT) nodeClaimID it ↔ (byIT.lookup it).isSome = true := by
  simp [RecordedIn]

theorem isSome_lookup_getD : (((m.lookup nodeClaimID).getD ∅).lookup it).isSome = true ↔ RecordedIn m nodeClaimID it := by
  rw [RecordedIn]
  cases m.lookup nodeClaimID <;> simp

theorem recordedIn_of_lookup (found : m.lookup nodeClaimID = some byIT) :
    RecordedIn m nodeClaimID it ↔ (byIT.lookup it).isSome = true := by
  rw [RecordedIn, found]
  rfl

theorem recordedIn_withdraw (kept : Map InstanceTypeID α) :
    RecordedIn (withdraw m nodeClaimID kept) nodeClaimID it ↔ (kept.lookup it).isSome = true := by
  rw [withdraw]
  split
  · rename_i empty
    simp [RecordedIn, Map.lookup_of_isEmpty empty]
  · exact recordedIn_insert kept

theorem isSome_lookup_deleteAll (byIT : Map InstanceTypeID α) (its : List InstanceTypeID) :
    ((byIT.deleteAll its).lookup it).isSome = true ↔ (byIT.lookup it).isSome = true ∧ it ∉ its := by
  rw [Map.lookup_deleteAll]
  split <;> simp_all

theorem isSome_lookup_mergeAll (write : Option α → β → α) (stored : Map InstanceTypeID α) (new : Map InstanceTypeID β) :
    ((stored.mergeAll write new).lookup it).isSome = true ↔
      (stored.lookup it).isSome = true ∨ (new.lookup it).isSome = true := by
  rw [Map.lookup_mergeAll]
  cases new.lookup it <;> simp

theorem isSome_lookup_mergePresent (write : α → β → α) (stored : Map InstanceTypeID α) (new : Map InstanceTypeID β) :
    ((stored.mergePresent write new).lookup it).isSome = true ↔ (stored.lookup it).isSome = true := by
  rw [Map.lookup_mergePresent]
  cases stored.lookup it <;> cases new.lookup it <;> simp

theorem recordedIn_insertAllocation {m after : AllocationsByNodeClaim} {id : DeviceID}
    (inserted : insertAllocation m id nodeClaimID other = some after) :
    RecordedIn after nodeClaimID it ↔ RecordedIn m nodeClaimID it ∨ it = other := by
  rw [insertAllocation] at inserted
  split at inserted
  · cases inserted
  · cases inserted
    rw [recordedIn_insert, Map.lookup_insert_eq, ← isSome_lookup_getD]
    split <;> simp_all

theorem recordedIn_deleteAllocations (m : AllocationsByNodeClaim) (other : InstanceTypeID) :
    RecordedIn (deleteAllocations m nodeClaimID other) nodeClaimID it ↔ RecordedIn m nodeClaimID it ∧ it ≠ other := by
  rw [deleteAllocations]
  split
  · rename_i missing
    simp [RecordedIn, missing]
  · rename_i byIT found
    rw [recordedIn_insert, Map.lookup_erase_eq, recordedIn_of_lookup found]
    split <;> simp_all

end Maps

/-- The instance types for which an allocation has anything to commit. -/
def Allocation.Names (alloc : Allocation) (it : InstanceTypeID) : Prop :=
  (alloc.deviceIDsByIT.lookup it).isSome = true ∨ (alloc.counterConsumptionByIT.lookup it).isSome = true ∨
    (alloc.templateCounterTotalsByIT.lookup it).isSome = true ∨ (alloc.capacityConsumptionByIT.lookup it).isSome = true ∨
    (alloc.templateCapacityConsumptionByIT.lookup it).isSome = true

namespace AllocationTracker

/-- The tracker has something on record for the instance type of the node claim. -/
def Recorded (t : AllocationTracker) (nodeClaimID : NodeClaimID) (it : InstanceTypeID) : Prop :=
  RecordedIn t.inflightClusterAllocationsByNodeClaim nodeClaimID it ∨
    RecordedIn t.inflightTemplateAllocations nodeClaimID it ∨
    RecordedIn t.consumedCapacityByNodeClaimIT nodeClaimID it ∨
    RecordedIn t.templateConsumedCapacity nodeClaimID it ∨
    RecordedIn t.countersByNodeClaimIT nodeClaimID it ∨
    RecordedIn t.templateRemainingCounters nodeClaimID it

/-- Nothing is lost, and what is new belongs to the given instance types. -/
def Grows (nodeClaimID : NodeClaimID) (its : InstanceTypeID → Prop) (before after : AllocationTracker) : Prop :=
  ∀ it, (before.Recorded nodeClaimID it → after.Recorded nodeClaimID it) ∧
    (after.Recorded nodeClaimID it → before.Recorded nodeClaimID it ∨ its it)

section Commit

variable {its : InstanceTypeID → Prop} {t t' t'' : AllocationTracker}

theorem Grows.refl (t : AllocationTracker) : Grows nodeClaimID its t t := fun _ => ⟨id, .inl⟩

theorem Grows.trans (first : Grows nodeClaimID its t t') (second : Grows nodeClaimID its t' t'') :
    Grows nodeClaimID its t t'' := by
  intro it
  refine ⟨(second it).1 ∘ (first it).1, fun recorded => ?_⟩
  obtain earlier | new := (second it).2 recorded
  · exact (first it).2 earlier
  · exact .inr new

theorem grows_hold {it : InstanceTypeID} {id : DeviceID} (inside : its it)
    (held : t.hold nodeClaimID it id = some t') : Grows nodeClaimID its t t' := by
  rw [hold] at held
  obtain ⟨byNodeClaim, inserted, recorded⟩ := Option.bind_eq_some_iff.mp held
  intro other
  have entry : RecordedIn byNodeClaim nodeClaimID other ↔
      RecordedIn t.inflightClusterAllocationsByNodeClaim nodeClaimID other ∨ other = it :=
    recordedIn_insertAllocation inserted
  split at recorded
  · split at recorded
    · cases recorded
    · split at recorded
      · cases recorded
      · cases recorded
        simp only [Recorded, entry]
        grind
  · cases recorded
    simp only [Recorded, entry]
    grind

theorem grows_commitDevice {alloc : Allocation} {it : InstanceTypeID} {id : DeviceID} (inside : its it)
    (committed : t.commitDevice alloc it id = some t') : Grows alloc.nodeClaimID its t t' := by
  rw [commitDevice] at committed
  split at committed
  · split at committed
    · cases committed
      exact .refl t
    · obtain ⟨allocations, inserted, rfl⟩ := Option.map_eq_some_iff.mp committed
      intro other
      have entry : RecordedIn allocations alloc.nodeClaimID other ↔
          RecordedIn t.inflightTemplateAllocations alloc.nodeClaimID other ∨ other = it :=
        recordedIn_insertAllocation inserted
      simp only [Recorded, entry]
      grind
  · split at committed
    · cases committed
      exact .refl t
    · exact grows_hold inside committed

theorem grows_commitDevices (inside : ∀ it, (alloc.deviceIDsByIT.lookup it).isSome = true → its it)
    (committed : t.commitDevices alloc = some t') : Grows alloc.nodeClaimID its t t' := by
  rw [commitDevices] at committed
  refine Go.foldlM_some Grows.refl Grows.trans (fun t use t' member stepped => grows_commitDevice ?_ stepped) committed
  obtain ⟨entry, listed, inEntry⟩ := List.mem_flatMap.mp member
  obtain ⟨id, -, rfl⟩ := List.mem_map.mp inEntry
  apply inside
  rw [Map.mem_entries_iff.mp listed]
  rfl

theorem grows_commitCounters (inside : ∀ it, (new.lookup it).isSome = true → its it) :
    Grows nodeClaimID its t (t.commitCounters nodeClaimID new) := by
  rw [commitCounters]
  split
  · exact .refl t
  · intro it
    have new' := inside it
    simp only [Recorded, recordedIn_insert, isSome_lookup_mergeAll, isSome_lookup_getD]
    grind

theorem grows_commitCapacity (inside : ∀ it, (new.lookup it).isSome = true → its it) :
    Grows nodeClaimID its t (t.commitCapacity nodeClaimID new) := by
  rw [commitCapacity]
  split
  · exact .refl t
  · intro it
    have new' := inside it
    simp only [Recorded, recordedIn_insert, isSome_lookup_mergeAll, isSome_lookup_getD]
    grind

theorem grows_commitTemplateCapacity (inside : ∀ it, (new.lookup it).isSome = true → its it) :
    Grows nodeClaimID its t (t.commitTemplateCapacity nodeClaimID new) := by
  rw [commitTemplateCapacity]
  split
  · exact .refl t
  · intro it
    have new' := inside it
    simp only [Recorded, recordedIn_insert, isSome_lookup_mergeAll, isSome_lookup_getD]
    grind

theorem grows_initTemplateRemainingCounters (inside : its itID) (totals : PoolCounters) :
    Grows nodeClaimID its t (t.initTemplateRemainingCounters nodeClaimID itID totals) := by
  intro it
  rw [initTemplateRemainingCounters]
  simp only [Recorded, recordedIn_insert]
  split
  · rw [isSome_lookup_getD]
    exact ⟨id, .inl⟩
  · rw [Map.lookup_insert_eq]
    by_cases same : it = itID
    · subst same
      simp [inside]
    · rw [if_neg same, isSome_lookup_getD]
      exact ⟨id, .inl⟩

theorem grows_commitTemplateCounters (committed : t.commitTemplateCounters nodeClaimID consumed = some t') :
    Grows nodeClaimID its t t' := by
  rw [commitTemplateCounters] at committed
  split at committed
  · cases committed
    exact .refl t
  · rename_i byIT found
    split at committed
    · cases committed
    · cases committed
      intro it
      simp only [Recorded, recordedIn_insert, isSome_lookup_mergePresent, recordedIn_of_lookup found]
      exact ⟨id, .inl⟩

theorem grows_commit (committed : t.commit alloc = some t') : Grows alloc.nodeClaimID alloc.Names t t' := by
  obtain ⟨held, devices, rest⟩ := Option.bind_eq_some_iff.mp committed
  obtain ⟨charged, counters, rfl⟩ := Option.map_eq_some_iff.mp rest
  have initialised : Grows alloc.nodeClaimID alloc.Names (held.commitCounters alloc.nodeClaimID alloc.counterConsumptionByIT)
      (alloc.templateCounterTotalsByIT.entries.foldl (fun tracker entry =>
        tracker.initTemplateRemainingCounters alloc.nodeClaimID entry.1 entry.2)
        (held.commitCounters alloc.nodeClaimID alloc.counterConsumptionByIT)) := by
    refine List.foldlRecOn _ _ (motive := Grows _ _ _) (.refl _) fun tracker grown entry member => grown.trans ?_
    apply grows_initTemplateRemainingCounters
    refine .inr (.inr (.inl ?_))
    rw [Map.mem_entries_iff.mp member]
    rfl
  exact (grows_commitDevices (fun _ => .inl) devices).trans <|
    (grows_commitCounters fun _ found => .inr (.inl found)).trans <|
    initialised.trans <| (grows_commitTemplateCounters counters).trans <|
    (grows_commitCapacity fun _ found => .inr (.inr (.inr (.inl found)))).trans
      (grows_commitTemplateCapacity fun _ found => .inr (.inr (.inr (.inr found))))

end Commit

section Release

variable {t t' : AllocationTracker}

/-- The entries of the instance types are taken out of one map. -/
def releasedFrom (m : Map NodeClaimID (Map InstanceTypeID α)) (nodeClaimID : NodeClaimID) (its : List InstanceTypeID) :
    Map NodeClaimID (Map InstanceTypeID α) :=
  match m.lookup nodeClaimID with
  | none => m
  | some byIT => withdraw m nodeClaimID (byIT.deleteAll its)

theorem recordedIn_releasedFrom (m : Map NodeClaimID (Map InstanceTypeID α)) (its : List InstanceTypeID)
    (it : InstanceTypeID) :
    RecordedIn (releasedFrom m nodeClaimID its) nodeClaimID it ↔ RecordedIn m nodeClaimID it ∧ it ∉ its := by
  rw [releasedFrom]
  split
  · rename_i missing
    simp [RecordedIn, missing]
  · rename_i byIT found
    rw [recordedIn_withdraw, isSome_lookup_deleteAll, recordedIn_of_lookup found]

theorem releaseCounters_eq (nodeClaimID : NodeClaimID) (t : AllocationTracker) (its : List InstanceTypeID) : ∃ remaining,
    t.releaseCounters nodeClaimID its = { t with
      countersByNodeClaimIT := releasedFrom t.countersByNodeClaimIT nodeClaimID its, remainingCounters := remaining } := by
  rw [releaseCounters, releasedFrom]
  cases t.countersByNodeClaimIT.lookup nodeClaimID <;> exact ⟨_, rfl⟩

theorem releaseTemplateCounters_eq (nodeClaimID : NodeClaimID) (t : AllocationTracker) (its : List InstanceTypeID) :
    t.releaseTemplateCounters nodeClaimID its = { t with
      templateRemainingCounters := releasedFrom t.templateRemainingCounters nodeClaimID its } := by
  rw [releaseTemplateCounters, releasedFrom]
  cases t.templateRemainingCounters.lookup nodeClaimID <;> rfl

theorem releaseCapacity_eq (nodeClaimID : NodeClaimID) (t : AllocationTracker) (its : List InstanceTypeID) : ∃ inflight,
    t.releaseCapacity nodeClaimID its = { t with
      consumedCapacityByNodeClaimIT := releasedFrom t.consumedCapacityByNodeClaimIT nodeClaimID its
      inflightConsumedCapacity := inflight } := by
  rw [releaseCapacity, releasedFrom]
  cases t.consumedCapacityByNodeClaimIT.lookup nodeClaimID <;> exact ⟨_, rfl⟩

theorem releaseTemplateCapacity_eq (nodeClaimID : NodeClaimID) (t : AllocationTracker) (its : List InstanceTypeID) :
    t.releaseTemplateCapacity nodeClaimID its = { t with
      templateConsumedCapacity := releasedFrom t.templateConsumedCapacity nodeClaimID its } := by
  rw [releaseTemplateCapacity, releasedFrom]
  cases t.templateConsumedCapacity.lookup nodeClaimID <;> rfl

theorem foldlM_releaseDevices_eq {its : List InstanceTypeID}
    (released : its.foldlM (releaseDevices nodeClaimID) t = some t') : ∃ cluster inflight template, t' = { t with
      inflightClusterAllocationsByNodeClaim := cluster, inflightClusterAllocations := inflight
      inflightTemplateAllocations := template } ∧
    ∀ it, (RecordedIn cluster nodeClaimID it ↔
        RecordedIn t.inflightClusterAllocationsByNodeClaim nodeClaimID it ∧ it ∉ its) ∧
      (RecordedIn template nodeClaimID it ↔ RecordedIn t.inflightTemplateAllocations nodeClaimID it ∧ it ∉ its) := by
  induction its generalizing t with
  | nil =>
    cases released
    exact ⟨_, _, _, rfl, by simp⟩
  | cons first rest ih =>
    rw [List.foldlM_cons] at released
    obtain ⟨next, stepped, later⟩ := Option.bind_eq_some_iff.mp released
    rw [releaseDevices] at stepped
    split at stepped
    · cases stepped
      obtain ⟨cluster, inflight, template, rfl, entries⟩ := ih later
      refine ⟨cluster, inflight, template, rfl, fun it => ?_⟩
      simp only [(entries it).1, (entries it).2, recordedIn_deleteAllocations, List.mem_cons, not_or, and_assoc, ne_eq,
        and_self]
    · cases stepped

theorem recorded_releaseInstanceTypes (released : t.releaseInstanceTypes nodeClaimID its = some t')
    (it : InstanceTypeID) : t'.Recorded nodeClaimID it ↔ t.Recorded nodeClaimID it ∧ it ∉ its := by
  obtain ⟨freed, devices, rfl⟩ := Option.map_eq_some_iff.mp released
  obtain ⟨cluster, inflight, template, rfl, entries⟩ := foldlM_releaseDevices_eq devices
  rw [releaseTemplateCapacity_eq]
  obtain ⟨consumed, capacity⟩ := releaseCapacity_eq nodeClaimID _ its
  rw [capacity, releaseTemplateCounters_eq]
  obtain ⟨remaining, counters⟩ := releaseCounters_eq nodeClaimID _ its
  rw [counters]
  simp only [Recorded, (entries it).1, (entries it).2, recordedIn_releasedFrom]
  tauto

end Release

end AllocationTracker

/-- The metadata of a claim has devices or requirements of the instance type. -/
def ResourceClaimAllocationMetadata.Records (metadata : ResourceClaimAllocationMetadata) (it : InstanceTypeID) : Prop :=
  (metadata.devices.lookup it).isSome = true ∨ (metadata.contributedRequirements.lookup it).isSome = true

/-- An allocation for some instance types of one node claim. -/
structure Allocation.WithinInstanceTypes (alloc : Allocation) (nodeClaimID : NodeClaimID) (its : List InstanceTypeID) : Prop where
  sameNodeClaim : alloc.nodeClaimID = nodeClaimID
  names : ∀ it, alloc.Names it → it ∈ its
  claims : ∀ claimID metadata, alloc.claimMetadata.lookup claimID = some metadata →
    metadata.nodeClaimID = nodeClaimID ∧ ∀ it, metadata.Records it → it ∈ its

namespace Allocator

/-- The allocator has something on record for the instance type of the node claim. -/
def Recorded (a : Allocator) (nodeClaimID : NodeClaimID) (it : InstanceTypeID) : Prop :=
  a.allocationTracker.Recorded nodeClaimID it ∨ ∃ claimID metadata,
    a.claimAllocationMetadata.lookup claimID = some metadata ∧ metadata.nodeClaimID = nodeClaimID ∧ metadata.Records it

variable {a a' : Allocator}

theorem recorded_commit (scope : alloc.WithinInstanceTypes nodeClaimID its) (committed : a.commit alloc = some a')
    (it : InstanceTypeID) : (a.Recorded nodeClaimID it → a'.Recorded nodeClaimID it) ∧
      (a'.Recorded nodeClaimID it → a.Recorded nodeClaimID it ∨ it ∈ its) := by
  obtain ⟨tracker, tracked, merged⟩ := Option.bind_eq_some_iff.mp committed
  split at merged
  · cases merged
  · rename_i fresh
    cases merged
    have grows := AllocationTracker.grows_commit tracked it
    rw [scope.sameNodeClaim] at grows
    constructor
    · rintro (recorded | ⟨claimID, metadata, found, own, records⟩)
      · exact .inl (grows.1 recorded)
      · refine .inr ⟨claimID, metadata, ?_, own, records⟩
        have absent : alloc.claimMetadata.lookup claimID = none := by
          cases new : alloc.claimMetadata.lookup claimID with
          | none => rfl
          | some other =>
            refine absurd (List.any_eq_true.mpr ⟨claimID, ?_, ?_⟩) fresh
            · exact AList.lookup_isSome.mp (by rw [new]; rfl)
            · rw [found]
              rfl
        simp only [Map.lookup_mergeAll, absent]
        exact found
    · rintro (recorded | ⟨claimID, metadata, found, own, records⟩)
      · obtain before | new := grows.2 recorded
        · exact .inl (.inl before)
        · exact .inr (scope.names it new)
      · simp only [Map.lookup_mergeAll] at found
        cases new : alloc.claimMetadata.lookup claimID with
        | none =>
          rw [new] at found
          exact .inl (.inr ⟨claimID, metadata, found, own, records⟩)
        | some other =>
          rw [new] at found
          obtain rfl := Option.some.inj found
          exact .inr ((scope.claims claimID _ new).2 it records)

theorem records_releaseFromClaim (metadata : ResourceClaimAllocationMetadata) (it : InstanceTypeID) :
    (releaseFromClaim its metadata).Records it ↔ metadata.Records it ∧ it ∉ its := by
  simp only [releaseFromClaim, ResourceClaimAllocationMetadata.Records, isSome_lookup_deleteAll]
  tauto

theorem recorded_releaseInstanceType (released : a.releaseInstanceType nodeClaimID its = some a') (it : InstanceTypeID) :
    a'.Recorded nodeClaimID it ↔ a.Recorded nodeClaimID it ∧ it ∉ its := by
  obtain ⟨tracker, freed, rfl⟩ := Option.map_eq_some_iff.mp released
  have tracked := AllocationTracker.recorded_releaseInstanceTypes freed it
  constructor
  · rintro (recorded | ⟨claimID, metadata, found, own, records⟩)
    · exact ⟨.inl (tracked.mp recorded).1, (tracked.mp recorded).2⟩
    · simp only [Map.lookup_mapValues] at found
      obtain ⟨before, stored, rfl⟩ := Option.map_eq_some_iff.mp found
      split at own
      · rename_i other
        exact absurd own other
      · rename_i same
        rw [if_neg same] at records
        obtain ⟨records, kept⟩ := (records_releaseFromClaim before it).mp records
        exact ⟨.inr ⟨claimID, before, stored, not_not.mp same, records⟩, kept⟩
  · rintro ⟨recorded | ⟨claimID, metadata, found, own, records⟩, kept⟩
    · exact .inl (tracked.mpr ⟨recorded, kept⟩)
    · refine .inr ⟨claimID, releaseFromClaim its metadata, ?_, own, (records_releaseFromClaim metadata it).mpr ⟨records, kept⟩⟩
      simp only [Map.lookup_mapValues, found, Option.map_some, ne_eq, own, not_true_eq_false, if_false]

section Handle

variable {nodeClaim : NodeClaim} {result : AllocationResult} {alloc : Allocation}

theorem instanceTypes_of_allocate (allocated : a.allocate env nodeClaim claims = .ok result)
    (handle : result.allocation = some alloc) :
    result.instanceTypes = (a.survivors env nodeClaim claims).map (·.1) := by
  obtain ⟨call, last, prepared, searched, -⟩ := handle_of_allocate allocated handle
  rw [allocate, prepared] at allocated
  dsimp only at allocated
  rw [AllocateCall.allocate, searched] at allocated
  generalize a.survivors env nodeClaim claims = survivors at allocated ⊢
  cases survivors with
  | nil => cases allocated
  | cons survivor others =>
    cases allocated
    rfl

theorem records_contribute (itID it : InstanceTypeID) (metadata : ResourceClaimAllocationMetadata)
    (da : DeviceAllocationMetadata) (records : (AllocateCall.contribute itID metadata da).Records it) :
    metadata.Records it ∨ it = itID := by
  by_cases same : it = itID
  · exact .inr same
  · left
    rw [AllocateCall.contribute, ResourceClaimAllocationMetadata.Records] at records
    rw [Map.lookup_insert_eq, if_neg same] at records
    refine records.imp_right fun contributed => ?_
    split at contributed
    · exact contributed
    · rwa [Map.lookup_insert_eq, if_neg same] at contributed

theorem claimMetadata_spec (call : AllocateCall) (survivors : List (InstanceTypeID × Search)) (claimIdx : Nat) :
    (call.claimMetadata survivors claimIdx).nodeClaimID = call.nodeClaim.id ∧
      ∀ it, (call.claimMetadata survivors claimIdx).Records it → it ∈ survivors.map (·.1) := by
  have folded : ∀ uses : List (InstanceTypeID × DeviceAllocationMetadata), (∀ use ∈ uses, use.1 ∈ survivors.map (·.1)) →
      (uses.foldl (fun claim use => AllocateCall.contribute use.1 claim use.2)
          { nodeClaimID := call.nodeClaim.id }).nodeClaimID = call.nodeClaim.id ∧
        ∀ it, (uses.foldl (fun claim use => AllocateCall.contribute use.1 claim use.2)
          ({ nodeClaimID := call.nodeClaim.id } : ResourceClaimAllocationMetadata)).Records it →
            it ∈ survivors.map (·.1) := by
    intro uses inside
    induction uses using List.reverseRecOn with
    | nil => exact ⟨rfl, fun it records => by cases records <;> contradiction⟩
    | append_singleton rest use ih =>
      obtain ⟨own, listed⟩ := ih fun use member => inside use (List.mem_append_left _ member)
      rw [List.foldl_append]
      refine ⟨own, fun it records => ?_⟩
      obtain earlier | rfl := records_contribute _ _ _ _ records
      · exact listed it earlier
      · exact inside use (List.mem_append_right _ List.mem_cons_self)
  refine folded _ fun use member => ?_
  obtain ⟨survivor, inSurvivors, inUses⟩ := List.mem_flatMap.mp member
  obtain ⟨da, -, rfl⟩ := List.mem_map.mp inUses
  exact List.mem_map_of_mem inSurvivors

theorem withinInstanceTypes_of_allocate (allocated : a.allocate env nodeClaim claims = .ok result)
    (handle : result.allocation = some alloc) : alloc.WithinInstanceTypes nodeClaim.id result.instanceTypes := by
  rw [instanceTypes_of_allocate allocated handle]
  obtain ⟨call, last, prepared, -, rfl⟩ := handle_of_allocate allocated handle
  have same : call.nodeClaim = nodeClaim := by
    obtain ⟨_, _, _, _, _, _, rfl⟩ := Allocator.exists_of_prepare prepared
    rfl
  generalize a.survivors env nodeClaim claims = survivors
  have listed : ∀ it, ((Map.ofList survivors : Map InstanceTypeID Search).lookup it).isSome = true →
      it ∈ survivors.map (·.1) := fun it found => (Map.isSome_lookup_ofList survivors it).mp found
  refine ⟨congrArg (·.id) same, fun it named => listed it ?_, fun claimID metadata found => ?_⟩
  · simp only [Allocation.Names, AllocateCall.allocation, Map.lookup_mapValues, Map.lookup_filterMapValues,
      Option.isSome_map] at named
    obtain named | named | named | named | named := named
    · exact named
    · exact named
    · obtain ⟨totals, found⟩ := Option.isSome_iff_exists.mp named
      obtain ⟨search, stored, -⟩ := Option.bind_eq_some_iff.mp found
      rw [stored]
      rfl
    · exact named
    · exact named
  · obtain ⟨entry, -, pair⟩ := List.mem_map.mp (Map.mem_of_lookup_ofList found)
    obtain ⟨-, rfl⟩ := Prod.mk.inj pair
    rw [← same]
    exact claimMetadata_spec call survivors entry.2

end Handle

end Allocator

end Karpenter.DynamicResources
