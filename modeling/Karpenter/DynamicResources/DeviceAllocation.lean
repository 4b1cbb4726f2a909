import Karpenter.DynamicResources.Allocator

/-! The devices that allocated claims hold, as the device allocation controller tracks them claim by claim, and
the seed that a scheduling loop draws from them. A device all of whose pods are being deleted is left out of the
seed, and so is the share of a claim all of whose pods are. Both look at pods only: a consumer of another kind
does not count, nor does a claim that nothing has reserved yet. -/
namespace Karpenter.DynamicResources.DeviceAllocation

open Go (Map)
open Resources

abbrev DeviceID := CloudProvider.DeviceID

/-- What the controller keeps of a claim: capacity is consumed of shared devices only. -/
structure ClaimMetadata where
  releasable : Bool := false
  podUIDs : List String := []
  contributions : Map DeviceID (Option ConsumedCapacity) := ∅

structure ContributionMetadata where
  podUIDs : List String
  consumedCapacity : ConsumedCapacity

structure DeviceMetadata where
  releasable : Bool := true
  podUIDs : List String := []
  shared : Bool := false
  consumedCapacity : ConsumedCapacity := ∅
  contributions : List ContributionMetadata := []

structure Controller where
  allocatedDevices : Map DeviceID DeviceMetadata := ∅
  claimsPerDevice : Map DeviceID (List ResourceClaimID) := ∅
  claimMetadata : Map ResourceClaimID ClaimMetadata := ∅

def isPod (ref : ConsumerReference) : Bool := decide (ref.resource = "pods") && decide (ref.apiGroup = "")

def podUIDs (claim : ResourceClaim) : List String := (claim.reservedFor.filter isPod).map (·.uid)

def claimMetadata (claim : ResourceClaim) (contributions : Map DeviceID (Option ConsumedCapacity)) :
    ClaimMetadata where
  releasable := !claim.reservedFor.isEmpty && claim.reservedFor.all isPod
  podUIDs := podUIDs claim
  contributions

/-- One claim more that references the device. -/
def DeviceMetadata.addClaim (device : DeviceID) (metadata : DeviceMetadata) (claim : ClaimMetadata) : DeviceMetadata :=
  let counted := { metadata with
    releasable := metadata.releasable && claim.releasable
    podUIDs := metadata.podUIDs ++ claim.podUIDs }
  match (claim.contributions.lookup device).join with
  | none => counted
  | some consumed => { counted with
      shared := true
      consumedCapacity := addQuantities metadata.consumedCapacity consumed
      contributions := metadata.contributions ++ [⟨claim.podUIDs, consumed⟩] }

/-- The metadata of all claims that reference a device, in some order. -/
def aggregate (claimMetadata : Map ResourceClaimID ClaimMetadata) (claims : List ResourceClaimID)
    (device : DeviceID) : DeviceMetadata :=
  claims.foldl (fun metadata nn => metadata.addClaim device ((claimMetadata.lookup nn).getD {})) {}

variable (c : Controller)

namespace Controller

/-- The claims that reference a device. -/
def claims (device : DeviceID) : List ResourceClaimID := (c.claimsPerDevice.lookup device).getD []

def computeDeviceMetadata (device : DeviceID) : DeviceMetadata :=
  aggregate c.claimMetadata (c.claims device) device

/-- The device is tracked for these claims, or not any more if there are none. -/
def track (device : DeviceID) (claims : List ResourceClaimID) : Controller :=
  if claims.isEmpty then { c with
    claimsPerDevice := c.claimsPerDevice.erase device
    allocatedDevices := c.allocatedDevices.erase device }
  else
    let c := { c with claimsPerDevice := c.claimsPerDevice.insert device claims }
    { c with allocatedDevices := c.allocatedDevices.insert device (c.computeDeviceMetadata device) }

def removeClaim (nn : ResourceClaimID) (c : Controller) (device : DeviceID) : Controller :=
  c.track device ((c.claims device).erase nn)

def insertClaim (nn : ResourceClaimID) (c : Controller) (device : DeviceID) : Controller :=
  c.track device ((c.claims device).insert nn)

def contributionsOf (nn : ResourceClaimID) : Map DeviceID (Option ConsumedCapacity) :=
  ((c.claimMetadata.lookup nn).getD {}).contributions

def finalizeClaim (nn : ResourceClaimID) : Controller :=
  let c := (c.contributionsOf nn).keys.foldl (removeClaim nn) c
  { c with claimMetadata := c.claimMetadata.erase nn }

end Controller

def allocationResults (claim : ResourceClaim) : List DeviceRequestAllocationResult :=
  claim.allocation.elim [] (·.results)

/-- The last result for a device is the one that is kept. -/
def contributions (results : List DeviceRequestAllocationResult) : Map DeviceID (Option ConsumedCapacity) :=
  Map.ofList (results.map fun result => (result.device, result.consumedCapacity))

namespace Controller

def reconcileClaim (nn : ResourceClaimID) (claim : ResourceClaim) : Controller :=
  let results := allocationResults claim
  if results.isEmpty then c.finalizeClaim nn
  else
    let contributions := contributions results
    let devicesToRemove := (c.contributionsOf nn).keys.filter fun device => (contributions.lookup device).isNone
    let c := { c with claimMetadata := c.claimMetadata.insert nn (DeviceAllocation.claimMetadata claim contributions) }
    let c := devicesToRemove.foldl (removeClaim nn) c
    contributions.keys.foldl (insertClaim nn) c

/-- A claim as the API server has it, or that it is gone. -/
def reconcile (nn : ResourceClaimID) : Option ResourceClaim → Controller
  | none => c.finalizeClaim nn
  | some claim => c.reconcileClaim nn claim

end Controller

def allConsumersDeleting (podUIDs : List String) (deletingPodUIDs : Finset String) : Bool :=
  podUIDs.all fun uid => decide (uid ∈ deletingPodUIDs)

/-- Takes a share off; a dimension that reaches zero is dropped. -/
def freeCapacity (effective consumed : ConsumedCapacity) : ConsumedCapacity :=
  effective.mergeWith (fun _ remaining consumed => remaining.bind fun remaining =>
    if remaining - consumed ≤ 0 then none else some (remaining - consumed)) consumed

/-- The share of a claim that no pod reserves is never freed. -/
def sharesFreed (podUIDs : List String) (deletingPodUIDs : Finset String) : Bool :=
  !podUIDs.isEmpty && allConsumersDeleting podUIDs deletingPodUIDs

def effectiveConsumedCapacity (metadata : DeviceMetadata) (deletingPodUIDs : Finset String) : ConsumedCapacity :=
  metadata.contributions.foldl (fun effective contribution =>
    if sharesFreed contribution.podUIDs deletingPodUIDs then freeCapacity effective contribution.consumedCapacity
    else effective) metadata.consumedCapacity

/-- How a device enters the seed: not at all, as an exclusive device, or with the capacity still consumed. -/
def seedEntry (metadata : DeviceMetadata) (deletingPodUIDs : Finset String) : Option (Option ConsumedCapacity) :=
  if metadata.releasable && metadata.podUIDs.isEmpty then none
  else if sharesFreed metadata.podUIDs deletingPodUIDs then none
  else if metadata.shared then
    let effective := effectiveConsumedCapacity metadata deletingPodUIDs
    if effective.entries.isEmpty then none else some (some effective)
  else some none

def gatherAllocatedDevices (c : Controller) (deletingPodUIDs : Finset String) : AllocatedDeviceState where
  exclusiveDevices := (c.allocatedDevices.filterMapValues fun _ metadata =>
    match seedEntry metadata deletingPodUIDs with
    | some none => some ()
    | _ => none).keys.toFinset
  consumedCapacity := c.allocatedDevices.filterMapValues fun _ metadata => (seedEntry metadata deletingPodUIDs).join

theorem aggregate_congr (same : ∀ nn ∈ claims, first.lookup nn = second.lookup nn) (device : DeviceID) :
    aggregate first claims device = aggregate second claims device := by
  rw [aggregate, aggregate]
  apply List.foldl_ext
  intro metadata nn member
  rw [same nn member]

/-- What is tracked of a device is what its claims amount to. -/
structure Controller.Indexed (c : Controller) : Prop where
  members : ∀ device nn, nn ∈ c.claims device ↔ ((c.contributionsOf nn).lookup device).isSome = true
  distinct : ∀ device, (c.claims device).Nodup
  devices : ∀ device, c.allocatedDevices.lookup device =
    if c.claims device = [] then none else some (c.computeDeviceMetadata device)

section Tracking

variable {c : Controller}

theorem track_spec (c : Controller) (device : DeviceID) (claims : List ResourceClaimID) :
    (c.track device claims).claimMetadata = c.claimMetadata ∧
    ∀ other, (c.track device claims).claims other = (if other = device then claims else c.claims other) ∧
      (c.track device claims).allocatedDevices.lookup other =
        if other = device then (if claims = [] then none else some (aggregate c.claimMetadata claims device))
        else c.allocatedDevices.lookup other := by
  rw [Controller.track]
  split
  · rename_i empty
    rw [List.isEmpty_iff.mp empty]
    refine ⟨rfl, fun other => ?_⟩
    simp only [Controller.claims, Map.lookup_erase_eq]
    by_cases same : other = device <;> simp [same]
  · rename_i nonempty
    refine ⟨rfl, fun other => ?_⟩
    simp only [Controller.claims, Controller.computeDeviceMetadata, Map.lookup_insert_eq]
    by_cases same : other = device <;> simp_all

theorem foldl_track_spec (step : Controller → DeviceID → Controller)
    (change : List ResourceClaimID → List ResourceClaimID)
    (each : ∀ c device, step c device = c.track device (change (c.claims device))) {devices : List DeviceID}
    (distinct : devices.Nodup) (c : Controller) : (devices.foldl step c).claimMetadata = c.claimMetadata ∧
    ∀ other, (devices.foldl step c).claims other =
        (if other ∈ devices then change (c.claims other) else c.claims other) ∧
      (devices.foldl step c).allocatedDevices.lookup other =
        if other ∈ devices then (if change (c.claims other) = [] then none
          else some (aggregate c.claimMetadata (change (c.claims other)) other))
        else c.allocatedDevices.lookup other := by
  induction devices generalizing c with
  | nil => simp
  | cons device rest ih =>
    obtain ⟨fresh, distinct'⟩ := List.nodup_cons.mp distinct
    obtain ⟨sameMetadata, lookups⟩ := track_spec c device (change (c.claims device))
    rw [← each] at sameMetadata lookups
    obtain ⟨laterMetadata, later⟩ := ih distinct' (step c device)
    rw [List.foldl_cons]
    refine ⟨laterMetadata.trans sameMetadata, fun other => ?_⟩
    obtain ⟨claims, allocated⟩ := later other
    rw [claims, allocated, (lookups other).1, (lookups other).2, sameMetadata]
    by_cases same : other = device
    · subst same
      simp [fresh]
    · simp [same]

/-- A change to the metadata of one claim, after which the claim is among the claims of the devices it
contributes to and of no other, leaves everything indexed. -/
theorem Controller.Indexed.update {after : Controller} {nn : ResourceClaimID} (indexed : c.Indexed)
    (others : ∀ other, other ≠ nn → after.claimMetadata.lookup other = c.claimMetadata.lookup other)
    (claims : ∀ device, after.claims device =
      if ((after.contributionsOf nn).lookup device).isSome then (c.claims device).insert nn
      else (c.claims device).erase nn) (devices : ∀ device, after.allocatedDevices.lookup device =
      if after.claims device = [] then none else some (after.computeDeviceMetadata device)) : after.Indexed where
  members := by
    intro device other
    rw [claims]
    by_cases same : other = nn
    · subst same
      split
      · rename_i present
        simp [present]
      · rename_i absent
        rw [(indexed.distinct device).mem_erase_iff]
        simp [absent]
    · have unchanged : after.contributionsOf other = c.contributionsOf other := by
        rw [Controller.contributionsOf, others other same, Controller.contributionsOf]
      rw [unchanged, ← indexed.members device other]
      split
      · simp [same]
      · rw [(indexed.distinct device).mem_erase_iff]
        simp [same]
  distinct := by
    intro device
    rw [claims]
    split
    · exact (indexed.distinct device).insert
    · exact (indexed.distinct device).erase nn
  devices := devices

theorem not_mem_claims (indexed : c.Indexed) (absent : device ∉ (c.contributionsOf nn).keys) : nn ∉ c.claims device := by
  rw [indexed.members, AList.lookup_isSome]
  exact absent

/-- What was computed for a device before stays right while its claims and their metadata are the same. -/
theorem computeDeviceMetadata_congr {after : Controller} (claims : after.claims device = c.claims device)
    (metadata : ∀ nn ∈ c.claims device, after.claimMetadata.lookup nn = c.claimMetadata.lookup nn) :
    after.computeDeviceMetadata device = c.computeDeviceMetadata device := by
  rw [Controller.computeDeviceMetadata, Controller.computeDeviceMetadata, claims]
  exact aggregate_congr metadata device

theorem Controller.Indexed.finalizeClaim (indexed : c.Indexed) (nn : ResourceClaimID) :
    (c.finalizeClaim nn).Indexed := by
  obtain ⟨metadata, lookups⟩ := foldl_track_spec (removeClaim nn) (·.erase nn) (fun _ _ => rfl)
    (c.contributionsOf nn).keys_nodup c
  have gone : ((c.finalizeClaim nn).contributionsOf nn) = ∅ := by
    rw [contributionsOf, Controller.finalizeClaim, Map.lookup_erase_eq, if_pos rfl]
    rfl
  have others : ∀ other, other ≠ nn →
      (c.finalizeClaim nn).claimMetadata.lookup other = c.claimMetadata.lookup other := by
    intro other different
    rw [Controller.finalizeClaim, Map.lookup_erase_eq, if_neg different]
    exact congrArg _ metadata
  have claims : ∀ device, (c.finalizeClaim nn).claims device = (c.claims device).erase nn := by
    intro device
    refine ((lookups device).1).trans ?_
    split
    · rfl
    · rename_i absent
      exact (List.erase_of_not_mem (not_mem_claims indexed absent)).symm
  apply indexed.update others
  · intro device
    rw [gone, claims]
    rfl
  · intro device
    refine ((lookups device).2).trans ?_
    have kept : ∀ other ∈ (c.claims device).erase nn,
        c.claimMetadata.lookup other = (c.finalizeClaim nn).claimMetadata.lookup other := by
      intro other member
      exact (others other ((indexed.distinct device).mem_erase_iff.mp member).1).symm
    rw [Controller.computeDeviceMetadata, claims, ← aggregate_congr kept]
    split
    · rfl
    · rename_i absent
      rw [indexed.devices, Controller.computeDeviceMetadata,
        List.erase_of_not_mem (not_mem_claims indexed absent)]

/-- Dropping a claim from some devices and then entering it for others. -/
theorem reassign_spec (c : Controller) (nn : ResourceClaimID) {drop enter : List DeviceID} (dropDistinct : drop.Nodup)
    (enterDistinct : enter.Nodup) (apart : ∀ device ∈ enter, device ∉ drop) :
    (enter.foldl (Controller.insertClaim nn) (drop.foldl (Controller.removeClaim nn) c)).claimMetadata =
      c.claimMetadata ∧
    ∀ device, (enter.foldl (Controller.insertClaim nn) (drop.foldl (Controller.removeClaim nn) c)).claims device =
        (if device ∈ enter then (c.claims device).insert nn
          else if device ∈ drop then (c.claims device).erase nn else c.claims device) ∧
      (enter.foldl (Controller.insertClaim nn)
          (drop.foldl (Controller.removeClaim nn) c)).allocatedDevices.lookup device =
        if device ∈ enter ∨ device ∈ drop then
          (let claims := (enter.foldl (Controller.insertClaim nn)
            (drop.foldl (Controller.removeClaim nn) c)).claims device
          if claims = [] then none else some (aggregate c.claimMetadata claims device))
        else c.allocatedDevices.lookup device := by
  obtain ⟨droppedMetadata, dropped⟩ := foldl_track_spec (Controller.removeClaim nn) (·.erase nn) (fun _ _ => rfl)
    dropDistinct c
  obtain ⟨enteredMetadata, entered⟩ := foldl_track_spec (Controller.insertClaim nn) (·.insert nn) (fun _ _ => rfl)
    enterDistinct (drop.foldl (Controller.removeClaim nn) c)
  refine ⟨enteredMetadata.trans droppedMetadata, fun device => ?_⟩
  have claims := (entered device).1
  have devices := (entered device).2
  rw [(dropped device).1] at claims devices
  rw [(dropped device).2] at devices
  by_cases inEnter : device ∈ enter
  · rw [if_pos inEnter, if_neg (apart device inEnter)] at claims devices
    rw [if_pos inEnter, if_pos (.inl inEnter)]
    refine ⟨claims, devices.trans ?_⟩
    rw [droppedMetadata]
    exact congrArg (fun claims => if claims = [] then none else some (aggregate c.claimMetadata claims device))
      claims.symm
  · rw [if_neg inEnter] at claims devices
    rw [if_neg inEnter]
    refine ⟨claims, devices.trans ?_⟩
    by_cases inDrop : device ∈ drop
    · rw [if_pos inDrop] at claims ⊢
      rw [if_pos (show device ∈ enter ∨ device ∈ drop from .inr inDrop)]
      exact congrArg (fun claims => if claims = [] then none else some (aggregate c.claimMetadata claims device))
        claims.symm
    · rw [if_neg inDrop, if_neg (not_or.mpr ⟨inEnter, inDrop⟩)]

theorem Controller.Indexed.reconcileClaim (indexed : c.Indexed) (nn : ResourceClaimID) (claim : ResourceClaim) :
    (c.reconcileClaim nn claim).Indexed := by
  simp only [Controller.reconcileClaim]
  split
  · exact indexed.finalizeClaim nn
  · generalize contributions (allocationResults claim) = fresh
    have listed (device : DeviceID) : device ∈ fresh.keys ↔ (fresh.lookup device).isSome = true :=
      AList.lookup_isSome.symm
    have dropped (device : DeviceID) : device ∈ (c.contributionsOf nn).keys.filter
        (fun device => (fresh.lookup device).isNone) ↔ device ∈ (c.contributionsOf nn).keys ∧ device ∉ fresh.keys := by
      rw [List.mem_filter, listed]
      simp
    obtain ⟨metadata, lookups⟩ := reassign_spec
      { c with claimMetadata := c.claimMetadata.insert nn (DeviceAllocation.claimMetadata claim fresh) } nn
      ((c.contributionsOf nn).keys_nodup.filter fun device => (fresh.lookup device).isNone) fresh.keys_nodup
      (fun device inEnter inDrop => ((dropped device).mp inDrop).2 inEnter)
    revert metadata lookups
    generalize fresh.keys.foldl (Controller.insertClaim nn) _ = after
    intro metadata lookups
    have others : ∀ other, other ≠ nn → after.claimMetadata.lookup other = c.claimMetadata.lookup other := by
      intro other different
      rw [metadata]
      exact (Map.lookup_insert_eq _ _ _ _).trans (if_neg different)
    have own : after.contributionsOf nn = fresh := by
      rw [contributionsOf, metadata, Map.lookup_insert_eq, if_pos rfl]
      rfl
    have claims : ∀ device, after.claims device = if ((after.contributionsOf nn).lookup device).isSome = true
        then (c.claims device).insert nn else (c.claims device).erase nn := by
      intro device
      rw [(lookups device).1, own]
      simp only [listed, dropped]
      split
      · rfl
      · rename_i absent
        split
        · rfl
        · rename_i outside
          exact (List.erase_of_not_mem (not_mem_claims indexed fun inOld => outside ⟨inOld, absent⟩)).symm
    apply indexed.update others claims
    intro device
    rw [(lookups device).2]
    split
    · rw [Controller.computeDeviceMetadata, metadata]
    · rename_i outside
      obtain ⟨notEntered, notDropped⟩ := not_or.mp outside
      have absent : nn ∉ c.claims device :=
        not_mem_claims indexed fun inOld => notDropped ((dropped device).mpr ⟨inOld, notEntered⟩)
      have same : after.claims device = c.claims device := by
        rw [(lookups device).1, if_neg notEntered, if_neg notDropped]
        rfl
      rw [same, computeDeviceMetadata_congr same fun other member => others other (by rintro rfl; exact absent member)]
      exact indexed.devices device

end Tracking

end Karpenter.DynamicResources.DeviceAllocation
