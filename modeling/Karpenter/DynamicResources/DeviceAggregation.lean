import Karpenter.DynamicResources.DeviceSeed

/-! What the device allocation controller keeps of a device against a computation from the claims themselves. The
controller looks only at the devices that the old and the new version of one claim name, and that is enough; but of
several results that a claim has on one device it keeps the last. -/
namespace Karpenter.DynamicResources.DeviceAllocation

open Go (Map)
open Resources

/-- The metadata of a device is what the claims amount to: it is there if a claim names the device, it lists the pods
that reserve such claims, and it adds up what all their results on the device consume. -/
structure Aggregated (world : Observed) (device : DeviceID) : Prop where
  present : (world.controller.allocatedDevices.lookup device).isSome = true ↔ ∃ nn claim, Holds world.claims device nn claim
  pods : ∀ metadata, world.controller.allocatedDevices.lookup device = some metadata →
    ∀ uid, uid ∈ metadata.podUIDs ↔ ∃ nn claim, Holds world.claims device nn claim ∧ uid ∈ podUIDs claim
  capacity : ∀ metadata, world.controller.allocatedDevices.lookup device = some metadata →
    ∀ name, amount metadata.consumedCapacity name = world.claims.total fun _ claim => share claim device name

section

variable {world : Observed} {device : DeviceID}

theorem sharesFreed_empty (podUIDs : List String) : sharesFreed podUIDs ∅ = false := by
  cases podUIDs with
  | nil => rfl
  | cons uid rest => simp [sharesFreed, allConsumersDeleting]

/-- While no pod is deleting, all that is consumed stays consumed. -/
theorem effectiveConsumedCapacity_empty (metadata : DeviceMetadata) :
    effectiveConsumedCapacity metadata ∅ = metadata.consumedCapacity := by
  rw [effectiveConsumedCapacity]
  simp only [sharesFreed_empty, Bool.false_eq_true, if_false]
  exact List.foldl_fixed _

theorem Observed.Tracks.amount_consumed (tracks : world.Tracks) (held : ∃ nn claim, Holds world.claims device nn claim)
    {metadata : DeviceMetadata} (found : world.controller.allocatedDevices.lookup device = some metadata) (name : String) :
    amount metadata.consumedCapacity name =
      world.claims.total fun _ claim => consumedAmount (counted claim device) name := by
  obtain ⟨tracked, lookup, -, -, -, consumed⟩ := tracks.lookup_device held
  obtain rfl := Option.some.inj (found.symm.trans lookup)
  have total := consumed ∅ name
  rw [effectiveConsumedCapacity_empty] at total
  refine total.trans (Map.total_congr fun nn claim _ => ?_)
  rw [keptShare, sharesFreed_empty]
  rfl

theorem resultsOn_of_not_holds (stored : claims.lookup nn = some claim) (free : ¬ Holds claims device nn claim) :
    resultsOn claim device = [] := by
  by_contra some
  exact free ⟨stored, some⟩

/-- The last results amount to as much as all results exactly if no other result consumes anything. -/
theorem total_counted_eq_iff (claims : Map ResourceClaimID ResourceClaim) (name : String) :
    (claims.total (fun _ claim => consumedAmount (counted claim device) name) =
        claims.total fun _ claim => share claim device name) ↔
      ∀ nn claim, Holds claims device nn claim → share claim device name = consumedAmount (counted claim device) name := by
  have below := fun claim => counted_le_share claim device name
  have atMost : claims.total (fun _ claim => consumedAmount (counted claim device) name) ≤
      claims.total fun _ claim => share claim device name := List.sum_le_sum fun entry _ => below entry.2
  rw [← atMost.ge_iff_eq]
  refine (total_le_total_iff claims below).trans ?_
  constructor
  · intro least nn claim holds
    exact le_antisymm (least nn claim holds.1) (below claim)
  · intro same nn claim stored
    by_cases holds : Holds claims device nn claim
    · exact (same nn claim holds).le
    · rw [share, counted, resultsOn_of_not_holds stored holds]
      exact le_refl _

end

/-- After any series of claim events, what is kept of a device is what the claims amount to exactly if no claim
consumes anything of the device beyond its last result on it. -/
theorem device_metadata_recomputed_iff (events : List (ResourceClaimID × Option ResourceClaim)) (device : DeviceID) :
    Aggregated (observe events) device ↔
      ∀ nn claim, Holds (observe events).claims device nn claim → ∀ name,
        share claim device name = consumedAmount (counted claim device) name := by
  have tracks := tracks_observe events
  by_cases held : ∃ nn claim, Holds (observe events).claims device nn claim
  · obtain ⟨metadata, found, -, pods, -, -⟩ := tracks.lookup_device held
    constructor
    · intro aggregated nn claim holds name
      have recomputed := aggregated.capacity metadata found name
      rw [tracks.amount_consumed held found] at recomputed
      exact (total_counted_eq_iff _ name).mp recomputed nn claim holds
    · intro same
      refine ⟨?_, ?_, ?_⟩
      · rw [found]
        exact iff_of_true rfl held
      · intro metadata' found'
        obtain rfl := Option.some.inj (found.symm.trans found')
        exact pods
      · intro metadata' found' name
        rw [tracks.amount_consumed held found']
        exact (total_counted_eq_iff _ name).mpr fun nn claim holds => same nn claim holds name
  · have missing := tracks.lookup_of_not_held held
    constructor
    · intro _ nn claim holds
      exact absurd ⟨nn, claim, holds⟩ held
    · intro _
      refine ⟨?_, ?_, ?_⟩
      · rw [missing]
        exact iff_of_false nofun held
      · intro metadata found
        rw [missing] at found
        cases found
      · intro metadata found
        rw [missing] at found
        cases found

def sharedDevice : DeviceID := ⟨"nic.example.com", "node", "nic-0"⟩

theorem bandwidth_nonneg (units : Nat) (name : String) :
    0 ≤ (some (Map.ofList [("bandwidth", (units : Quantity))])).elim 0 (amount · name) := by
  rw [Option.elim_some, amount, Map.lookup_ofList]
  by_cases same : "bandwidth" = name
  · simp [same]
  · simp [same]

def bandwidthResult (units : Nat) : DeviceRequestAllocationResult where
  device := sharedDevice
  consumedCapacity := some (Map.ofList [("bandwidth", (units : Quantity))])
  nonneg := bandwidth_nonneg units

/-- A claim with two requests that were both given a share of one device. -/
def twiceSharedClaim : ResourceClaim where
  namespaceName := "default"
  name := "twice"
  allocation := some { results := [bandwidthResult 4, bandwidthResult 3] }

/-- Seven units of the device are consumed, and three are counted. -/
theorem device_metadata_recomputed_twice :
    let world := observe [(resourceClaimID twiceSharedClaim, some twiceSharedClaim)]
    (world.controller.allocatedDevices.lookup sharedDevice).map (amount ·.consumedCapacity "bandwidth") = some 3 ∧
      (world.claims.total fun _ claim => share claim sharedDevice "bandwidth") = 7 := by
  decide +kernel

end Karpenter.DynamicResources.DeviceAllocation
