import Karpenter.DynamicResources.DeviceAllocation

/-! When the seed of a scheduling loop agrees with the classification of claims. A claim all of whose consumers
are deleting pods is allocated again, so what it holds may be given away; every other allocated claim keeps its
devices, and the seed has to account for them. The seed is drawn from what the controller has tracked over any
series of claim events. -/
namespace Karpenter.DynamicResources.DeviceAllocation

open Go (Map)
open Resources

/-- The claims as they were last observed, with what the controller keeps of them. -/
structure Observed where
  controller : Controller := {}
  claims : Map ResourceClaimID ResourceClaim := ∅

def Observed.step (world : Observed) (event : ResourceClaimID × Option ResourceClaim) : Observed where
  controller := world.controller.reconcile event.1 event.2
  claims := match event.2 with
    | none => world.claims.erase event.1
    | some claim => world.claims.insert event.1 claim

def observe (events : List (ResourceClaimID × Option ResourceClaim)) : Observed := events.foldl Observed.step {}

/-- What the controller keeps of a claim, if it holds a device at all. -/
def tracked (claim : ResourceClaim) : Option ClaimMetadata :=
  if (allocationResults claim).isEmpty then none
  else some (DeviceAllocation.claimMetadata claim (contributions (allocationResults claim)))

structure Observed.Tracks (world : Observed) : Prop where
  indexed : world.controller.Indexed
  metadata : ∀ nn, world.controller.claimMetadata.lookup nn = (world.claims.lookup nn).bind tracked

theorem lookup_finalizeClaim (c : Controller) (nn other : ResourceClaimID) :
    (c.finalizeClaim nn).claimMetadata.lookup other = if other = nn then none else c.claimMetadata.lookup other := by
  rw [Controller.finalizeClaim, Map.lookup_erase_eq]
  have metadata := (foldl_track_spec (Controller.removeClaim nn) (·.erase nn) (fun _ _ => rfl)
    (c.contributionsOf nn).keys_nodup c).1
  rw [metadata]

theorem lookup_reconcileClaim (c : Controller) (nn other : ResourceClaimID) (claim : ResourceClaim) :
    (c.reconcileClaim nn claim).claimMetadata.lookup other =
      if other = nn then tracked claim else c.claimMetadata.lookup other := by
  simp only [Controller.reconcileClaim, tracked]
  split
  · exact lookup_finalizeClaim c nn other
  · have dropDistinct := (c.contributionsOf nn).keys_nodup.filter fun device =>
      ((contributions (allocationResults claim)).lookup device).isNone
    have dropped := fun c => (foldl_track_spec (Controller.removeClaim nn) (·.erase nn) (fun _ _ => rfl)
      dropDistinct c).1
    have entered := fun c => (foldl_track_spec (Controller.insertClaim nn) (·.insert nn) (fun _ _ => rfl)
      (contributions (allocationResults claim)).keys_nodup c).1
    rw [entered, dropped]
    exact Map.lookup_insert_eq _ _ _ _

theorem Observed.Tracks.step {world : Observed} (tracks : world.Tracks)
    (event : ResourceClaimID × Option ResourceClaim) : (world.step event).Tracks := by
  obtain ⟨nn, update⟩ := event
  cases update with
  | none =>
    refine ⟨tracks.indexed.finalizeClaim nn, fun other => ?_⟩
    refine (lookup_finalizeClaim world.controller nn other).trans ?_
    rw [Observed.step, Map.lookup_erase_eq, tracks.metadata]
    split <;> rfl
  | some claim =>
    refine ⟨tracks.indexed.reconcileClaim nn claim, fun other => ?_⟩
    refine (lookup_reconcileClaim world.controller nn other claim).trans ?_
    rw [Observed.step, Map.lookup_insert_eq, tracks.metadata]
    split <;> rfl

theorem tracks_observe (events : List (ResourceClaimID × Option ResourceClaim)) : (observe events).Tracks := by
  have start : Observed.Tracks {} := by
    refine ⟨⟨fun device nn => ?_, fun device => List.nodup_nil, fun device => rfl⟩, fun nn => rfl⟩
    exact iff_of_false List.not_mem_nil nofun
  exact List.foldlRecOn events Observed.step start fun world tracks event _ => tracks.step event

/-! What a claim holds of a device. -/

def resultsOn (claim : ResourceClaim) (device : DeviceID) : List DeviceRequestAllocationResult :=
  (allocationResults claim).filter fun result => decide (result.device = device)

def Holds (claims : Map ResourceClaimID ResourceClaim) (device : DeviceID) (nn : ResourceClaimID)
    (claim : ResourceClaim) : Prop :=
  claims.lookup nn = some claim ∧ resultsOn claim device ≠ []

/-- What a claim consumes of a shared device, over all of its results. -/
def share (claim : ResourceClaim) (device : DeviceID) (name : String) : Quantity :=
  ((resultsOn claim device).map fun result => consumedAmount result.consumedCapacity name).sum

/-- The consumption that is counted: that of the last result. -/
def counted (claim : ResourceClaim) (device : DeviceID) : Option ConsumedCapacity :=
  (resultsOn claim device).getLast?.bind (·.consumedCapacity)

variable (claim : ResourceClaim) (device : DeviceID)

theorem lookup_contributions : (contributions (allocationResults claim)).lookup device =
      (resultsOn claim device).getLast?.map (·.consumedCapacity) := by
  rw [contributions, Map.lookup_ofList, List.filter_map, List.getLast?_map, Option.map_map]
  rfl

variable (name : String)

theorem share_nonneg : 0 ≤ share claim device name := by
  apply List.sum_nonneg
  intro amount member
  obtain ⟨result, _, rfl⟩ := List.mem_map.mp member
  exact result.nonneg name

theorem counted_nonneg : 0 ≤ consumedAmount (counted claim device) name := by
  rw [counted]
  cases (resultsOn claim device).getLast? with
  | none => exact le_refl 0
  | some result => exact result.nonneg name

theorem counted_le_share : consumedAmount (counted claim device) name ≤ share claim device name := by
  rw [counted]
  cases last : (resultsOn claim device).getLast? with
  | none => exact share_nonneg claim device name
  | some result =>
    apply List.single_le_sum
    · intro amount member
      obtain ⟨result, _, rfl⟩ := List.mem_map.mp member
      exact result.nonneg name
    · exact List.mem_map_of_mem (List.mem_of_getLast? last)

/-! What the controller computes for a device, from the claims that reference it. -/

def contributionOf (device : DeviceID) (claim : ClaimMetadata) : Option ContributionMetadata :=
  (claim.contributions.lookup device).join.map (⟨claim.podUIDs, ·⟩)

/-- What is computed for a device, claim by claim. -/
theorem aggregate_spec (metadata : Map ResourceClaimID ClaimMetadata) (claims : List ResourceClaimID)
    (device : DeviceID) : let kept := claims.map fun nn => (metadata.lookup nn).getD {}
    (aggregate metadata claims device).releasable = kept.all (·.releasable) ∧
    (aggregate metadata claims device).podUIDs = kept.flatMap (·.podUIDs) ∧
    (aggregate metadata claims device).shared = kept.any (fun claim => (contributionOf device claim).isSome) ∧
    (aggregate metadata claims device).contributions = kept.filterMap (contributionOf device) ∧
    ∀ name, amount (aggregate metadata claims device).consumedCapacity name =
      ((aggregate metadata claims device).contributions.map (amount ·.consumedCapacity name)).sum := by
  induction claims using List.reverseRecOn with
  | nil => simp [aggregate]
  | append_singleton rest nn ih =>
    obtain ⟨releasable, podUIDs, shared, contributions, consumed⟩ := ih
    have last : aggregate metadata (rest ++ [nn]) device =
        (aggregate metadata rest device).addClaim device ((metadata.lookup nn).getD {}) := by
      rw [aggregate, List.foldl_append]
      rfl
    rw [last, DeviceMetadata.addClaim]
    cases found : (((metadata.lookup nn).getD {}).contributions.lookup device).join with
    | none => simp [contributionOf, found, releasable, podUIDs, shared, contributions, consumed]
    | some own =>
      simp [contributionOf, found, releasable, podUIDs, contributions, consumed, amount_addQuantities]

theorem amount_freeCapacity {name : String} (nonneg : 0 ≤ amount consumed name)
    (enough : amount consumed name ≤ amount effective name) :
    amount (freeCapacity effective consumed) name = amount effective name - amount consumed name := by
  simp only [amount] at nonneg enough ⊢
  rw [freeCapacity, Map.lookup_mergeWith]
  cases taken : consumed.lookup name with
  | none => simp
  | some quantity =>
    rw [taken, Option.getD_some] at nonneg enough
    cases present : effective.lookup name with
    | none =>
      rw [present, Option.getD_none] at enough
      exact (sub_eq_zero.mpr (le_antisymm nonneg enough)).symm
    | some remaining =>
      rw [present, Option.getD_some] at enough
      simp only [Option.bind_some, Option.getD_some]
      split
      · rw [Option.getD_none]
        linarith
      · rfl

/-- Freeing contributions one after another leaves those that are not freed. -/
theorem amount_effectiveConsumedCapacity {metadata : DeviceMetadata} {deleting : Finset String} {name : String}
    (summed : amount metadata.consumedCapacity name =
      (metadata.contributions.map (amount ·.consumedCapacity name)).sum)
    (nonneg : ∀ contribution ∈ metadata.contributions, 0 ≤ amount contribution.consumedCapacity name) :
    amount (effectiveConsumedCapacity metadata deleting) name = (metadata.contributions.map fun contribution =>
      if sharesFreed contribution.podUIDs deleting then 0 else amount contribution.consumedCapacity name).sum := by
  -- The induction carries what earlier contributions have left over.
  have general : ∀ (contributions : List ContributionMetadata) (effective : ConsumedCapacity) (kept : Quantity),
      0 ≤ kept → (∀ contribution ∈ contributions, 0 ≤ amount contribution.consumedCapacity name) →
      amount effective name = kept + (contributions.map (amount ·.consumedCapacity name)).sum →
      amount (contributions.foldl (fun effective contribution =>
        if sharesFreed contribution.podUIDs deleting then freeCapacity effective contribution.consumedCapacity
        else effective) effective) name = kept + (contributions.map fun contribution =>
          if sharesFreed contribution.podUIDs deleting then 0
          else amount contribution.consumedCapacity name).sum := by
    intro contributions
    induction contributions with
    | nil => exact fun effective kept _ _ same => same
    | cons contribution rest ih =>
      intro effective kept keptNonneg nonneg same
      have own := nonneg contribution List.mem_cons_self
      have later : ∀ contribution ∈ rest, 0 ≤ amount contribution.consumedCapacity name :=
        fun contribution member => nonneg contribution (List.mem_cons_of_mem _ member)
      have restNonneg : 0 ≤ (rest.map (amount ·.consumedCapacity name)).sum := by
        apply List.sum_nonneg
        intro quantity member
        obtain ⟨contribution, inRest, rfl⟩ := List.mem_map.mp member
        exact later contribution inRest
      rw [List.map_cons, List.sum_cons] at same
      rw [List.foldl_cons, List.map_cons, List.sum_cons]
      by_cases freed : sharesFreed contribution.podUIDs deleting = true
      · rw [if_pos freed, if_pos freed, zero_add]
        apply ih _ kept keptNonneg later
        rw [amount_freeCapacity own (by linarith)]
        linarith
      · rw [if_neg freed, if_neg freed, ← add_assoc]
        apply ih _ _ (add_nonneg keptNonneg own) later
        linarith
  have freed := general metadata.contributions metadata.consumedCapacity 0 (le_refl 0) nonneg
    (by rw [summed, zero_add])
  rw [zero_add] at freed
  exact freed

/-! The seed, from the claims that hold a device. -/

/-- All pods that consume the device are deleting, and there are some. -/
def Freed (claims : Map ResourceClaimID ResourceClaim) (deleting : Finset String) (device : DeviceID) : Prop :=
  (∃ nn claim, Holds claims device nn claim ∧ podUIDs claim ≠ []) ∧
    ∀ nn claim, Holds claims device nn claim → allConsumersDeleting (podUIDs claim) deleting = true

def Shared (claims : Map ResourceClaimID ResourceClaim) (device : DeviceID) : Prop :=
  ∃ nn claim, Holds claims device nn claim ∧ (counted claim device).isSome = true

/-- What stays of the counted share of a claim. -/
def keptShare (deleting : Finset String) (device : DeviceID) (name : String) (claim : ResourceClaim) : Quantity :=
  if sharesFreed (podUIDs claim) deleting then 0 else consumedAmount (counted claim device) name

section Seed

variable {world : Observed} {device : DeviceID}

theorem Holds.tracked {claim : ResourceClaim} (holds : Holds claims device nn claim) : tracked claim =
      some (DeviceAllocation.claimMetadata claim (contributions (allocationResults claim))) := by
  rw [DeviceAllocation.tracked, if_neg]
  intro empty
  apply holds.2
  rw [resultsOn, List.isEmpty_iff.mp empty]
  rfl

theorem Observed.Tracks.metadata_of_holds {claim : ResourceClaim} (tracks : world.Tracks)
    (holds : Holds world.claims device nn claim) : (world.controller.claimMetadata.lookup nn).getD {} =
      DeviceAllocation.claimMetadata claim (contributions (allocationResults claim)) := by
  rw [tracks.metadata, holds.1, Option.bind_some, holds.tracked, Option.getD_some]

theorem Observed.Tracks.mem_claims (tracks : world.Tracks) (nn : ResourceClaimID) :
    nn ∈ world.controller.claims device ↔ ∃ claim, Holds world.claims device nn claim := by
  rw [tracks.indexed.members, Controller.contributionsOf]
  constructor
  · intro contributes
    rw [tracks.metadata] at contributes
    cases stored : world.claims.lookup nn with
    | none =>
      rw [stored] at contributes
      cases contributes
    | some claim =>
      refine ⟨claim, stored, fun none => ?_⟩
      rw [stored, Option.bind_some, DeviceAllocation.tracked] at contributes
      split at contributes
      · cases contributes
      · have listed : ((contributions (allocationResults claim)).lookup device).isSome = true := contributes
        rw [lookup_contributions, none] at listed
        cases listed
  · rintro ⟨claim, holds⟩
    rw [tracks.metadata_of_holds holds]
    refine (congrArg Option.isSome (lookup_contributions claim device)).trans ?_
    rw [Option.isSome_map, List.getLast?_isSome]
    exact holds.2

/-- What is kept of the claims that hold the device. -/
theorem Observed.Tracks.mem_kept (tracks : world.Tracks) (kept : ClaimMetadata) :
    kept ∈ (world.controller.claims device).map (fun nn => (world.controller.claimMetadata.lookup nn).getD {}) ↔
      ∃ nn claim, Holds world.claims device nn claim ∧
        DeviceAllocation.claimMetadata claim (contributions (allocationResults claim)) = kept := by
  rw [List.mem_map]
  constructor
  · rintro ⟨nn, references, rfl⟩
    obtain ⟨claim, holds⟩ := (tracks.mem_claims nn).mp references
    exact ⟨nn, claim, holds, (tracks.metadata_of_holds holds).symm⟩
  · rintro ⟨nn, claim, holds, rfl⟩
    exact ⟨nn, (tracks.mem_claims nn).mpr ⟨claim, holds⟩, tracks.metadata_of_holds holds⟩

theorem contributionOf_claimMetadata (device : DeviceID) :
    contributionOf device (DeviceAllocation.claimMetadata claim (contributions (allocationResults claim))) =
      (counted claim device).map (⟨podUIDs claim, ·⟩) := by
  rw [contributionOf]
  refine congrArg (fun found => (Option.join found).map _) (lookup_contributions claim device) |>.trans ?_
  rw [counted]
  cases (resultsOn claim device).getLast? <;> rfl

/-- A claim whose consumers are all pods has a pod among them. -/
theorem podUIDs_of_releasable {claim : ResourceClaim} {contributions : Map DeviceID (Option ConsumedCapacity)}
    (releasable : (DeviceAllocation.claimMetadata claim contributions).releasable = true) : podUIDs claim ≠ [] := by
  obtain ⟨nonempty, pods⟩ := (Bool.and_eq_true _ _).mp releasable
  rw [podUIDs, List.filter_eq_self.mpr (List.all_eq_true.mp pods)]
  simpa using nonempty

theorem sum_map_filterMap (f : ClaimMetadata → Option ContributionMetadata) (quantity : ContributionMetadata → Quantity)
    (claims : List ClaimMetadata) : ((claims.filterMap f).map quantity).sum =
      (claims.map fun claim => (f claim).elim 0 quantity).sum := by
  induction claims with
  | nil => rfl
  | cons claim rest ih => cases found : f claim <;> simp [found, ih]

/-- The capacity still consumed of a device is what is kept of the claims, all of them taken together. -/
theorem Observed.Tracks.amount_effective (tracks : world.Tracks) (device : DeviceID) (deleting : Finset String)
    (name : String) : amount (effectiveConsumedCapacity (aggregate world.controller.claimMetadata
      (world.controller.claims device) device) deleting) name =
        world.claims.total fun _ => keptShare deleting device name := by
  obtain ⟨_, _, _, contributions, consumed⟩ :=
    aggregate_spec world.controller.claimMetadata (world.controller.claims device) device
  rw [amount_effectiveConsumedCapacity (consumed name), contributions, sum_map_filterMap, List.map_map,
    Map.total_eq_sum (tracks.indexed.distinct device)]
  · congr 1
    apply List.map_congr_left
    intro nn references
    obtain ⟨claim, holds⟩ := (tracks.mem_claims nn).mp references
    rw [Function.comp_apply, tracks.metadata_of_holds holds, contributionOf_claimMetadata, holds.1,
      Option.elim_some, keptShare]
    cases counted claim device <;> simp [consumedAmount]
  · intro nn claim stored unreferenced
    have holdsNothing : resultsOn claim device = [] := by
      by_contra some
      exact unreferenced ((tracks.mem_claims nn).mpr ⟨claim, stored, some⟩)
    rw [keptShare, counted, holdsNothing]
    exact ite_self 0
  · rw [contributions]
    intro contribution member
    obtain ⟨_, kept, found⟩ := List.mem_filterMap.mp member
    obtain ⟨nn, claim, holds, rfl⟩ := (tracks.mem_kept _).mp kept
    rw [contributionOf_claimMetadata, Option.map_eq_some_iff] at found
    obtain ⟨consumed, own, rfl⟩ := found
    have nonneg := counted_nonneg claim device name
    rw [own] at nonneg
    exact nonneg

theorem Observed.Tracks.lookup_device (tracks : world.Tracks) (held : ∃ nn claim, Holds world.claims device nn claim) :
    ∃ metadata, world.controller.allocatedDevices.lookup device = some metadata ∧
      (metadata.releasable = true → ∀ nn claim, Holds world.claims device nn claim → podUIDs claim ≠ []) ∧
      (∀ uid, uid ∈ metadata.podUIDs ↔ ∃ nn claim, Holds world.claims device nn claim ∧ uid ∈ podUIDs claim) ∧
      (metadata.shared = true ↔ Shared world.claims device) ∧
      ∀ deleting name, amount (effectiveConsumedCapacity metadata deleting) name =
        world.claims.total fun _ => keptShare deleting device name := by
  obtain ⟨nn, claim, holds⟩ := held
  have nonempty : world.controller.claims device ≠ [] :=
    List.ne_nil_of_mem ((tracks.mem_claims nn).mpr ⟨claim, holds⟩)
  have lookup := tracks.indexed.devices device
  rw [if_neg nonempty, Controller.computeDeviceMetadata] at lookup
  obtain ⟨releasable, uids, shared, _⟩ :=
    aggregate_spec world.controller.claimMetadata (world.controller.claims device) device
  refine ⟨_, lookup, ?_, ?_, ?_, ?_⟩
  · intro all nn claim holds
    rw [releasable, List.all_eq_true] at all
    exact podUIDs_of_releasable (all _ ((tracks.mem_kept _).mpr ⟨nn, claim, holds, rfl⟩))
  · intro uid
    rw [uids, List.mem_flatMap]
    constructor
    · rintro ⟨_, kept, inside⟩
      obtain ⟨nn, claim, holds, rfl⟩ := (tracks.mem_kept _).mp kept
      exact ⟨nn, claim, holds, inside⟩
    · rintro ⟨nn, claim, holds, inside⟩
      exact ⟨_, (tracks.mem_kept _).mpr ⟨nn, claim, holds, rfl⟩, inside⟩
  · rw [shared, List.any_eq_true]
    constructor
    · rintro ⟨_, kept, contributes⟩
      obtain ⟨nn, claim, holds, rfl⟩ := (tracks.mem_kept _).mp kept
      rw [contributionOf_claimMetadata, Option.isSome_map] at contributes
      exact ⟨nn, claim, holds, contributes⟩
    · rintro ⟨nn, claim, holds, contributes⟩
      refine ⟨_, (tracks.mem_kept _).mpr ⟨nn, claim, holds, rfl⟩, ?_⟩
      rw [contributionOf_claimMetadata, Option.isSome_map]
      exact contributes
  · exact tracks.amount_effective device

theorem sharesFreed_iff {podUIDs : List String} {deleting : Finset String} :
    sharesFreed podUIDs deleting = true ↔ podUIDs ≠ [] ∧ ∀ uid ∈ podUIDs, uid ∈ deleting := by
  simp [sharesFreed, allConsumersDeleting]

/-- How a device that claims hold enters the seed. -/
theorem Observed.Tracks.seedEntry (tracks : world.Tracks) (deleting : Finset String)
    (held : ∃ nn claim, Holds world.claims device nn claim) :
    ∃ metadata, world.controller.allocatedDevices.lookup device = some metadata ∧
      (Freed world.claims deleting device → seedEntry metadata deleting = none) ∧
      (¬ Freed world.claims deleting device → ¬ Shared world.claims device →
        seedEntry metadata deleting = some none) ∧
      (¬ Freed world.claims deleting device → Shared world.claims device →
        seedEntry metadata deleting ≠ some none ∧ ∀ name,
          (seedEntry metadata deleting).join.elim 0 (amount · name) =
            world.claims.total fun _ => keptShare deleting device name) := by
  obtain ⟨metadata, lookup, releasable, uids, shared, effective⟩ := tracks.lookup_device held
  refine ⟨metadata, lookup, ?_⟩
  have owned : (metadata.releasable && metadata.podUIDs.isEmpty) = false := by
    obtain ⟨nn, claim, holds⟩ := held
    rw [Bool.and_eq_false_imp]
    intro all
    obtain ⟨uid, inside⟩ := List.exists_mem_of_ne_nil _ (releasable all nn claim holds)
    have member := (uids uid).mpr ⟨nn, claim, holds, inside⟩
    simpa using List.ne_nil_of_mem member
  have freed : sharesFreed metadata.podUIDs deleting = true ↔ Freed world.claims deleting device := by
    rw [sharesFreed_iff]
    constructor
    · rintro ⟨some, all⟩
      obtain ⟨uid, member⟩ := List.exists_mem_of_ne_nil _ some
      obtain ⟨nn, claim, holds, inside⟩ := (uids uid).mp member
      refine ⟨⟨nn, claim, holds, List.ne_nil_of_mem inside⟩, fun nn claim holds => ?_⟩
      rw [allConsumersDeleting, List.all_eq_true]
      intro uid inside
      exact decide_eq_true (all uid ((uids uid).mpr ⟨nn, claim, holds, inside⟩))
    · rintro ⟨⟨nn, claim, holds, some⟩, all⟩
      obtain ⟨uid, inside⟩ := List.exists_mem_of_ne_nil _ some
      refine ⟨List.ne_nil_of_mem ((uids uid).mpr ⟨nn, claim, holds, inside⟩), fun uid member => ?_⟩
      obtain ⟨nn, claim, holds, inside⟩ := (uids uid).mp member
      exact of_decide_eq_true (List.all_eq_true.mp (all nn claim holds) uid inside)
  simp only [DeviceAllocation.seedEntry, owned, Bool.false_eq_true, if_false, ← freed, ← shared]
  refine ⟨fun gone => if_pos gone, fun stays notShared => ?_, fun stays isShared => ?_⟩
  · rw [if_neg stays, if_neg notShared]
  · rw [if_neg stays, if_pos isShared]
    split
    · rename_i empty
      refine ⟨nofun, fun name => ?_⟩
      rw [← effective deleting name, amount_eq_zero_of_isEmpty empty]
      rfl
    · exact ⟨nofun, effective deleting⟩

theorem mem_exclusiveDevices (c : Controller) (deleting : Finset String) :
    device ∈ (gatherAllocatedDevices c deleting).exclusiveDevices ↔
      ∃ metadata, c.allocatedDevices.lookup device = some metadata ∧ seedEntry metadata deleting = some none := by
  rw [gatherAllocatedDevices, List.mem_toFinset, ← AList.mem_keys, ← AList.lookup_isSome,
    Map.lookup_filterMapValues]
  cases c.allocatedDevices.lookup device with
  | none => simp
  | some metadata =>
    simp only [Option.bind_some, Option.some.injEq, exists_eq_left']
    split
    · rename_i same
      simp [same]
    · rename_i other
      simpa using other

theorem amountAt_consumedCapacity (c : Controller) (deleting : Finset String) (name : String) :
    amountAt (gatherAllocatedDevices c deleting).consumedCapacity device name =
      ((c.allocatedDevices.lookup device).bind (seedEntry · deleting)).join.elim 0 (amount · name) := by
  rw [amountAt_eq, gatherAllocatedDevices, Map.lookup_filterMapValues]
  cases c.allocatedDevices.lookup device <;> rfl

end Seed

/-! Agreement of the seed with the classification of claims. -/

/-- The device is releasable and no claim that holds it has a consumer. -/
def Unowned (world : Observed) (device : DeviceID) : Prop :=
  (world.controller.allocatedDevices.lookup device).any (·.releasable) = true ∧
    ∀ nn claim, Holds world.claims device nn claim → claim.reservedFor = []

def Exclusive (claims : Map ResourceClaimID ResourceClaim) (device : DeviceID) : Prop :=
  ∀ nn claim, Holds claims device nn claim → ∀ result ∈ resultsOn claim device, result.consumedCapacity = none

/-- The share of a claim, if it is not allocated again. -/
def owedShare (a : Allocator) (device : DeviceID) (name : String) (claim : ResourceClaim) : Quantity :=
  if a.claimReservedEntirelyByDeletingPods claim then 0 else share claim device name

/-- An exclusive device is free only if every claim that holds it is allocated again, and what is consumed of a
shared one covers the shares of all claims that are not. -/
structure SeedAgrees (a : Allocator) (claims : Map ResourceClaimID ResourceClaim) (seed : AllocatedDeviceState)
    (device : DeviceID) : Prop where
  exclusive : Exclusive claims device → device ∉ seed.exclusiveDevices →
    ∀ nn claim, Holds claims device nn claim → a.claimReservedEntirelyByDeletingPods claim = true
  shares : device ∉ seed.exclusiveDevices → ∀ name,
    claims.total (fun _ => owedShare a device name) ≤ amountAt seed.consumedCapacity device name

/-- A claim that is not allocated again loses nothing: if all pods of the device are deleting, it consumes nothing
of it and the device is shared, and otherwise what it consumes of a shared device is in its last result, and its
pods, if any, are not all deleting. -/
structure Retains (a : Allocator) (claims : Map ResourceClaimID ResourceClaim) (device : DeviceID) : Prop where
  freed : Freed claims a.deletingPodUIDs device → ∀ nn claim, Holds claims device nn claim →
    a.claimReservedEntirelyByDeletingPods claim = false →
      ¬ Exclusive claims device ∧ ∀ name, share claim device name = 0
  counted : ¬ Freed claims a.deletingPodUIDs device → Shared claims device →
    ∀ nn claim, Holds claims device nn claim → a.claimReservedEntirelyByDeletingPods claim = false →
      ∀ name, share claim device name ≤ keptShare a.deletingPodUIDs device name claim

section Agreement

variable {a : Allocator} {claims : Map ResourceClaimID ResourceClaim} {device : DeviceID}

theorem sharesFreed_of_reallocated {claim : ResourceClaim}
    (reallocated : a.claimReservedEntirelyByDeletingPods claim = true) :
    sharesFreed (podUIDs claim) a.deletingPodUIDs = true := by
  obtain ⟨nonempty, all⟩ := (Bool.and_eq_true _ _).mp reallocated
  have each (ref : ConsumerReference) (member : ref ∈ claim.reservedFor) :
      isPod ref = true ∧ ref.uid ∈ a.deletingPodUIDs := by
    simpa [isPod] using List.all_eq_true.mp all ref member
  have pods : podUIDs claim = claim.reservedFor.map (·.uid) := by
    rw [podUIDs, List.filter_eq_self.mpr fun ref member => (each ref member).1]
  rw [sharesFreed_iff, pods]
  refine ⟨by simpa using nonempty, fun uid member => ?_⟩
  obtain ⟨ref, inside, rfl⟩ := List.mem_map.mp member
  exact (each ref inside).2

theorem owedShare_nonneg (a : Allocator) (device : DeviceID) (name : String) (claim : ResourceClaim) :
    0 ≤ owedShare a device name claim := by
  rw [owedShare]
  split
  · exact le_refl 0
  · exact share_nonneg claim device name

/-- No claim keeps more than it is owed. -/
theorem keptShare_le (a : Allocator) (device : DeviceID) (name : String) (claim : ResourceClaim) :
    keptShare a.deletingPodUIDs device name claim ≤ owedShare a device name claim := by
  rw [keptShare, owedShare]
  by_cases reallocated : a.claimReservedEntirelyByDeletingPods claim = true
  · rw [if_pos reallocated, if_pos (sharesFreed_of_reallocated reallocated)]
  · rw [if_neg reallocated]
    split
    · exact share_nonneg claim device name
    · exact counted_le_share claim device name

/-- Quantities that are pointwise at most others add up to no less only if they are equal. -/
theorem total_le_total_iff (m : Map ResourceClaimID ResourceClaim) {first second : ResourceClaim → Quantity}
    (below : ∀ claim, second claim ≤ first claim) : (m.total (fun _ => first) ≤ m.total fun _ => second) ↔
      ∀ nn claim, m.lookup nn = some claim → first claim ≤ second claim := by
  constructor
  · intro least nn claim stored
    by_contra more
    refine absurd least (not_le.mpr ?_)
    exact List.sum_lt_sum _ _ (fun entry _ => below entry.2)
      ⟨⟨nn, claim⟩, Map.mem_entries_iff.mpr stored, not_le.mp more⟩
  · intro pointwise
    exact List.sum_le_sum fun entry member => pointwise entry.1 entry.2 (Map.mem_entries_iff.mp member)

theorem owedShare_of_not_holds {claim : ResourceClaim} (stored : claims.lookup nn = some claim)
    (free : ¬ Holds claims device nn claim) (name : String) : owedShare a device name claim = 0 := by
  have none : resultsOn claim device = [] := by
    by_contra some
    exact free ⟨stored, some⟩
  rw [owedShare, share, none]
  exact ite_self 0

theorem Observed.Tracks.lookup_of_not_held {world : Observed} (tracks : world.Tracks)
    (unheld : ¬ ∃ nn claim, Holds world.claims device nn claim) :
    world.controller.allocatedDevices.lookup device = none := by
  have nobody : world.controller.claims device = [] := by
    rw [List.eq_nil_iff_forall_not_mem]
    exact fun nn references => unheld ⟨nn, (tracks.mem_claims nn).mp references⟩
  rw [tracks.indexed.devices, if_pos nobody]

theorem not_unowned {world : Observed} (tracks : world.Tracks) : ¬ Unowned world device := by
  rintro ⟨releasable, unused⟩
  by_cases held : ∃ nn claim, Holds world.claims device nn claim
  · obtain ⟨metadata, lookup, pods, _⟩ := tracks.lookup_device held
    obtain ⟨nn, claim, holds⟩ := held
    rw [lookup, Option.any_some] at releasable
    apply pods releasable nn claim holds
    rw [podUIDs, unused nn claim holds]
    rfl
  · rw [tracks.lookup_of_not_held held] at releasable
    cases releasable

theorem not_shared_of_exclusive (exclusive : Exclusive claims device) : ¬ Shared claims device := by
  rintro ⟨nn, claim, holds, some⟩
  obtain ⟨consumed, present⟩ := Option.isSome_iff_exists.mp some
  obtain ⟨result, last, own⟩ := Option.bind_eq_some_iff.mp present
  rw [exclusive nn claim holds result (List.mem_of_getLast? last)] at own
  cases own

theorem Observed.Tracks.seed {world : Observed} (tracks : world.Tracks) (device : DeviceID) (deleting : Finset String) :
    let seed := gatherAllocatedDevices world.controller deleting
    (Freed world.claims deleting device →
      device ∉ seed.exclusiveDevices ∧ ∀ name, amountAt seed.consumedCapacity device name = 0) ∧
    (¬ Freed world.claims deleting device → Shared world.claims device →
      device ∉ seed.exclusiveDevices ∧ ∀ name, amountAt seed.consumedCapacity device name =
        world.claims.total fun _ => keptShare deleting device name) ∧
    (¬ Freed world.claims deleting device → ¬ Shared world.claims device →
      (∃ nn claim, Holds world.claims device nn claim) → device ∈ seed.exclusiveDevices) := by
  simp only [mem_exclusiveDevices, amountAt_consumedCapacity]
  refine ⟨?_, ?_, ?_⟩
  · rintro freed
    obtain ⟨⟨nn, claim, holds, _⟩, _⟩ := id freed
    obtain ⟨metadata, lookup, gone, _⟩ := tracks.seedEntry deleting ⟨nn, claim, holds⟩
    simp [lookup, gone freed]
  · rintro stays shared
    obtain ⟨nn, claim, holds, _⟩ := id shared
    obtain ⟨metadata, lookup, _, _, counted⟩ := tracks.seedEntry deleting ⟨nn, claim, holds⟩
    obtain ⟨other, amounts⟩ := counted stays shared
    simpa [lookup, other] using amounts
  · intro stays notShared held
    obtain ⟨metadata, lookup, _, taken, _⟩ := tracks.seedEntry deleting held
    exact ⟨metadata, lookup, taken stays notShared⟩

variable (deleting : Finset String)

theorem keptShare_nonneg (device : DeviceID) (name : String) (claim : ResourceClaim) :
    0 ≤ keptShare deleting device name claim := by
  rw [keptShare]
  split
  · exact le_refl 0
  · exact counted_nonneg claim device name

/-- Each claim that holds the device gets what it is owed, if all claims taken together do. -/
theorem total_owedShare_le_iff {kept : ResourceClaim → Quantity} {name : String}
    (nonneg : ∀ claim, 0 ≤ kept claim) (below : ∀ claim, kept claim ≤ owedShare a device name claim) :
    (claims.total (fun _ => owedShare a device name) ≤ claims.total fun _ => kept) ↔
      ∀ nn claim, Holds claims device nn claim → a.claimReservedEntirelyByDeletingPods claim = false →
        share claim device name ≤ kept claim := by
  rw [total_le_total_iff claims below]
  constructor
  · intro covered nn claim holds owed
    have own := covered nn claim holds.1
    rw [owedShare, owed] at own
    exact own
  · intro covered nn claim stored
    by_cases holds : Holds claims device nn claim
    · rw [owedShare]
      split
      · exact nonneg claim
      · rename_i owed
        exact covered nn claim holds (Bool.eq_false_iff.mpr owed)
    · rw [owedShare_of_not_holds stored holds]
      exact nonneg claim

theorem seedAgrees_iff {world : Observed} (tracks : world.Tracks) :
    SeedAgrees a world.claims (gatherAllocatedDevices world.controller a.deletingPodUIDs) device ↔
      Retains a world.claims device := by
  obtain ⟨whenFreed, whenShared, whenTaken⟩ := tracks.seed device a.deletingPodUIDs
  have covered (name : String) : world.claims.total (fun _ => owedShare a device name) ≤
      world.claims.total (fun _ => keptShare a.deletingPodUIDs device name) ↔
        ∀ nn claim, Holds world.claims device nn claim → a.claimReservedEntirelyByDeletingPods claim = false →
          share claim device name ≤ keptShare a.deletingPodUIDs device name claim :=
    total_owedShare_le_iff (keptShare_nonneg a.deletingPodUIDs device name) (keptShare_le a device name)
  have nothing (name : String) : world.claims.total (fun _ => owedShare a device name) ≤ 0 ↔
      ∀ nn claim, Holds world.claims device nn claim → a.claimReservedEntirelyByDeletingPods claim = false →
        share claim device name ≤ 0 := by
    rw [← total_owedShare_le_iff (fun _ => le_refl 0) (owedShare_nonneg a device name)]
    simp [Map.total]
  constructor
  · rintro ⟨exclusive, shares⟩
    constructor
    · intro freed nn claim holds kept
      obtain ⟨outside, zero⟩ := whenFreed freed
      refine ⟨fun all => ?_, fun name => ?_⟩
      · rw [exclusive all outside nn claim holds] at kept
        cases kept
      · have least := shares outside name
        rw [zero, nothing] at least
        exact le_antisymm (least nn claim holds kept) (share_nonneg claim device name)
    · intro stays shared nn claim holds kept name
      obtain ⟨outside, amounts⟩ := whenShared stays shared
      have least := shares outside name
      rw [amounts, covered] at least
      exact least nn claim holds kept
  · intro retains
    constructor
    · intro exclusive outside nn claim holds
      by_contra kept
      by_cases freed : Freed world.claims a.deletingPodUIDs device
      · exact (retains.freed freed nn claim holds (Bool.eq_false_iff.mpr kept)).1 exclusive
      · exact outside (whenTaken freed (not_shared_of_exclusive exclusive) ⟨nn, claim, holds⟩)
    · intro outside name
      by_cases freed : Freed world.claims a.deletingPodUIDs device
      · rw [(whenFreed freed).2, nothing]
        exact fun nn claim holds kept => ((retains.freed freed nn claim holds kept).2 name).le
      · by_cases shared : Shared world.claims device
        · rw [(whenShared freed shared).2, covered]
          exact fun nn claim holds kept => retains.counted freed shared nn claim holds kept name
        · have unheld : ¬ ∃ nn claim, Holds world.claims device nn claim :=
            fun held => outside (whenTaken freed shared held)
          rw [amountAt_consumedCapacity, tracks.lookup_of_not_held unheld, Option.bind_none, Option.join_none,
            Option.elim_none, nothing]
          exact fun nn claim holds => absurd ⟨nn, claim, holds⟩ unheld

end Agreement

/-- After any series of claim events, the seed agrees with the classification of claims exactly on the devices of
which no claim that keeps its allocation loses anything. -/
theorem device_seed_agrees_iff (a : Allocator) (events : List (ResourceClaimID × Option ResourceClaim))
    (device : DeviceID) : Unowned (observe events) device ∨ SeedAgrees a (observe events).claims
      (gatherAllocatedDevices (observe events).controller a.deletingPodUIDs) device ↔
        Retains a (observe events).claims device := by
  have tracks := tracks_observe events
  rw [or_iff_right (not_unowned tracks)]
  exact seedAgrees_iff tracks

def heldDevice : DeviceID := ⟨"gpu.example.com", "node", "gpu-0"⟩

/-- A claim for one whole device that a pod and an object of another kind have reserved. -/
def mixedClaim : ResourceClaim where
  namespaceName := "default"
  name := "mixed"
  allocation := some { results := [{ device := heldDevice }] }
  reservedFor := [{ resource := "pods", apiGroup := "", uid := "pod" },
    { resource := "workloads", apiGroup := "example.com", uid := "workload" }]

/-- The pod is deleting, so the device is not in the seed, and yet the claim is not one that is allocated again. -/
theorem device_seed_agrees_mixed : let world := observe [(resourceClaimID mixedClaim, some mixedClaim)]
    let seed := gatherAllocatedDevices world.controller {"pod"}
    let a := newAllocator ∅ [] seed ∅ {"pod"}
    ¬ (Unowned world heldDevice ∨ SeedAgrees a world.claims seed heldDevice) := by
  intro world seed a
  have held : Holds world.claims heldDevice (resourceClaimID mixedClaim) mixedClaim := ⟨rfl, nofun⟩
  have exclusive : Exclusive world.claims heldDevice := by
    intro nn claim holds result member
    have only : claim = mixedClaim := by
      cases List.mem_singleton.mp (Map.mem_entries_iff.mpr holds.1)
      rfl
    subst only
    rw [List.mem_singleton.mp member]
  rintro (unowned | agrees)
  · cases unowned.2 _ _ held
  · have reallocated := agrees.exclusive exclusive (by decide +kernel) _ _ held
    revert reallocated
    decide +kernel

end Karpenter.DynamicResources.DeviceAllocation
