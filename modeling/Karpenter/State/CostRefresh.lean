import Karpenter.State.Cost

/-! A refresh of the prices against the price an offering is first tracked with. The refresh reads an index in which the
last offering under a key has overwritten the others; the first price is that of the first offering under the key, of
the first instance type with its name. -/
namespace Karpenter.Cost

open Go (Map)

/-- All offerings with their keys, in the order of the list. -/
def listings (instanceTypes : List (Option InstanceType)) : List (OfferingKey × ℚ) :=
  (instanceTypes.filterMap id).flatMap fun it => it.offerings.map fun o => (⟨o.zone, o.capacityType, it.name⟩, o.price)

def offeredPrices (instanceTypes : List (Option InstanceType)) (key : OfferingKey) : List ℚ :=
  ((listings instanceTypes).filter fun entry => entry.1 = key).map (·.2)

theorem lookup_priceIndex (instanceTypes : List (Option InstanceType)) (key : OfferingKey) :
    (priceIndex instanceTypes).lookup key = (offeredPrices instanceTypes key).getLast? := by
  rw [offeredPrices, List.getLast?_map]
  exact Map.lookup_ofList (listings instanceTypes) key

/-- The last offering under every key costs what a first lookup of the key finds. -/
def LastAsFirst (instanceTypes : List (Option InstanceType)) : Prop :=
  ∀ key last, (offeredPrices instanceTypes key).getLast? = some last →
    (findOfferingPrice instanceTypes key).getD 0 = last

/-- A NodePool that can be read, with these instance types. -/
def reads (instanceTypes : List (Option InstanceType)) : Answers := ⟨none, true, some instanceTypes⟩

section Refresh

variable (instanceTypes : List (Option InstanceType)) (npName : String) (key : OfferingKey) (cc : ClusterCost)

/-- The price that is stored for a tracked offering. -/
def ClusterCost.storedPrice : Option ℚ := ((cc.poolCost npName).offeringCounts.lookup key).map (·.price)

/-- The count under the key before another NodeClaim comes, with the price of a first one if there is none. -/
def NodePoolCost.countBefore (npc : NodePoolCost) : OfferingCount :=
  (npc.offeringCounts.lookup key).getD ⟨0, (findOfferingPrice instanceTypes key).getD 0⟩

theorem poolCost_internalAddOffering : (cc.internalAddOffering (reads instanceTypes) npName key).2.poolCost npName =
      (cc.poolCost npName).addOffering key ((cc.poolCost npName).countBefore instanceTypes key) := by
  rw [ClusterCost.internalAddOffering, NodePoolCost.countBefore]
  cases (cc.poolCost npName).offeringCounts.lookup key <;> exact (poolCost_put ..).trans (if_pos rfl)

theorem total_mapValues {κ μ ν : Type} [DecidableEq κ] (change : κ → ν → μ) (quantity : κ → μ → ℚ) (m : Map κ ν) :
    (m.mapValues change).total quantity = m.total fun key value => quantity key (change key value) := by
  rw [Map.total, Map.mapValues, List.map_map]
  rfl

/-- Adding a NodeClaim and refreshing the prices commute once the first price is that of the refresh. -/
theorem reprice_addOffering_cost {npc : NodePoolCost}
    (same : ∀ price, prices.lookup key = some price → (findOfferingPrice instanceTypes key).getD 0 = price) :
    ((npc.addOffering key (npc.countBefore instanceTypes key)).reprice prices).cost =
      ((npc.reprice prices).addOffering key ((npc.reprice prices).countBefore instanceTypes key)).cost := by
  simp only [NodePoolCost.addOffering, NodePoolCost.reprice, NodePoolCost.countBefore, total_mapValues, Map.total_insert,
    Map.lookup_mapValues]
  cases tracked : npc.offeringCounts.lookup key with
  | some oc =>
    simp only [Option.getD_some, Option.elim_some, Option.map_some]
    push_cast
    ring
  | none =>
    have price : (prices.lookup key).getD ((findOfferingPrice instanceTypes key).getD 0) =
        (findOfferingPrice instanceTypes key).getD 0 := by
      cases listed : prices.lookup key with
      | none => rfl
      | some price => exact (same price listed).symm
    simp only [Option.getD_none, Option.elim_none, Option.map_none, price]
    push_cast
    ring

/-- A refresh stores the price that a first NodeClaim would be tracked with, for every key that is offered. -/
def RefreshedAsFirst : Prop :=
  ∀ (tracking fresh : ClusterCost) (npName : String) (key : OfferingKey), offeredPrices instanceTypes key ≠ [] →
    tracking.storedPrice npName key ≠ none → fresh.storedPrice npName key = none →
    (tracking.updateOfferings npName instanceTypes).storedPrice npName key =
      (fresh.internalAddOffering (reads instanceTypes) npName key).2.storedPrice npName key

/-- It does not matter for the cost whether a NodeClaim is added before or after a refresh. -/
def OrderIndependent : Prop :=
  ∀ (cc : ClusterCost) (npName : String) (key : OfferingKey),
    ((cc.internalAddOffering (reads instanceTypes) npName key).2.updateOfferings npName instanceTypes).getNodepoolCost
        npName =
      ((cc.updateOfferings npName instanceTypes).internalAddOffering (reads instanceTypes) npName key).2.getNodepoolCost
        npName

theorem storedPrice_updateOfferings (listed : (offeredPrices instanceTypes key).getLast? = some last)
    (tracked : cc.storedPrice npName key ≠ none) :
    (cc.updateOfferings npName instanceTypes).storedPrice npName key = some last := by
  rw [ClusterCost.storedPrice, ne_eq, Option.map_eq_none_iff] at tracked
  obtain ⟨oc, found⟩ := Option.ne_none_iff_exists'.mp tracked
  rw [ClusterCost.storedPrice, poolCost_updateOfferings, if_pos rfl, NodePoolCost.reprice, Map.lookup_mapValues, found,
    lookup_priceIndex, listed]
  rfl

theorem storedPrice_internalAddOffering (untracked : cc.storedPrice npName key = none) :
    (cc.internalAddOffering (reads instanceTypes) npName key).2.storedPrice npName key =
      some ((findOfferingPrice instanceTypes key).getD 0) := by
  rw [ClusterCost.storedPrice, Option.map_eq_none_iff] at untracked
  rw [ClusterCost.storedPrice, poolCost_internalAddOffering, NodePoolCost.countBefore, untracked,
    NodePoolCost.addOffering, Map.lookup_insert_eq, if_pos rfl]
  rfl

end Refresh

theorem refresh_agrees_iff_last_as_first (instanceTypes : List (Option InstanceType)) :
    RefreshedAsFirst instanceTypes ∧ OrderIndependent instanceTypes ↔ LastAsFirst instanceTypes := by
  constructor
  · rintro ⟨refreshed, _⟩ key last listed
    let tracking : ClusterCost := ClusterCost.new.put "" (NodePoolCost.addOffering {} key ⟨0, 0⟩)
    have tracked : tracking.storedPrice "" key ≠ none := by
      rw [ClusterCost.storedPrice, poolCost_put, if_pos rfl, NodePoolCost.addOffering, Map.lookup_insert_eq, if_pos rfl]
      exact Option.some_ne_none _
    have offered : offeredPrices instanceTypes key ≠ [] := by
      rintro none
      rw [none] at listed
      cases listed
    have same := refreshed tracking ClusterCost.new "" key offered tracked rfl
    rw [storedPrice_updateOfferings _ _ _ _ listed tracked, storedPrice_internalAddOffering _ _ _ _ rfl] at same
    exact (Option.some.inj same).symm
  · intro same
    refine ⟨fun tracking fresh npName key offered tracked untracked => ?_, fun cc npName key => ?_⟩
    · have listed := List.getLast?_eq_some_getLast offered
      rw [storedPrice_updateOfferings _ _ _ _ listed tracked, storedPrice_internalAddOffering _ _ _ _ untracked,
        same key _ listed]
    · rw [getNodepoolCost_eq, getNodepoolCost_eq, poolCost_updateOfferings, if_pos rfl, poolCost_internalAddOffering,
        poolCost_internalAddOffering, poolCost_updateOfferings, if_pos rfl]
      apply reprice_addOffering_cost
      intro price listed
      exact same key price ((lookup_priceIndex instanceTypes key).symm.trans listed)

def twoReservations : List (Option InstanceType) :=
  [some { name := "large", offerings := [⟨"zone", "reserved", 0⟩, ⟨"zone", "reserved", 1⟩] }]

/-- With two offerings under one key, the first lookup takes the first price and a refresh the last one. -/
theorem refresh_reprices_reservation : let key : OfferingKey := ⟨"zone", "reserved", "large"⟩
    let added := (ClusterCost.new.internalAddOffering (reads twoReservations) "pool" key).2
    added.storedPrice "pool" key = some 0 ∧ added.getNodepoolCost "pool" = 0 ∧
      (added.updateOfferings "pool" twoReservations).storedPrice "pool" key = some 1 ∧
      (added.updateOfferings "pool" twoReservations).getNodepoolCost "pool" = 1 := by
  decide +kernel

end Karpenter.Cost
