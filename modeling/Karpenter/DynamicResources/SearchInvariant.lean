import Karpenter.DynamicResources.Allocator

/-! Readings of a search: the devices that it may try, and what its checks say about counters and capacity. -/
namespace Karpenter.DynamicResources

open Go (Map)
open Resources
open CloudProvider (Device CounterSets)

/-- A device a search over these pools may try. -/
def Candidate (home : List Pool) (dw : DeviceWithID) : Prop := dw.id.template = true ∨ dw ∈ offered home

theorem checkCounters_spec {allocating : CounterSets} {device : Device} {remaining : Option CounterSets}
    {set : String} (passed : checkCounters allocating device remaining = true)
    (consumed : quantity? device.consumesCounters set name = some q) :
    ∃ left, remaining.bind (quantity? · set name) = some left ∧
      value q ≤ value left - value (amountAt allocating set name) := by
  obtain ⟨counters, inDevice, inCounters⟩ := Option.bind_eq_some_iff.mp consumed
  have setEntry := Map.mem_entries_iff.mpr inDevice
  have counterEntry := Map.mem_entries_iff.mpr inCounters
  unfold checkCounters at passed
  split at passed
  · rename_i empty
    rw [List.isEmpty_iff.mp empty] at setEntry
    cases setEntry
  · split at passed
    · cases passed
    · rename_i remaining
      have atSet := List.all_eq_true.mp passed _ setEntry
      split at atSet
      · cases atSet
      · rename_i counterSetRemaining foundSet
        have atCounter := List.all_eq_true.mp atSet _ counterEntry
        split at atCounter
        · cases atCounter
        · rename_i left foundCounter
          refine ⟨left, ?_, ?_⟩
          · simp [quantity?, foundSet, foundCounter]
          · simpa using atCounter

theorem amountAt_getD_lookup (counters : PoolCounters) (pool : PoolKey) (set name : String) :
    amountAt ((counters.lookup pool).getD ∅) set name = counterAmount counters pool set name := by
  rw [counterAmount_eq]
  cases counters.lookup pool <;> rfl

theorem whole_sum {quantities : List Quantity} (whole : ∀ q ∈ quantities, Whole q) : Whole quantities.sum := by
  induction quantities with
  | nil => exact Whole.zero
  | cons first rest ih =>
    rw [List.sum_cons]
    exact (whole first List.mem_cons_self).add
      (ih fun q member => whole q (List.mem_cons_of_mem _ member))

theorem Search.amountAt_openCapacity (capacities : DeviceCapacities) (dw : DeviceWithID) (id : DeviceID)
    (name : String) : amountAt (Search.openCapacity capacities dw) id name = amountAt capacities id name := by
  unfold Search.openCapacity
  split
  · rename_i opened
    rw [amountAt_insert]
    split
    · rename_i same
      have absent : capacities.lookup dw.id = none := by
        simpa using (Bool.and_eq_true_iff.mp opened).2
      rw [same, amountAt_eq, absent]
      rfl
    · rfl
  · rfl

theorem Search.metadata_widen (a : Search) (dw : DeviceWithID) :
    (a.widen dw).allocatedDevicesMetadata = a.allocatedDevicesMetadata := by
  unfold Search.widen
  split <;> rfl

theorem ClaimRequest.mem_alternatives_of_resolve {req : ClaimRequest}
    (resolved : req.resolve subReqIdx = some rd) : rd ∈ req.alternatives := by
  cases req with
  | exactly request =>
    cases subReqIdx with
    | none =>
      cases resolved
      exact List.mem_singleton.mpr rfl
    | some index => cases resolved
  | firstAvailable name first others =>
    cases subReqIdx with
    | none => cases resolved
    | some index => exact List.mem_of_getElem? resolved

end Karpenter.DynamicResources
