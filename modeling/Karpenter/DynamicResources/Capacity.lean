import Karpenter.DynamicResources.Pool

/-! Consumable capacity of multi-allocatable devices: what one allocation consumes under the device's
request policy, and the maps that accumulate it. Integer readings are 64-bit, so rounding a request up to
the next step can wrap around. -/
namespace Karpenter.DynamicResources

open Go (Map wrap)
open Resources
open CloudProvider (DeviceCapacity CapacityRequestPolicy CapacityRequestPolicyRange)

/-- Device to capacity dimension to quantity. -/
abbrev DeviceCapacities := Keyed DeviceID

def fillEmptyRequest (capacity : DeviceCapacity) : Quantity :=
  match capacity.requestPolicy with
  | some { default := some quantity, .. } => quantity
  | _ => capacity.value

/-- The next value of the form `min + n * step` that is at least the request. -/
def roundUpRange (requestedVal min : Quantity) (step : Option Quantity) : Quantity :=
  if requestedVal < min then min
  else match step with
    | none => requestedVal
    | some step =>
      let added := wrap (value requestedVal - value min)
      let whole := added.tdiv (value step)
      let n := if added.tmod (value step) ≠ 0 then whole + 1 else whole
      (wrap (value min + wrap (value step * n)) : Int)

def roundUpValidValues (requestedVal : Quantity) (validValues : List Quantity) : Quantity :=
  (validValues.find? fun validValue => requestedVal ≤ validValue).getD requestedVal

def calculateConsumedCapacity (requestedVal : Option Quantity) (capacity : DeviceCapacity) : Quantity :=
  match requestedVal with
  | none => fillEmptyRequest capacity
  | some requestedVal =>
    match capacity.requestPolicy with
    | none => requestedVal
    | some policy =>
      match policy.validRange with
      | some { min := some min, step, .. } => roundUpRange requestedVal min step
      | _ => roundUpValidValues requestedVal policy.validValues

def violateValidRange (val : Quantity) (validRange : CapacityRequestPolicyRange) : Bool :=
  (match validRange.max with
    | some max => decide (max < val)
    | none => false) ||
  (match validRange.step, validRange.min with
    | some step, some min => decide ((wrap (value val - value min)).tmod (value step) ≠ 0)
    | _, _ => false)

def violateValidValues (val : Quantity) (validValues : List Quantity) : Bool :=
  !validValues.any fun validValue => val = validValue

def violatesPolicy (consumedVal : Quantity) (policy : Option CapacityRequestPolicy) : Bool :=
  match policy with
  | none => false
  | some policy =>
    if policy.default = some consumedVal then false
    else match policy.validRange with
      | some validRange => violateValidRange consumedVal validRange
      | none =>
        if policy.validValues.isEmpty then false else violateValidValues consumedVal policy.validValues

def requestsContainNonExistCapacity (capacityRequests : ConsumedCapacity)
    (deviceCapacity : Map String DeviceCapacity) : Bool :=
  capacityRequests.entries.any fun request => (deviceCapacity.lookup request.1).isNone

/-- Nothing for a device without dimensions; otherwise one amount for every dimension. -/
def computeConsumedCapacity (capacityRequests : ConsumedCapacity)
    (deviceCapacity : Map String DeviceCapacity) : Except String (Option ConsumedCapacity) :=
  if deviceCapacity.entries.isEmpty then .ok none
  else
    match deviceCapacity.entries.find? fun entry =>
        violatesPolicy (calculateConsumedCapacity (capacityRequests.lookup entry.1) entry.2)
          entry.2.requestPolicy with
    | some entry => .error ("capacity request violates policy for dimension " ++ entry.1)
    | none => .ok (some (deviceCapacity.mapValues fun name capacity =>
        calculateConsumedCapacity (capacityRequests.lookup name) capacity))

/-- What an allocation consumes in one dimension, with nothing for a device without dimensions. -/
def consumedAmount (consumed : Option ConsumedCapacity) (name : String) : Quantity :=
  consumed.elim 0 (amount · name)

def deductAllocatingCapacity (capacities : DeviceCapacities) (consumed : Option ConsumedCapacity)
    (deviceID : DeviceID) : DeviceCapacities :=
  match consumed with
  | none => capacities
  | some consumed =>
    if consumed.entries.isEmpty then capacities
    else capacities.insert deviceID (addQuantities ((capacities.lookup deviceID).getD ∅) consumed)

def restoreAllocatingCapacity (capacities : DeviceCapacities) (consumed : Option ConsumedCapacity)
    (deviceID : DeviceID) : DeviceCapacities :=
  match consumed with
  | none => capacities
  | some consumed =>
    if consumed.entries.isEmpty then capacities
    else capacities.insert deviceID (subQuantities ((capacities.lookup deviceID).getD ∅) consumed)

theorem amount_eq_zero_of_isEmpty {m : Quantities} (empty : m.entries.isEmpty = true) (name : String) :
    amount m name = 0 := by
  simp [amount, Map.lookup_of_isEmpty empty]

theorem amount_getD_lookup (capacities : DeviceCapacities) (deviceID : DeviceID) (name : String) :
    amount ((capacities.lookup deviceID).getD ∅) name = amountAt capacities deviceID name := by
  rw [amountAt_eq]
  cases capacities.lookup deviceID <;> rfl

theorem amountAt_deductAllocatingCapacity (capacities : DeviceCapacities)
    (consumed : Option ConsumedCapacity) (deviceID other : DeviceID) (name : String) :
    amountAt (deductAllocatingCapacity capacities consumed deviceID) other name =
      amountAt capacities other name + if other = deviceID then consumedAmount consumed name else 0 := by
  unfold deductAllocatingCapacity consumedAmount
  cases consumed with
  | none => simp
  | some consumed =>
    by_cases empty : consumed.entries.isEmpty = true
    · simp [empty, amount_eq_zero_of_isEmpty empty]
    · dsimp only
      rw [if_neg empty, amountAt_insert]
      split
      · rename_i same
        rw [amount_addQuantities, amount_getD_lookup, same, Option.elim_some]
      · rw [add_zero]

theorem amountAt_restoreAllocatingCapacity (capacities : DeviceCapacities)
    (consumed : Option ConsumedCapacity) (deviceID other : DeviceID) (name : String) :
    amountAt (restoreAllocatingCapacity capacities consumed deviceID) other name =
      amountAt capacities other name - if other = deviceID then consumedAmount consumed name else 0 := by
  unfold restoreAllocatingCapacity consumedAmount
  cases consumed with
  | none => simp
  | some consumed =>
    by_cases empty : consumed.entries.isEmpty = true
    · simp [empty, amount_eq_zero_of_isEmpty empty]
    · dsimp only
      rw [if_neg empty, amountAt_insert]
      split
      · rename_i same
        rw [amount_subQuantities, amount_getD_lookup, same, Option.elim_some]
      · rw [sub_zero]

def pessimisticCapacityMax (capacityByIT : Map InstanceTypeID DeviceCapacities) : DeviceCapacities :=
  capacityByIT.entries.foldl (fun maxByDevice entry => maxKeyed maxByDevice entry.2) ∅

/-- Adds what the maximum grew by; a device gets an entry with its first positive difference. -/
def addCapacityDelta (inflight oldMax newMax : DeviceCapacities) : DeviceCapacities :=
  inflight.mergeWith (fun deviceID old newConsumedByDevice =>
    let updated := (old.getD ∅).mergeWith (fun name existing newQty =>
      let delta := newQty - (quantity? oldMax deviceID name).getD 0
      if 0 < delta then some (existing.getD 0 + delta) else existing) newConsumedByDevice
    if old.isNone && updated.entries.isEmpty then none else some updated) newMax

/-- Subtracts what the maximum shrank by and drops entries that reach zero. -/
def subtractCapacityDelta (inflight oldMax newMax : DeviceCapacities) : DeviceCapacities :=
  inflight.mergeWith (fun deviceID old oldConsumedByDevice => old.bind fun consumed =>
    let updated := consumed.mergeWith (fun name existing oldQty =>
      let delta := oldQty - (quantity? newMax deviceID name).getD 0
      if 0 < delta then
        let rest := existing.getD 0 - delta
        if rest ≤ 0 then none else some rest
      else existing) oldConsumedByDevice
    if updated.entries.isEmpty then none else some updated) oldMax

end Karpenter.DynamicResources
