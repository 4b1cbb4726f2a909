import Karpenter.DynamicResources.Pool

/-! Shared counters. The maps of the source are read through `getCounter`, and what a search charges to them has a
law that says what it does to one counter. Quantities are exact, so adding and subtracting never rounds;
only the comparisons made during a search read integer values. -/
namespace Karpenter.DynamicResources

open Go (Map)
open Resources
open CloudProvider (Device CounterSets)

/-- Pool to counter set to counter to quantity. -/
abbrev PoolCounters := Map PoolKey CounterSets

def getCounter (m : PoolCounters) (pool : PoolKey) (set name : String) : Option Quantity :=
  (m.lookup pool).bind (quantity? · set name)

def counterAmount (m : PoolCounters) (pool : PoolKey) (set name : String) : Quantity :=
  (getCounter m pool set name).getD 0

theorem counterAmount_eq (m : PoolCounters) (pool : PoolKey) (set name : String) :
    counterAmount m pool set name = (m.lookup pool).elim 0 (amountAt · set name) := by
  unfold counterAmount getCounter amountAt
  cases m.lookup pool <;> rfl

/-- Merges newly committed consumption into the stored one. -/
def accumulatePools (dst src : PoolCounters) : PoolCounters :=
  dst.mergeAll (fun old sets => old.elim sets (accumulateKeyed · sets)) src

def maxPools (dst src : PoolCounters) : PoolCounters :=
  dst.mergeAll (fun old sets => maxKeyed (old.getD ∅) sets) src

def pessimisticCounterMax (counterConsumptionByIT : Map InstanceTypeID PoolCounters) : PoolCounters :=
  counterConsumptionByIT.entries.foldl (fun counterMaxByPool entry => maxPools counterMaxByPool entry.2) ∅

/-- The loops over pools, counter sets and counters that rewrite the remaining budget. A pool or counter
set without a budget is skipped. -/
def rewriteRemaining
    (rewrite : PoolKey → String → String → Option Quantity → Quantity → Option Quantity)
    (remaining source : PoolCounters) : PoolCounters :=
  remaining.mergeWith (fun poolKey old counterSets => old.map fun poolRemaining =>
    poolRemaining.mergeWith (fun counterSetName old counters => old.map fun counterSetRemaining =>
      counterSetRemaining.mergeWith (rewrite poolKey counterSetName) counters) counterSets) source

def subtractDeltaFromRemaining (remaining oldCounterMax newCounterMax : PoolCounters) : PoolCounters :=
  rewriteRemaining (fun poolKey counterSetName counterName old newCounter =>
    let delta := newCounter - (getCounter oldCounterMax poolKey counterSetName counterName).getD 0
    if 0 < delta then old.map (· - delta) else old) remaining newCounterMax

/-- Unlike the subtraction, the addition writes a counter the remaining set does not have. -/
def addDeltaToRemaining (remaining oldCounterMax newCounterMax : PoolCounters) : PoolCounters :=
  rewriteRemaining (fun poolKey counterSetName counterName old oldCounter =>
    let delta := oldCounter - (getCounter newCounterMax poolKey counterSetName counterName).getD 0
    if 0 < delta then some (old.getD 0 + delta) else old) remaining oldCounterMax

/-- Adds what a device consumes to the tentative consumption of a search. -/
def deductAllocatingCounters (counterMap : PoolCounters) (device : Device) (poolKey : PoolKey) :
    PoolCounters :=
  if device.consumesCounters.entries.isEmpty then counterMap
  else counterMap.insert poolKey
    (addKeyed ((counterMap.lookup poolKey).getD ∅) device.consumesCounters)

def restoreAllocatingCounters (counterMap : PoolCounters) (device : Device) (poolKey : PoolKey) :
    PoolCounters :=
  if device.consumesCounters.entries.isEmpty then counterMap
  else match counterMap.lookup poolKey with
    | none => counterMap
    | some allocatingCounterSets =>
      counterMap.insert poolKey (deductKeyed allocatingCounterSets device.consumesCounters)

def deductFromCounters (remainingCounterSets : CounterSets) (device : Device) : CounterSets :=
  deductKeyed remainingCounterSets device.consumesCounters

/-- What a device takes from one counter of a pool. -/
def consumes (d : DeviceWithID) (pool : PoolKey) (set name : String) : Quantity :=
  if d.id.poolKey = pool then amountAt d.device.consumesCounters set name else 0

theorem amountAt_eq_zero_of_isEmpty (empty : m.entries.isEmpty = true) (set name : String) : amountAt m set name = 0 := by
  simp [amountAt_eq, Map.lookup_of_isEmpty empty]

theorem counterAmount_deductAllocatingCounters (counterMap : PoolCounters) (d : DeviceWithID)
    (pool : PoolKey) (set name : String) :
    counterAmount (deductAllocatingCounters counterMap d.device d.id.poolKey) pool set name =
      counterAmount counterMap pool set name + consumes d pool set name := by
  unfold deductAllocatingCounters consumes
  split
  · rename_i empty
    simp [amountAt_eq_zero_of_isEmpty empty]
  · simp only [counterAmount_eq, Map.lookup_insert_eq, eq_comm (a := pool)]
    split
    · rename_i same
      subst same
      rw [Option.elim_some, amountAt_addKeyed]
      cases counterMap.lookup d.id.poolKey <;> simp
    · rw [add_zero]

/-- A counter that is not entered after a charge was neither entered before nor charged. -/
theorem getCounter_deductAllocatingCounters_eq_none {counterMap : PoolCounters} {d : DeviceWithID}
    {pool : PoolKey} {set name : String}
    (absent : getCounter (deductAllocatingCounters counterMap d.device d.id.poolKey) pool set name = none) :
    getCounter counterMap pool set name = none ∧ consumes d pool set name = 0 := by
  unfold deductAllocatingCounters at absent
  unfold consumes
  split at absent
  · rename_i empty
    exact ⟨absent, by simp [amountAt_eq_zero_of_isEmpty empty]⟩
  · rw [getCounter, Map.lookup_insert_eq] at absent
    by_cases same : d.id.poolKey = pool
    · subst same
      rw [if_pos rfl, Option.bind_some, quantity?_addKeyed_eq_none] at absent
      obtain ⟨before, unconsumed⟩ := absent
      refine ⟨?_, by rw [if_pos rfl, amountAt, unconsumed, Option.getD_none]⟩
      rw [getCounter]
      cases found : counterMap.lookup d.id.poolKey with
      | none => rfl
      | some sets => rwa [found, Option.getD_some] at before
    · rw [if_neg (Ne.symm same)] at absent
      exact ⟨absent, if_neg same⟩

theorem getCounter_restoreAllocatingCounters (counterMap : PoolCounters) (d : DeviceWithID)
    (pool : PoolKey) (set name : String) :
    getCounter (restoreAllocatingCounters counterMap d.device d.id.poolKey) pool set name =
      (getCounter counterMap pool set name).map (· - consumes d pool set name) := by
  unfold restoreAllocatingCounters consumes
  split
  · rename_i empty
    simp [amountAt_eq_zero_of_isEmpty empty]
  · by_cases same : d.id.poolKey = pool
    · subst same
      cases found : counterMap.lookup d.id.poolKey <;>
        simp [getCounter, found, quantity?_deductKeyed]
    · cases found : counterMap.lookup d.id.poolKey <;>
        simp [getCounter, same, AList.lookup_insert_ne (Ne.symm same)]

end Karpenter.DynamicResources
