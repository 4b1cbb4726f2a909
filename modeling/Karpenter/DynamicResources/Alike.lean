import Karpenter.DynamicResources.Feasibility
import Karpenter.DynamicResources.SelectorCache

/-! States that the search cannot tell apart. A failed branch leaves zero entries in the tentative charges,
selector results that were not there before and shared devices missing from the set of allocated ones; none of
this is seen by a later check, as long as an identifier names one device. The counter sets of the pools are
left open, since only the test for exhausted pools reads them. -/
namespace Karpenter.DynamicResources

open Go (Map)
open Resources
open Scheduling (Requirements)
open CloudProvider (Device CounterSets)

variable {ctx : SearchContext} {dw : DeviceWithID}

section Availability

variable {a b c : Search}

/-- An available device is exclusive and free, or shared with room for what it is charged. -/
theorem availability_cases (accepted : availability ctx a rd dw = some consumed) :
    (dw.device.allowMultipleAllocations = false ∧ consumed = none ∧ dw.id ∉ a.allocatedDevices ∧
      ctx.tracker.isAllocated dw.id ctx.nodeClaim.id ctx.itID = false) ∨ (dw.device.allowMultipleAllocations = true ∧
      computeConsumedCapacity rd.capacityRequests dw.device.capacity = .ok consumed ∧
      ∀ charges, consumed = some charges → ∀ name q, charges.lookup name = some q →
        usedCapacity ctx a dw.id name + q ≤ (dw.device.capacity.lookup name).elim 0 (·.value)) := by
  rw [availability] at accepted
  split at accepted
  · rename_i shared
    refine .inr ⟨shared, ?_⟩
    rw [checkCapacity] at accepted
    split at accepted
    · rename_i exclusive
      rw [shared] at exclusive
      cases exclusive
    · split at accepted
      · cases accepted
      · split at accepted
        · cases accepted
        · rename_i computed
          cases accepted
          exact ⟨computed, fun charges none_ => by cases none_⟩
        · rename_i computed
          split at accepted
          · rename_i fits
            cases accepted
            refine ⟨computed, ?_⟩
            rintro charges ⟨⟩ name q charged
            have fit := List.all_eq_true.mp fits ⟨name, q⟩ (Map.mem_entries_iff.mpr charged)
            exact decide_eq_true_iff.mp fit
          · cases accepted
  · rename_i exclusive
    split at accepted
    · cases accepted
    · rename_i free
      split at accepted
      · cases accepted
      · rename_i unheld
        cases accepted
        exact .inl ⟨Bool.eq_false_iff.mpr exclusive, rfl, unheld, Bool.eq_false_iff.mpr free⟩

theorem availability_exclusive (accepted : availability ctx a rd dw = some consumed)
    (exclusive : dw.device.allowMultipleAllocations = false) : consumed = none ∧ dw.id ∉ a.allocatedDevices ∧
      ctx.tracker.isAllocated dw.id ctx.nodeClaim.id ctx.itID = false := by
  rcases availability_cases accepted with ⟨-, free⟩ | ⟨shared, -⟩
  · exact free
  · rw [exclusive] at shared
    cases shared

/-- Coming back from a device leaves a device as it was: what it names itself was free before. -/
theorem held_backtrack (records : Records ctx pos rd dw a consumed b) {id : DeviceID}
    (exclusive : id = dw.id → dw.device.allowMultipleAllocations = false)
    (same : id ∈ c.allocatedDevices ↔ id ∈ b.allocatedDevices) :
    id ∈ (c.backtrack pos rd dw consumed).allocatedDevices ↔ id ∈ a.allocatedDevices := by
  rw [allocatedDevices_backtrack, Finset.mem_erase, same, allocatedDevices_of_records records, Finset.mem_insert]
  by_cases named : id = dw.id
  · subst named
    simp [(availability_exclusive records.accepted (exclusive rfl)).2.1]
  · simp [named]

end Availability

/-- The pool without its counter sets. It is never found to be exhausted. -/
def Pool.unmetered (pool : Pool) : Pool := { pool with counterSets := ∅ }

theorem filterPools_unmetered (wellKnown : Finset String) (pools : List Pool) (requirements : Requirements)
    (nodeName : String) (superposed : Bool) :
    filterPools wellKnown (pools.map Pool.unmetered) requirements nodeName superposed =
      (filterPools wellKnown pools requirements nodeName superposed).map Pool.unmetered := by
  have each (pool : Pool) : filterPool wellKnown pool.unmetered requirements nodeName superposed =
      (filterPool wellKnown pool requirements nodeName superposed).map Pool.unmetered := by
    rw [filterPool, filterPool]
    rw [apply_ite (Option.map Pool.unmetered)]
    rfl
  rw [filterPools, filterPools, List.filterMap_map, List.map_filterMap]
  exact List.filterMap_congr fun pool _ => each pool

/-- An identifier names one device. -/
def SearchContext.Identified (ctx : SearchContext) (home : List Pool) : Prop :=
  ∀ d e, ctx.Offers home d → ctx.Offers home e → d.id = e.id → d.device = e.device

structure Alike (ctx : SearchContext) (home : List Pool) (a b : Search) : Prop where
  verdicts : ∀ pos rd dw, ctx.requestAt pos = some rd → ctx.Offers home dw →
    (matchesRequest ctx pos rd dw b).1 = (matchesRequest ctx pos rd dw a).1
  held : ∀ dw, ctx.Offers home dw → dw.device.allowMultipleAllocations = false →
    (dw.id ∈ b.allocatedDevices ↔ dw.id ∈ a.allocatedDevices)
  metadata : b.allocatedDevicesMetadata = a.allocatedDevicesMetadata
  counters : ∀ template pool set name,
    counterAmount (b.charged template) pool set name = counterAmount (a.charged template) pool set name
  capacities : SameCapacities a.allocatingCapacity b.allocatingCapacity
  templateCapacities : SameCapacities a.templateAllocatingCapacity b.templateAllocatingCapacity
  requirements : b.requirements = a.requirements
  pools : b.pools.map Pool.unmetered = a.pools.map Pool.unmetered
  constraints : b.constraints = a.constraints

section Relation

variable {a b c : Search}

theorem Alike.refl (a : Search) : Alike ctx home a a :=
  ⟨fun _ _ _ _ _ => rfl, fun _ _ _ => Iff.rfl, rfl, fun _ _ _ _ => rfl, fun _ _ => rfl, fun _ _ => rfl, rfl,
    rfl, rfl⟩

theorem Alike.symm (same : Alike ctx home a b) : Alike ctx home b a where
  verdicts := fun pos rd dw request offers => (same.verdicts pos rd dw request offers).symm
  held := fun dw offers exclusive => (same.held dw offers exclusive).symm
  metadata := same.metadata.symm
  counters := fun template pool set name => (same.counters template pool set name).symm
  capacities := fun id name => (same.capacities id name).symm
  templateCapacities := fun id name => (same.templateCapacities id name).symm
  requirements := same.requirements.symm
  pools := same.pools.symm
  constraints := same.constraints.symm

theorem Alike.trans (first : Alike ctx home a b) (second : Alike ctx home b c) : Alike ctx home a c where
  verdicts := fun pos rd dw request offers =>
    (second.verdicts pos rd dw request offers).trans (first.verdicts pos rd dw request offers)
  held := fun dw offers exclusive => (second.held dw offers exclusive).trans (first.held dw offers exclusive)
  metadata := second.metadata.trans first.metadata
  counters := fun template pool set name =>
    (second.counters template pool set name).trans (first.counters template pool set name)
  capacities := fun id name => (second.capacities id name).trans (first.capacities id name)
  templateCapacities := fun id name => (second.templateCapacities id name).trans (first.templateCapacities id name)
  requirements := second.requirements.trans first.requirements
  pools := second.pools.trans first.pools
  constraints := second.constraints.trans first.constraints

/-- The result for a device depends on the remembered results alone. -/
theorem matchesRequest_congr (same : b.deviceMatchesRequest = a.deviceMatchesRequest) :
    (matchesRequest ctx pos rd dw b).1 = (matchesRequest ctx pos rd dw a).1 := by
  rw [matchesRequest, matchesRequest, same]
  split
  · rfl
  · split <;> rfl

/-- What a failed branch undoes leaves a state like the one before, given the rest. -/
theorem Undone.alike (undone : Undone a b) (verdicts : ∀ pos rd dw, ctx.requestAt pos = some rd → ctx.Offers home dw →
      (matchesRequest ctx pos rd dw b).1 = (matchesRequest ctx pos rd dw a).1)
    (held : ∀ dw, ctx.Offers home dw → dw.device.allowMultipleAllocations = false →
      (dw.id ∈ b.allocatedDevices ↔ dw.id ∈ a.allocatedDevices)) : Alike ctx home a b where
  verdicts := verdicts
  held := held
  metadata := undone.toRestores.metadata
  counters := counterAmount_charged_of_undone undone
  capacities := undone.capacities
  templateCapacities := undone.templateCapacities
  requirements := undone.toRestores.requirements
  pools := congrArg _ undone.toRestores.pools
  constraints := undone.constraints

end Relation

section Verdicts

variable {a b : Search}

theorem lookup_matchesRequest_of_stored (stored : a.deviceMatchesRequest.lookup key = some verdict) :
    (matchesRequest ctx pos rd dw a).2.deviceMatchesRequest.lookup key = some verdict := by
  rw [matchesRequest]
  split
  · exact stored
  · rename_i absent
    split
    · exact stored
    · dsimp only
      rw [Map.lookup_insert_eq, if_neg, stored]
      rintro rfl
      rw [stored] at absent
      cases absent

theorem matchesRequest_of_evaluated (absent : a.deviceMatchesRequest.lookup (matchKey pos dw) = none)
    (evaluated : deviceMatchesSelectors ctx.env dw.device dw.id rd.selectors = .ok verdict) :
    (matchesRequest ctx pos rd dw a).1 = verdict := by
  rw [matchKey] at absent
  rw [matchesRequest, absent]
  rw [evaluated]

/-- Consulting the selectors for one device changes no result for another. -/
theorem verdicts_matchesRequest (identified : ctx.Identified home) (request : ctx.requestAt pos = some rd)
    (offers : ctx.Offers home dw) (request' : ctx.requestAt pos' = some rd') (offers' : ctx.Offers home dw') :
    (matchesRequest ctx pos' rd' dw' (matchesRequest ctx pos rd dw a).2).1 = (matchesRequest ctx pos' rd' dw' a).1 := by
  cases before : a.deviceMatchesRequest.lookup (matchKey pos' dw') with
  | some verdict =>
    rw [matchesRequest_of_stored before, matchesRequest_of_stored (lookup_matchesRequest_of_stored before)]
  | none =>
    cases after : (matchesRequest ctx pos rd dw a).2.deviceMatchesRequest.lookup (matchKey pos' dw') with
    | none =>
      rw [Bool.eq_iff_iff, matchesRequest_of_absent before, matchesRequest_of_absent after]
    | some verdict =>
      rw [matchesRequest_of_stored after]
      rcases lookup_matchesRequest after with stored | ⟨sameKey, -, evaluated⟩
      · rw [before] at stored
        cases stored
      · rw [matchKey, matchKey, MatchKey.mk.injEq] at sameKey
        obtain ⟨sameID, sameClaim, sameRequest, sameSub⟩ := sameKey
        have sameData : rd' = rd := by
          rw [SearchContext.requestAt, sameClaim, sameRequest, sameSub] at request'
          exact Option.some.inj (request'.symm.trans request)
        refine (matchesRequest_of_evaluated before ?_).symm
        rw [sameData, sameID, identified dw' dw offers' offers sameID]
        exact evaluated

theorem deviceMatchesRequest_of_rejects (rejects : Rejects ctx pos rd dw a b) :
    b.deviceMatchesRequest = a.deviceMatchesRequest ∨
      b.deviceMatchesRequest = (matchesRequest ctx pos rd dw a).2.deviceMatchesRequest := by
  cases rejects with
  | unavailable => exact .inl rfl
  | counters => exact .inl rfl
  | selectors => exact .inr rfl
  | constraints => exact .inr rfl
  | topology => exact .inr rfl

end Verdicts

/-- Whether the topology of a device can be taken on. -/
def SearchContext.accepts (ctx : SearchContext) (requirements : Requirements) (dw : DeviceWithID) : Bool :=
  dw.topologyRequirements.elim true fun reqs =>
    requirements.isCompatible reqs (compatibilityOptions ctx.env.wellKnownLabels ctx.nodeClaim.superposed)

section Checks

variable {a b a' b' : Search}

theorem isSome_narrow (a : Search) : (a.narrow ctx dw).isSome = ctx.accepts a.requirements dw := by
  rw [Search.narrow, SearchContext.accepts]
  cases dw.topologyRequirements with
  | none => rfl
  | some reqs =>
    dsimp only
    split
    · rename_i compatible
      exact compatible.symm
    · rename_i incompatible
      exact (Bool.eq_false_iff.mpr incompatible).symm

/-- The checks that a device has to pass, apart from the requirements on its own state. -/
theorem exists_records_iff : (∃ b, Records ctx pos rd dw a consumed b) ↔
    Consulted ctx rd dw a consumed ∧ (matchesRequest ctx pos rd dw a).1 = true ∧
      (addConstraints rd.name dw.device dw.id (a.constraints.getD pos.claimIdx [])).1 = true ∧
      ctx.accepts a.requirements dw = true := by
  obtain ⟨cache, cached⟩ := exists_cache ctx pos rd dw a
  have narrows : ((a.constrained ctx pos rd dw).narrow ctx dw).isSome = ctx.accepts a.requirements dw := by
    rw [isSome_narrow, Search.constrained, cached]
    rfl
  constructor
  · rintro ⟨b, records⟩
    refine ⟨records.toConsulted, records.matched, satisfied_of_records records, ?_⟩
    obtain ⟨narrowed, found, -⟩ := records.recorded
    rw [← narrows, found]
    rfl
  · rintro ⟨consulted, matched, satisfied, accepted⟩
    rw [← narrows] at accepted
    obtain ⟨narrowed, found⟩ := Option.isSome_iff_exists.mp accepted
    refine ⟨_, consulted, matched, ?_, narrowed, found, rfl⟩
    rw [cached]
    exact satisfied

/-- What recording a device does to the requirements and the pools. -/
theorem topology_of_records (records : Records ctx pos rd dw a consumed b) :
    b.requirements = dw.topologyRequirements.elim a.requirements (fun reqs => a.requirements.add reqs.values) ∧
      b.pools = dw.topologyRequirements.elim a.pools (fun _ => filterPools ctx.env.wellKnownLabels a.pools
        b.requirements ctx.nodeClaim.nodeName ctx.nodeClaim.superposed) := by
  obtain ⟨cache, cached⟩ := exists_cache ctx pos rd dw a
  obtain ⟨narrowed, found, rfl⟩ := records.recorded
  obtain ⟨sameReqs, samePools, -, -⟩ := record_spec narrowed pos rd dw consumed
  rw [sameReqs, samePools]
  rw [Search.constrained, cached, Search.narrow] at found
  cases topology : dw.topologyRequirements with
  | none =>
    rw [topology] at found
    cases found
    exact ⟨rfl, rfl⟩
  | some reqs =>
    rw [topology] at found
    dsimp only at found
    split at found
    · cases found
      exact ⟨rfl, rfl⟩
    · cases found

namespace Alike

theorem availability (same : Alike ctx home a a') (offers : ctx.Offers home dw) :
    availability ctx a' rd dw = availability ctx a rd dw := by
  rw [DynamicResources.availability, DynamicResources.availability]
  cases shared : dw.device.allowMultipleAllocations with
  | true =>
    have used (name : String) : usedCapacity ctx a' dw.id name = usedCapacity ctx a dw.id name := by
      rw [usedCapacity, usedCapacity, same.capacities, same.templateCapacities]
    rw [if_pos rfl, if_pos rfl, checkCapacity, checkCapacity]
    simp only [used]
  | false =>
    rw [if_neg Bool.false_ne_true, if_neg Bool.false_ne_true]
    simp only [same.held dw offers shared]

theorem checkCounters (same : Alike ctx home a a') (template : Bool) (pool : PoolKey) (device : Device)
    (remaining : Option CounterSets) : checkCounters (((a'.charged template).lookup pool).getD ∅) device remaining =
      checkCounters (((a.charged template).lookup pool).getD ∅) device remaining := by
  have amounts (set name : String) : amountAt (((a'.charged template).lookup pool).getD ∅) set name =
      amountAt (((a.charged template).lookup pool).getD ∅) set name := by
    rw [amountAt_getD_lookup, amountAt_getD_lookup, same.counters]
  simp only [DynamicResources.checkCounters, amounts]

theorem countersAvailable (same : Alike ctx home a a') : countersAvailable ctx a' dw = countersAvailable ctx a dw := by
  have keys : (a'.pools.any (·.key = dw.id.poolKey)) = a.pools.any (·.key = dw.id.poolKey) := by
    have mapped := congrArg (List.any · (·.key = dw.id.poolKey)) same.pools
    rwa [List.any_map, List.any_map] at mapped
  have published := same.checkCounters false dw.id.poolKey dw.device
  have template := same.checkCounters true dw.id.poolKey dw.device
  simp only [Search.charged, if_true, Bool.false_eq_true, if_false] at published template
  rw [DynamicResources.countersAvailable, DynamicResources.countersAvailable, keys, published, template]

theorem consulted (same : Alike ctx home a a') (offers : ctx.Offers home dw) :
    Consulted ctx rd dw a' consumed ↔ Consulted ctx rd dw a consumed := by
  constructor
  · rintro ⟨accepted, passed⟩
    exact ⟨(same.availability offers).symm.trans accepted, same.countersAvailable.symm.trans passed⟩
  · rintro ⟨accepted, passed⟩
    exact ⟨(same.availability offers).trans accepted, same.countersAvailable.trans passed⟩

/-- A device recorded on both sides leaves states that are alike. -/
theorem recorded (same : Alike ctx home a a') (identified : ctx.Identified home)
    (request : ctx.requestAt pos = some rd) (offers : ctx.Offers home dw)
    (records : Records ctx pos rd dw a consumed b) (records' : Records ctx pos rd dw a' consumed b') :
    Alike ctx home b b' := by
  have cached {x y : Search} (records : Records ctx pos rd dw x consumed y) {pos' rd' dw'}
      (request' : ctx.requestAt pos' = some rd') (offers' : ctx.Offers home dw') :
      (matchesRequest ctx pos' rd' dw' y).1 = (matchesRequest ctx pos' rd' dw' x).1 :=
    (matchesRequest_congr (deviceMatchesRequest_of_records records)).trans
      (verdicts_matchesRequest identified request offers request' offers')
  obtain ⟨-, -, capacities, templateCapacities⟩ := charges_of_records records
  obtain ⟨-, -, capacities', templateCapacities'⟩ := charges_of_records records'
  obtain ⟨requirements, pools⟩ := topology_of_records records
  obtain ⟨requirements', pools'⟩ := topology_of_records records'
  have sameRequirements : b'.requirements = b.requirements := by
    rw [requirements, requirements', same.requirements]
  refine ⟨?_, ?_, ?_, ?_, ?_, ?_, sameRequirements, ?_, ?_⟩
  · intro pos' rd' dw' request' offers'
    rw [cached records request' offers', cached records' request' offers']
    exact same.verdicts pos' rd' dw' request' offers'
  · intro other offers' exclusive
    rw [allocatedDevices_of_records records, allocatedDevices_of_records records', Finset.mem_insert,
      Finset.mem_insert, same.held other offers' exclusive]
  · rw [metadata_of_records records, metadata_of_records records', same.metadata]
  · intro template pool set name
    rw [counterAmount_charged records, counterAmount_charged records', same.counters]
  · intro id name
    rw [capacities, capacities']
    split
    · exact same.capacities id name
    · rw [amountAt_deductAllocatingCapacity, amountAt_deductAllocatingCapacity, Search.amountAt_openCapacity,
        Search.amountAt_openCapacity, same.capacities]
  · intro id name
    rw [templateCapacities, templateCapacities']
    split
    · rw [amountAt_deductAllocatingCapacity, amountAt_deductAllocatingCapacity, Search.amountAt_openCapacity,
        Search.amountAt_openCapacity, same.templateCapacities]
    · exact same.templateCapacities id name
  · rw [pools, pools', sameRequirements]
    cases dw.topologyRequirements with
    | none => exact same.pools
    | some reqs =>
      rw [Option.elim_some, Option.elim_some, ← filterPools_unmetered, ← filterPools_unmetered, same.pools]
  · rw [constraints_of_records records, constraints_of_records records', same.constraints]

/-- A device that is recorded on one side is recorded on the other. -/
theorem records (same : Alike ctx home a a') (request : ctx.requestAt pos = some rd)
    (offers : ctx.Offers home dw) (records : Records ctx pos rd dw a consumed b) :
    ∃ b', Records ctx pos rd dw a' consumed b' := by
  obtain ⟨consulted, matched, satisfied, accepted⟩ := exists_records_iff.mp ⟨b, records⟩
  refine exists_records_iff.mpr ⟨(same.consulted offers).mpr consulted, ?_, ?_, ?_⟩
  · rw [same.verdicts pos rd dw request offers]
    exact matched
  · rw [same.constraints]
    exact satisfied
  · rw [same.requirements]
    exact accepted

end Alike

end Checks

section Failing

variable {a b c : Search}

theorem verdicts_of_rejects (identified : ctx.Identified home) (request : ctx.requestAt pos = some rd)
    (offers : ctx.Offers home dw) (rejects : Rejects ctx pos rd dw a b) {pos' : Position}
    (request' : ctx.requestAt pos' = some rd') (offers' : ctx.Offers home dw') :
    (matchesRequest ctx pos' rd' dw' b).1 = (matchesRequest ctx pos' rd' dw' a).1 := by
  rcases deviceMatchesRequest_of_rejects rejects with same | stored
  · exact matchesRequest_congr same
  · exact (matchesRequest_congr stored).trans
      (verdicts_matchesRequest identified request offers request' offers')

/-- A failed call leaves a state that is like the one it started in. -/
def alikeRule (identified : ctx.Identified home) : SearchRule ctx where
  Pre := fun call a => Ready home a ∧ call.Tries ctx home
  Failed := fun a b => Undone a b ∧ Alike ctx home a b
  refl := fun a => ⟨.refl a, .refl a⟩
  trans := fun first second => ⟨first.1.trans second.1, first.2.trans second.2⟩
  polled := fun a => ⟨undone_polled a, (undone_polled a).alike (fun _ _ _ _ _ => matchesRequest_congr rfl)
    fun _ _ _ => Iff.rfl⟩
  rejected := by
    rintro depth pos rd dw a b ⟨ready, request, offers⟩ rejects
    have undone := undone_of_rejects ready.tidied rejects
    refine ⟨undone, undone.alike (fun _ _ _ => verdicts_of_rejects identified request offers rejects) ?_⟩
    intro other _ _
    obtain ⟨cache, rfl⟩ := exists_cache_of_rejects ready.tidied rejects
    exact Iff.rfl
  backtracked := by
    rintro depth pos rd dw a consumed b c ⟨ready, request, offers⟩ records _ ⟨undone, same⟩
    have back := undone_backtrack ready.tidied records undone
    refine ⟨back, back.alike ?_ fun other offers' exclusive => held_backtrack records
      (fun named => identified other dw offers' offers named ▸ exclusive) (same.held other offers' exclusive)⟩
    intro pos' rd' dw' request' offers'
    rw [matchesRequest_congr (deviceMatchesRequest_backtrack c), same.verdicts pos' rd' dw' request' offers',
      matchesRequest_congr (deviceMatchesRequest_of_records records)]
    exact verdicts_matchesRequest identified request offers request' offers'
  recorded := @Ready.recorded ctx home
  branch := fun pre _ branches same => ⟨pre.1.undone same.1, tries_of_branches pre.1.pools branches⟩

end Failing

end Karpenter.DynamicResources
