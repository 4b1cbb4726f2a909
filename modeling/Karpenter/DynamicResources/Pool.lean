import Karpenter.DynamicResources.Types
import Mathlib.Data.List.Nodup
import Mathlib.Data.List.Sigma

/-! Gathering published slices into pools and narrowing the pools to a node claim. A pool carries the
facts the search relies on: its devices are those of its slices, and their identifiers are distinct. Go
ranges over the map of builders in any order; results about the gathered list do not use its order. -/
namespace Karpenter.DynamicResources

open Go (Map)
open Scheduling (Requirements)
open CloudProvider (Device CounterSets)

structure DeviceWithID where
  device : Device
  id : DeviceID
  topologyRequirements : Option Requirements := none

def newDeviceWithID (key : PoolKey) (d : Device) (topoReqs : Option Requirements) : DeviceWithID where
  device := d
  id := { driver := key.driver, pool := key.pool, device := d.name }
  topologyRequirements := topoReqs

def nodeSelectorsMatch (wellKnown : Finset String) (ns : NodeSelector) (requirements : Requirements)
    (superposed : Bool) : Bool :=
  ns.nodeSelectorTerms.any fun term =>
    requirements.isCompatible (Requirements.newNodeSelectorRequirements term.matchExpressions)
      (compatibilityOptions wellKnown superposed)

def sliceMatchesRequirements (wellKnown : Finset String) (s : ResourceSlice) (requirements : Requirements)
    (nodeName : String) (superposed : Bool) : Bool :=
  if s.allNodes then true
  else if s.sharedCounters.isSome then true
  else if s.nodeName ≠ "" then nodeName ≠ "" && s.nodeName = nodeName
  else match s.nodeSelector with
    | some ns => nodeSelectorsMatch wellKnown ns requirements superposed
    | none => false

def sliceTopologyRequirements (s : ResourceSlice) : Option Requirements :=
  if s.allNodes then none else nodeSelectorsToRequirements s.nodeSelector

/-- The devices a matching slice contributes to its pool. -/
def sliceDevices (key : PoolKey) (s : ResourceSlice) : List DeviceWithID :=
  s.devices.map fun d => newDeviceWithID key d (sliceTopologyRequirements s)

/-- The counter-consuming devices of a slice that does not match the node claim. -/
def sliceNonTargetingDevices (key : PoolKey) (s : ResourceSlice) : List DeviceWithID :=
  (s.devices.filter fun d => !d.consumesCounters.entries.isEmpty).map fun d => newDeviceWithID key d none

structure Pool where
  key : PoolKey
  slices : List ResourceSlice
  devices : List DeviceWithID
  nonTargetingDevices : List DeviceWithID
  counterSets : CounterSets
  incomplete : Bool
  invalid : Bool
  flattened : devices = slices.flatMap (sliceDevices key)
  distinct : (devices.map (·.id)).Nodup

def getAndValidateCounterSets (slices : List ResourceSlice) : CounterSets × Bool :=
  (slices.flatMap fun s => s.sharedCounters.getD []).foldl
    (fun (counterSets, valid) counterSet =>
      (counterSets.insert counterSet.name counterSet.counters,
        valid && (counterSets.lookup counterSet.name).isNone))
    (∅, true)

def validateDeviceCounterConsumption (counterSets : CounterSets) (slices : List ResourceSlice) : Bool :=
  slices.all fun slice => slice.devices.all fun device =>
    device.consumesCounters.entries.all fun consumption =>
      match counterSets.lookup consumption.1 with
      | none => false
      | some counterSet => consumption.2.entries.all fun counter => (counterSet.lookup counter.1).isSome

structure SliceEntry where
  slice : ResourceSlice
  matched : Bool

structure PoolBuilder where
  entries : List SliceEntry := []
  generation : Int := 0
  resourceSliceCount : Int := 0

namespace PoolBuilder

variable (b : PoolBuilder)

/-- A newer generation replaces what was gathered; an outdated slice is dropped. -/
def addSlice (s : ResourceSlice) (matched : Bool) : PoolBuilder :=
  if b.entries.isEmpty ∨ b.generation < s.generation then
    { entries := [⟨s, matched⟩], generation := s.generation, resourceSliceCount := s.resourceSliceCount }
  else if s.generation < b.generation then b
  else { b with entries := b.entries ++ [⟨s, matched⟩] }

def counterSetSlices : List ResourceSlice :=
  (b.entries.filter fun e => e.slice.sharedCounters.isSome).map (·.slice)

def matchingSlices : List ResourceSlice :=
  (b.entries.filter fun e => e.slice.sharedCounters.isNone && e.matched).map (·.slice)

def nonTargetingDeviceSlices : List ResourceSlice :=
  (b.entries.filter fun e => e.slice.sharedCounters.isNone && !e.matched).map (·.slice)

def devices (key : PoolKey) : List DeviceWithID :=
  b.matchingSlices.flatMap (sliceDevices key)

def nonTargetingDevices (key : PoolKey) : List DeviceWithID :=
  b.nonTargetingDeviceSlices.flatMap (sliceNonTargetingDevices key)

/-- Whether two devices of the matching slices share a name, or the counters do not add up. -/
def invalid (key : PoolKey) : Bool :=
  let (counterSets, valid) := getAndValidateCounterSets b.counterSetSlices
  !decide (((b.devices key).map (·.id)).Nodup) || !valid ||
    !validateDeviceCounterConsumption counterSets b.matchingSlices ||
    !validateDeviceCounterConsumption counterSets b.nonTargetingDeviceSlices

theorem distinct_of_valid {b : PoolBuilder} (valid : ¬ b.invalid key = true) : ((b.devices key).map (·.id)).Nodup := by
  unfold invalid at valid
  simp only [Bool.or_eq_true, not_or, Bool.not_eq_true', decide_eq_false_iff_not, not_not] at valid
  exact valid.1.1.1

/-- Completeness counts all slices of the generation; an invalid pool offers no device, but keeps the
counter-consuming ones so that their consumption can still be deducted. -/
def build (key : PoolKey) : Option Pool :=
  let incomplete := decide ((b.entries.length : Int) ≠ b.resourceSliceCount)
  let counterSets := (getAndValidateCounterSets b.counterSetSlices).1
  if bad : b.invalid key then
    some {
      key, incomplete, counterSets
      slices := []
      devices := []
      nonTargetingDevices := b.nonTargetingDevices key ++
        (b.devices key).filter fun d => !d.device.consumesCounters.entries.isEmpty
      invalid := true
      flattened := rfl
      distinct := List.nodup_nil }
  else if b.matchingSlices.isEmpty && (b.devices key).isEmpty && (b.nonTargetingDevices key).isEmpty then none
  else
    some {
      key, incomplete, counterSets
      slices := b.matchingSlices
      devices := b.devices key
      nonTargetingDevices := b.nonTargetingDevices key
      invalid := false
      flattened := rfl
      distinct := distinct_of_valid bad }

theorem key_build {b : PoolBuilder} (built : b.build key = some pool) : pool.key = key := by
  unfold build at built
  split at built
  · rw [← Option.some.inj built]
  · split at built
    · cases built
    · rw [← Option.some.inj built]

end PoolBuilder

def gatherBuilders (wellKnown : Finset String) (inClusterSlices : List ResourceSlice)
    (requirements : Requirements) (nodeName : String) (superposed : Bool) : Map PoolKey PoolBuilder :=
  inClusterSlices.foldl (fun builders s =>
    let key : PoolKey := ⟨s.driver, s.pool⟩
    let b := (builders.lookup key).getD {}
    builders.insert key
      (b.addSlice s (sliceMatchesRequirements wellKnown s requirements nodeName superposed))) ∅

theorem lookup_gatherBuilders_append (key : PoolKey) (slices : List ResourceSlice) (s : ResourceSlice) :
    (gatherBuilders wellKnown (slices ++ [s]) requirements nodeName superposed).lookup key =
      if key = ⟨s.driver, s.pool⟩ then
        some ((((gatherBuilders wellKnown slices requirements nodeName superposed).lookup ⟨s.driver, s.pool⟩).getD {}).addSlice s
          (sliceMatchesRequirements wellKnown s requirements nodeName superposed))
      else (gatherBuilders wellKnown slices requirements nodeName superposed).lookup key := by
  rw [gatherBuilders, List.foldl_append]
  exact Map.lookup_insert_eq ..

def gatherPools (wellKnown : Finset String) (inClusterSlices : List ResourceSlice)
    (requirements : Requirements) (nodeName : String) (superposed : Bool) : List Pool :=
  (gatherBuilders wellKnown inClusterSlices requirements nodeName superposed).entries.filterMap
    fun entry => entry.2.build entry.1

def filterPool (wellKnown : Finset String) (pool : Pool) (requirements : Requirements) (nodeName : String)
    (superposed : Bool) : Option Pool :=
  let isMatching := fun s => sliceMatchesRequirements wellKnown s requirements nodeName superposed
  let slices := pool.slices.filter isMatching
  let devices := slices.flatMap (sliceDevices pool.key)
  let nonTargetingDevices := pool.nonTargetingDevices ++
    (pool.slices.filter fun s => !isMatching s).flatMap (sliceNonTargetingDevices pool.key)
  -- All-mode validation has to see an invalid pool, so it survives without slices or devices.
  if !pool.invalid && slices.isEmpty && devices.isEmpty && nonTargetingDevices.isEmpty then none
  else
    some {
      key := pool.key
      slices, devices, nonTargetingDevices
      counterSets := pool.counterSets
      incomplete := pool.incomplete
      invalid := pool.invalid
      flattened := rfl
      distinct := by
        have narrowed : (slices.flatMap (sliceDevices pool.key)).Sublist
            (pool.slices.flatMap (sliceDevices pool.key)) :=
          List.filter_sublist.flatMap _
        have whole := pool.distinct
        rw [pool.flattened] at whole
        exact whole.sublist (narrowed.map _) }

def filterPools (wellKnown : Finset String) (pools : List Pool) (requirements : Requirements)
    (nodeName : String) (superposed : Bool) : List Pool :=
  pools.filterMap fun pool => filterPool wellKnown pool requirements nodeName superposed

/-- All the devices a list of pools offers. -/
def offered (pools : List Pool) : List DeviceWithID := pools.flatMap (·.devices)

theorem Pool.id_of_mem_devices {pool : Pool} (member : d ∈ pool.devices) :
    d.id.poolKey = pool.key ∧ d.id.template = false := by
  rw [pool.flattened] at member
  obtain ⟨s, _, inSlice⟩ := List.mem_flatMap.mp member
  obtain ⟨device, _, rfl⟩ := List.mem_map.mp inSlice
  exact ⟨rfl, rfl⟩

/-- Pools with distinct keys offer devices with distinct identifiers. -/
theorem nodup_offered {pools : List Pool} (keys : (pools.map (·.key)).Nodup) : ((offered pools).map (·.id)).Nodup := by
  induction pools with
  | nil => exact List.nodup_nil
  | cons pool rest ih =>
    obtain ⟨fresh, restKeys⟩ := List.nodup_cons.mp keys
    rw [offered, List.flatMap_cons, List.map_append]
    refine List.Nodup.append pool.distinct (ih restKeys) ?_
    intro id inPool inRest
    obtain ⟨d, member, rfl⟩ := List.mem_map.mp inPool
    obtain ⟨other, offeredLater, same⟩ := List.mem_map.mp inRest
    obtain ⟨later, laterMember, otherMember⟩ := List.mem_flatMap.mp offeredLater
    have keyEq : later.key = pool.key := by
      rw [← (Pool.id_of_mem_devices otherMember).1, ← (Pool.id_of_mem_devices member).1, same]
    exact fresh (List.mem_map.mpr ⟨later, laterMember, keyEq⟩)

theorem eq_of_offered (keys : (pools.map (·.key)).Nodup) (first : d ∈ offered pools) (second : e ∈ offered pools)
    (same : d.id = e.id) : d = e :=
  List.inj_on_of_nodup_map (nodup_offered keys) first second same

theorem template_of_offered (member : d ∈ offered pools) : d.id.template = false := by
  obtain ⟨pool, _, inPool⟩ := List.mem_flatMap.mp member
  exact (Pool.id_of_mem_devices inPool).2

theorem keys_filterMap_build {entries : List (Sigma fun _ : PoolKey => PoolBuilder)} :
    ((entries.filterMap fun entry => entry.2.build entry.1).map (·.key)).Sublist entries.keys := by
  induction entries with
  | nil => exact List.Sublist.refl _
  | cons entry rest ih =>
    cases built : entry.2.build entry.1 with
    | none => simpa [built] using ih.cons entry.1
    | some pool => simpa [built, PoolBuilder.key_build built] using ih.cons_cons entry.1

theorem nodup_keys_gatherPools (wellKnown : Finset String) (slices : List ResourceSlice)
    (requirements : Requirements) (nodeName : String) (superposed : Bool) :
    ((gatherPools wellKnown slices requirements nodeName superposed).map (·.key)).Nodup :=
  keys_filterMap_build.nodup (gatherBuilders wellKnown slices requirements nodeName superposed).nodupKeys

theorem filterPool_spec (kept : filterPool wellKnown pool requirements nodeName superposed = some narrowed) :
    narrowed.key = pool.key ∧ narrowed.devices.Sublist pool.devices := by
  simp only [filterPool] at kept
  split at kept
  · cases kept
  · rw [← Option.some.inj kept, pool.flattened]
    exact ⟨rfl, List.filter_sublist.flatMap _⟩

theorem keys_filterPools (wellKnown : Finset String) (pools : List Pool) (requirements : Requirements)
    (nodeName : String) (superposed : Bool) :
    ((filterPools wellKnown pools requirements nodeName superposed).map (·.key)).Sublist
      (pools.map (·.key)) := by
  induction pools with
  | nil => exact List.Sublist.refl _
  | cons pool rest ih =>
    unfold filterPools at ih ⊢
    cases kept : filterPool wellKnown pool requirements nodeName superposed with
    | none => simpa [kept] using ih.cons pool.key
    | some narrowed => simpa [kept, (filterPool_spec kept).1] using ih.cons_cons pool.key

/-- Narrowing pools only withdraws devices. -/
theorem mem_offered_of_filterPools
    (member : d ∈ offered (filterPools wellKnown pools requirements nodeName superposed)) : d ∈ offered pools := by
  obtain ⟨narrowed, inFiltered, inNarrowed⟩ := List.mem_flatMap.mp member
  obtain ⟨pool, inPools, kept⟩ := List.mem_filterMap.mp inFiltered
  exact List.mem_flatMap.mpr ⟨pool, inPools, (filterPool_spec kept).2.subset inNarrowed⟩

/-- A device one of the slices publishes. -/
def Publishes (slices : List ResourceSlice) (device : Device) : Prop := ∃ s ∈ slices, device ∈ s.devices

/-- A counter total one of the slices publishes. -/
def PublishesCounter (slices : List ResourceSlice) (total : Resources.Quantity) : Prop :=
  ∃ s ∈ slices, ∃ counterSet ∈ s.sharedCounters.getD [], ∃ name, counterSet.counters.lookup name = some total

theorem PoolBuilder.slice_of_addSlice {b : PoolBuilder} (member : e ∈ (b.addSlice s matched).entries) :
    e ∈ b.entries ∨ e.slice = s := by
  unfold addSlice at member
  split at member
  · rw [List.mem_singleton.mp member]
    exact .inr rfl
  · split at member
    · exact .inl member
    · rcases List.mem_append.mp member with before | here
      · exact .inl before
      · rw [List.mem_singleton.mp here]
        exact .inr rfl

theorem slice_of_gatherBuilders
    (found : (gatherBuilders wellKnown slices requirements nodeName superposed).lookup key = some b)
    (member : e ∈ b.entries) : e.slice ∈ slices ∧ key = ⟨e.slice.driver, e.slice.pool⟩ := by
  induction slices using List.reverseRecOn generalizing b with
  | nil => cases found
  | append_singleton slices s ih =>
    rw [lookup_gatherBuilders_append] at found
    split at found
    · rename_i same
      cases found
      rcases PoolBuilder.slice_of_addSlice member with before | rfl
      · cases stored : (gatherBuilders wellKnown slices requirements nodeName superposed).lookup ⟨s.driver, s.pool⟩ with
        | none =>
          rw [stored] at before
          cases before
        | some old =>
          rw [stored] at before
          exact (ih (same ▸ stored) before).imp_left (List.mem_append_left _)
      · exact ⟨List.mem_append_right _ (List.mem_singleton_self _), same⟩
    · exact (ih found member).imp_left (List.mem_append_left _)

/-- Devices and counter totals of a gathered pool are published by the slices. -/
structure Pool.PublishedBy (pool : Pool) (slices : List ResourceSlice) : Prop where
  devices : ∀ d ∈ pool.devices ++ pool.nonTargetingDevices, Publishes slices d.device
  counters : ∀ set name total, Resources.quantity? pool.counterSets set name = some total →
    PublishesCounter slices total

theorem counters_of_getAndValidate {sources slices : List ResourceSlice} (sub : sources ⊆ slices) {set : String}
    (found : Resources.quantity? (getAndValidateCounterSets sources).1 set name = some total) :
    PublishesCounter slices total := by
  obtain ⟨counters, inSets, inCounters⟩ := Option.bind_eq_some_iff.mp found
  unfold getAndValidateCounterSets at inSets
  obtain ⟨s, inSlices, cs, inShared, rfl⟩ : ∃ s ∈ slices, ∃ cs ∈ s.sharedCounters.getD [], cs.counters = counters := by
    refine List.foldlRecOn (motive := fun state : CounterSets × Bool => ∀ set counters, state.1.lookup set = some counters →
      ∃ s ∈ slices, ∃ cs ∈ s.sharedCounters.getD [], cs.counters = counters) _ _ ?_ ?_ set counters inSets
    · exact fun set counters absent => by cases absent
    · intro state each cs listed set counters inserted
      rw [Map.lookup_insert_eq] at inserted
      split at inserted
      · cases inserted
        obtain ⟨s, inSources, inShared⟩ := List.mem_flatMap.mp listed
        exact ⟨s, sub inSources, cs, inShared, rfl⟩
      · exact each set counters inserted
  exact ⟨s, inSlices, cs, inShared, name, inCounters⟩

theorem PoolBuilder.published_build {b : PoolBuilder} (sources : ∀ e ∈ b.entries, e.slice ∈ slices)
    (built : b.build key = some pool) : pool.PublishedBy slices := by
  have devices : ∀ d ∈ b.devices key, Publishes slices d.device := by
    intro d member
    obtain ⟨s, inMatching, inSlice⟩ := List.mem_flatMap.mp member
    obtain ⟨e, kept, rfl⟩ := List.mem_map.mp inMatching
    obtain ⟨device, inDevices, rfl⟩ := List.mem_map.mp inSlice
    exact ⟨e.slice, sources e (List.mem_of_mem_filter kept), inDevices⟩
  have nonTargeting : ∀ d ∈ b.nonTargetingDevices key, Publishes slices d.device := by
    intro d member
    obtain ⟨s, inRest, inSlice⟩ := List.mem_flatMap.mp member
    obtain ⟨e, kept, rfl⟩ := List.mem_map.mp inRest
    obtain ⟨device, inDevices, rfl⟩ := List.mem_map.mp inSlice
    exact ⟨e.slice, sources e (List.mem_of_mem_filter kept), List.mem_of_mem_filter inDevices⟩
  have sub : b.counterSetSlices ⊆ slices := by
    intro s member
    obtain ⟨e, kept, rfl⟩ := List.mem_map.mp member
    exact sources e (List.mem_of_mem_filter kept)
  unfold build at built
  split at built
  · cases built
    refine ⟨fun d member => ?_, fun set name total found => counters_of_getAndValidate sub found⟩
    rw [List.nil_append] at member
    rcases List.mem_append.mp member with inRest | inDevices
    · exact nonTargeting d inRest
    · exact devices d (List.mem_of_mem_filter inDevices)
  · split at built
    · cases built
    · cases built
      refine ⟨fun d member => ?_, fun set name total found => counters_of_getAndValidate sub found⟩
      rcases List.mem_append.mp member with inDevices | inRest
      · exact devices d inDevices
      · exact nonTargeting d inRest

theorem published_gatherPools (member : pool ∈ gatherPools wellKnown slices requirements nodeName superposed) :
    pool.PublishedBy slices := by
  obtain ⟨entry, inEntries, built⟩ := List.mem_filterMap.mp member
  exact PoolBuilder.published_build
    (fun e inBuilder => (slice_of_gatherBuilders (Map.mem_entries_iff.mp inEntries) inBuilder).1) built

end Karpenter.DynamicResources
