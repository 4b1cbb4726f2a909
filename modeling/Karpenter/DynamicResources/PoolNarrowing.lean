import Karpenter.DynamicResources.Pool

/-! Pools that are cached for a NodeClaim are narrowed when its requirements tighten, instead of gathered again. Both
ways look at the same slices; whether a pool is invalid, though, is decided by the slices that match, once, when it
is gathered, and a slice that did not match then is gone. -/
namespace Karpenter.DynamicResources

open Go (Map)
open Scheduling (Requirements newRequirement)

/-- The same pool, up to the order of its parts. -/
structure Pool.Same (p q : Pool) : Prop where
  key : p.key = q.key
  slices : p.slices.Perm q.slices
  devices : p.devices.Perm q.devices
  nonTargetingDevices : p.nonTargetingDevices.Perm q.nonTargetingDevices
  counterSets : p.counterSets = q.counterSets
  incomplete : p.incomplete = q.incomplete
  invalid : p.invalid = q.invalid

def pool? (pools : List Pool) (key : PoolKey) : Option Pool := pools.find? (·.key = key)

/-- The same pools, up to their order: a key has at most one pool. -/
def SamePools (ps qs : List Pool) : Prop := ∀ key, Option.Rel Pool.Same (pool? ps key) (pool? qs key)

theorem SamePools.invalid (same : SamePools ps qs) (key : PoolKey) :
    (pool? ps key).map (·.invalid) = (pool? qs key).map (·.invalid) := by
  have agree := same key
  revert agree
  cases pool? ps key <;> cases pool? qs key <;> rintro (same | _)
  · rfl
  · exact congrArg some same.invalid

/-- What determines a pool: its devices are those of its slices. -/
structure PoolView where
  key : PoolKey
  slices : List ResourceSlice
  nonTargetingDevices : List DeviceWithID
  counterSets : CloudProvider.CounterSets
  incomplete : Bool
  invalid : Bool

def Pool.view (p : Pool) : PoolView :=
  ⟨p.key, p.slices, p.nonTargetingDevices, p.counterSets, p.incomplete, p.invalid⟩

structure PoolView.Same (v w : PoolView) : Prop where
  key : v.key = w.key
  slices : v.slices.Perm w.slices
  nonTargetingDevices : v.nonTargetingDevices.Perm w.nonTargetingDevices
  counterSets : v.counterSets = w.counterSets
  incomplete : v.incomplete = w.incomplete
  invalid : v.invalid = w.invalid

theorem Pool.same_iff {p q : Pool} : p.Same q ↔ p.view.Same q.view := by
  constructor
  · rintro ⟨key, slices, -, nonTargeting, counterSets, incomplete, invalid⟩
    exact ⟨key, slices, nonTargeting, counterSets, incomplete, invalid⟩
  · rintro ⟨key, slices, nonTargeting, counterSets, incomplete, invalid⟩
    refine ⟨key, slices, ?_, nonTargeting, counterSets, incomplete, invalid⟩
    rw [p.flattened, q.flattened, show p.key = q.key from key]
    exact slices.flatMap_right _

theorem rel_same_iff {p q : Option Pool} :
    Option.Rel Pool.Same p q ↔ Option.Rel PoolView.Same (p.map Pool.view) (q.map Pool.view) := by
  cases p <;> cases q <;> simp [Pool.same_iff]

namespace PoolBuilder

/-- The counter-consuming devices that an invalid pool keeps. -/
def keptDevices (b : PoolBuilder) (key : PoolKey) : List DeviceWithID :=
  b.nonTargetingDevices key ++ (b.devices key).filter fun d => !d.device.consumesCounters.entries.isEmpty

/-- The slices that offer devices, whether or not they match. -/
def deviceSlices (b : PoolBuilder) : List ResourceSlice :=
  (b.entries.map (·.slice)).filter (·.sharedCounters.isNone)

/-- The same slices, matched anew. -/
def rematch (b : PoolBuilder) (isMatching : ResourceSlice → Bool) : PoolBuilder :=
  { b with entries := b.entries.map fun e => ⟨e.slice, isMatching e.slice⟩ }

variable {b : PoolBuilder}

theorem rematch_addSlice (b : PoolBuilder) (s : ResourceSlice) (matched : Bool) :
    (b.addSlice s matched).rematch isMatching = (b.rematch isMatching).addSlice s (isMatching s) := by
  have empty : (b.rematch isMatching).entries.isEmpty = b.entries.isEmpty := List.isEmpty_map
  have generation : (b.rematch isMatching).generation = b.generation := rfl
  rw [addSlice, addSlice, empty, generation]
  by_cases newer : b.entries.isEmpty ∨ b.generation < s.generation
  · rw [if_pos newer, if_pos newer]
    rfl
  · rw [if_neg newer, if_neg newer]
    by_cases older : s.generation < b.generation
    · rw [if_pos older, if_pos older]
    · rw [if_neg older, if_neg older, rematch, List.map_append]
      rfl

theorem matchingSlices_rematch : (b.rematch isMatching).matchingSlices = b.deviceSlices.filter isMatching := by
  simp [matchingSlices, rematch, deviceSlices, List.filter_map, List.filter_filter, Function.comp_def, Bool.and_comm]

theorem nonTargetingDeviceSlices_rematch :
    (b.rematch isMatching).nonTargetingDeviceSlices = b.deviceSlices.filter (!isMatching ·) := by
  simp [nonTargetingDeviceSlices, rematch, deviceSlices, List.filter_map, List.filter_filter, Function.comp_def,
    Bool.and_comm]

/-- Where there are no slices there are no devices. -/
theorem isEmpty_and_devices (slices : List ResourceSlice) (key : PoolKey) :
    (slices.isEmpty && (slices.flatMap (sliceDevices key)).isEmpty) = slices.isEmpty := by
  cases slices <;> rfl

theorem view_build (b : PoolBuilder) (key : PoolKey) : (b.build key).map Pool.view =
    if b.invalid key then some ⟨key, [], b.keptDevices key, (getAndValidateCounterSets b.counterSetSlices).1,
      decide ((b.entries.length : Int) ≠ b.resourceSliceCount), true⟩
    else if b.matchingSlices.isEmpty && (b.nonTargetingDevices key).isEmpty then none
    else some ⟨key, b.matchingSlices, b.nonTargetingDevices key, (getAndValidateCounterSets b.counterSetSlices).1,
      decide ((b.entries.length : Int) ≠ b.resourceSliceCount), false⟩ := by
  have devices : (b.matchingSlices.isEmpty && (b.devices key).isEmpty) = b.matchingSlices.isEmpty :=
    isEmpty_and_devices _ _
  unfold build
  split
  · rfl
  · rw [devices]
    split <;> rfl

theorem counterSetSlices_rematch : (b.rematch isMatching).counterSetSlices = b.counterSetSlices := by
  simp [counterSetSlices, rematch, List.filter_map, Function.comp_def]

end PoolBuilder

/-- Narrowing, on what determines a pool. -/
def PoolView.narrow (isMatching : ResourceSlice → Bool) (v : PoolView) : Option PoolView :=
  let slices := v.slices.filter isMatching
  let nonTargetingDevices := v.nonTargetingDevices ++
    (v.slices.filter fun s => !isMatching s).flatMap (sliceNonTargetingDevices v.key)
  if !v.invalid && slices.isEmpty && nonTargetingDevices.isEmpty then none
  else some { v with slices, nonTargetingDevices }

theorem view_filterPool (wellKnown : Finset String) (p : Pool) (requirements : Requirements) (nodeName : String)
    (superposed : Bool) : (filterPool wellKnown p requirements nodeName superposed).map Pool.view =
      p.view.narrow fun s => sliceMatchesRequirements wellKnown s requirements nodeName superposed := by
  dsimp only [filterPool, PoolView.narrow, Pool.view]
  rw [Bool.and_assoc (!p.invalid), PoolBuilder.isEmpty_and_devices]
  split <;> rfl

/-- Looking up by a key commutes with a partial map that keeps the keys. -/
theorem find?_filterMap_of_key [DecidableEq κ] {keyOf : α → κ} {keyOf' : β → κ}
    (keeps : ∀ a b, f a = some b → keyOf' b = keyOf a) {list : List α} (distinct : (list.map keyOf).Nodup) (key : κ) :
    (list.filterMap f).find? (keyOf' · = key) = (list.find? (keyOf · = key)).bind f := by
  induction list with
  | nil => rfl
  | cons first rest ih =>
    obtain ⟨fresh, restDistinct⟩ := List.nodup_cons.mp distinct
    specialize ih restDistinct
    rw [List.filterMap_cons, List.find?_cons]
    by_cases here : keyOf first = key
    · rw [decide_eq_true here]
      cases kept : f first with
      | some b => simp [kept, keeps first b kept, here]
      | none =>
        have absent : rest.find? (keyOf · = key) = none := by
          refine List.find?_eq_none.mpr fun a member same => fresh ?_
          rw [here, ← of_decide_eq_true same]
          exact List.mem_map_of_mem member
        simp [kept, ih, absent]
    · rw [decide_eq_false here]
      cases kept : f first with
      | some b => simp [keeps first b kept, here, ih]
      | none => exact ih

theorem pool?_filterPools {pools : List Pool} (distinct : (pools.map (·.key)).Nodup) (key : PoolKey) :
    pool? (filterPools wellKnown pools requirements nodeName superposed) key =
      (pool? pools key).bind fun p => filterPool wellKnown p requirements nodeName superposed :=
  find?_filterMap_of_key (fun _ _ kept => (filterPool_spec kept).1) distinct key

theorem pool?_gatherPools (key : PoolKey) : pool? (gatherPools wellKnown slices requirements nodeName superposed) key =
    ((gatherBuilders wellKnown slices requirements nodeName superposed).lookup key).bind (·.build key) := by
  refine (find?_filterMap_of_key (fun _ _ built => PoolBuilder.key_build built)
    (gatherBuilders wellKnown slices requirements nodeName superposed).nodupKeys key).trans ?_
  cases first : (gatherBuilders wellKnown slices requirements nodeName superposed).entries.find? (·.1 = key) with
  | none =>
    cases found : (gatherBuilders wellKnown slices requirements nodeName superposed).lookup key with
    | none => rfl
    | some b => simpa using List.find?_eq_none.mp first ⟨key, b⟩ (Map.mem_entries_iff.mpr found)
  | some entry =>
    obtain rfl : entry.1 = key := by simpa using List.find?_some first
    rw [Map.mem_entries_iff.mp (List.mem_of_find?_eq_some first)]
    rfl

/-- Which slices a builder holds does not depend on which of them match. -/
theorem lookup_gatherBuilders (other : Requirements) (key : PoolKey) :
    (gatherBuilders wellKnown slices requirements nodeName superposed).lookup key =
      ((gatherBuilders wellKnown slices other nodeName superposed).lookup key).map
        (·.rematch fun s => sliceMatchesRequirements wellKnown s requirements nodeName superposed) := by
  induction slices using List.reverseRecOn generalizing key with
  | nil => rfl
  | append_singleton slices s ih =>
    rw [lookup_gatherBuilders_append, lookup_gatherBuilders_append]
    split
    · rw [Option.map_some, PoolBuilder.rematch_addSlice, ih]
      cases (gatherBuilders wellKnown slices other nodeName superposed).lookup ⟨s.driver, s.pool⟩ <;> rfl
    · exact ih key

section Narrowing

variable {b : PoolBuilder}

/-- The slices that stop to match join those that did not. -/
theorem nonTargetingDevices_perm (key : PoolKey) (tightens : ∀ s ∈ b.deviceSlices, narrow s = true → wide s = true) :
    ((b.rematch wide).nonTargetingDevices key ++
        ((b.rematch wide).matchingSlices.filter (!narrow ·)).flatMap (sliceNonTargetingDevices key)).Perm
      ((b.rematch narrow).nonTargetingDevices key) := by
  rw [PoolBuilder.nonTargetingDevices, PoolBuilder.nonTargetingDevices, ← List.flatMap_append,
    PoolBuilder.nonTargetingDeviceSlices_rematch, PoolBuilder.nonTargetingDeviceSlices_rematch,
    PoolBuilder.matchingSlices_rematch]
  refine List.Perm.flatMap_right _ ?_
  have parts := List.filter_append_perm (!wide ·) (b.deviceSlices.filter (!narrow ·))
  refine List.Perm.trans (List.Perm.of_eq (congrArg₂ (· ++ ·) ?_ ?_)) parts
  · rw [List.filter_filter]
    refine List.filter_congr fun s member => ?_
    have fits := tightens s member
    revert fits
    cases wide s <;> cases narrow s <;> simp
  · rw [List.filter_filter, List.filter_filter]
    refine List.filter_congr fun s member => ?_
    cases wide s <;> cases narrow s <;> rfl

theorem matchingSlices_filter (tightens : ∀ s ∈ b.deviceSlices, narrow s = true → wide s = true) :
    (b.rematch wide).matchingSlices.filter narrow = (b.rematch narrow).matchingSlices := by
  rw [PoolBuilder.matchingSlices_rematch, PoolBuilder.matchingSlices_rematch, List.filter_filter]
  refine List.filter_congr fun s member => ?_
  have fits := tightens s member
  revert fits
  cases wide s <;> cases narrow s <;> simp

theorem slices_of_narrow {v w : PoolView} (narrowed : v.narrow isMatching = some w) :
    w.slices = v.slices.filter isMatching := by
  dsimp only [PoolView.narrow] at narrowed
  split at narrowed
  · cases narrowed
  · cases narrowed
    rfl

/-- A valid pool is narrowed to the one that would be gathered, exactly when no slice comes to match. -/
theorem narrow_valid_iff (valid : (b.rematch wide).invalid key = false) (valid' : (b.rematch narrow).invalid key = false) :
    Option.Rel PoolView.Same ((((b.rematch wide).build key).map Pool.view).bind (·.narrow narrow))
        (((b.rematch narrow).build key).map Pool.view) ↔ ∀ s ∈ b.deviceSlices, narrow s = true → wide s = true := by
  rw [PoolBuilder.view_build, PoolBuilder.view_build, valid, valid', if_neg Bool.false_ne_true,
    if_neg Bool.false_ne_true]
  constructor
  · intro same s member fits
    have listed : s ∈ (b.rematch narrow).matchingSlices := by
      rw [PoolBuilder.matchingSlices_rematch]
      exact List.mem_filter.mpr ⟨member, fits⟩
    have offers : ¬ ((b.rematch narrow).matchingSlices.isEmpty &&
        ((b.rematch narrow).nonTargetingDevices key).isEmpty) = true := by
      rw [Bool.and_eq_true, List.isEmpty_iff]
      exact fun empty => List.ne_nil_of_mem listed empty.1
    rw [if_neg offers] at same
    split at same
    · cases same
    · cases narrowed : PoolView.narrow narrow _ with
      | none =>
        rw [Option.bind_some, narrowed] at same
        cases same
      | some v =>
        rw [Option.bind_some, narrowed] at same
        cases same with
        | some same =>
          have kept := same.slices.mem_iff.mpr listed
          rw [slices_of_narrow narrowed, PoolBuilder.matchingSlices_rematch] at kept
          exact (List.mem_filter.mp (List.mem_of_mem_filter kept)).2
  · intro tightens
    have slices := matchingSlices_filter tightens
    have devices := nonTargetingDevices_perm key tightens
    split
    · rename_i nothing
      obtain ⟨noSlices, noDevices⟩ := Bool.and_eq_true_iff.mp nothing
      rw [List.isEmpty_iff.mp noSlices] at slices devices
      rw [List.isEmpty_iff.mp noDevices] at devices
      rw [if_pos (by rw [← slices, ← devices.isEmpty_eq]; rfl)]
      exact .none
    · rw [Option.bind_some, PoolView.narrow]
      rw [slices, devices.isEmpty_eq, Bool.not_false, Bool.true_and]
      split
      · exact .none
      · refine .some ?_
        exact ⟨rfl, .refl _, devices, by simp only [PoolBuilder.counterSetSlices_rematch],
          by simp [PoolBuilder.rematch], rfl⟩

/-- Narrowing a pool gives what would be gathered exactly when the pool is valid both before and after and no slice
comes to match, or when it is invalid both times and keeps the same counter-consuming devices. -/
theorem narrow_iff (b : PoolBuilder) (key : PoolKey) (wide narrow : ResourceSlice → Bool) :
    Option.Rel PoolView.Same ((((b.rematch wide).build key).map Pool.view).bind (·.narrow narrow))
      (((b.rematch narrow).build key).map Pool.view) ↔ (b.rematch wide).invalid key = (b.rematch narrow).invalid key ∧
      ((b.rematch wide).invalid key = false → ∀ s ∈ b.deviceSlices, narrow s = true → wide s = true) ∧
      ((b.rematch wide).invalid key = true →
        ((b.rematch wide).keptDevices key).Perm ((b.rematch narrow).keptDevices key)) := by
  cases before : (b.rematch wide).invalid key with
  | false =>
    cases after : (b.rematch narrow).invalid key with
    | false => simpa using narrow_valid_iff before after
    | true =>
      refine iff_of_false (fun same => ?_) fun ⟨agree, _⟩ => Bool.false_ne_true agree
      rw [PoolBuilder.view_build, PoolBuilder.view_build, before, after, if_pos rfl, if_neg Bool.false_ne_true] at same
      split at same
      · cases same
      · rw [Option.bind_some, PoolView.narrow] at same
        split at same
        · cases same
        · cases same with
          | some same => exact Bool.false_ne_true same.invalid
  | true =>
    have kept : (((b.rematch wide).build key).map Pool.view).bind (·.narrow narrow) =
        ((b.rematch wide).build key).map Pool.view := by
      rw [PoolBuilder.view_build, before]
      simp [PoolView.narrow]
    rw [kept, PoolBuilder.view_build, PoolBuilder.view_build, before, if_pos rfl]
    cases after : (b.rematch narrow).invalid key with
    | true =>
      rw [if_pos rfl]
      constructor
      · rintro (same | _)
        exact ⟨rfl, nofun, fun _ => same.nonTargetingDevices⟩
      · rintro ⟨-, -, devices⟩
        refine .some ?_
        exact ⟨rfl, .refl _, devices rfl, by simp only [PoolBuilder.counterSetSlices_rematch],
          by simp [PoolBuilder.rematch], rfl⟩
    | false =>
      refine iff_of_false (fun same => ?_) fun ⟨agree, _⟩ => Bool.false_ne_true agree.symm
      rw [if_neg Bool.false_ne_true] at same
      split at same
      · cases same
      · cases same with
        | some same => exact Bool.false_ne_true same.invalid.symm

end Narrowing

/-- Narrowing cached pools gives the pools that gathering would give exactly when, for every pool, it is invalid under
both requirements or under neither, no slice of a valid pool matches only the later ones, and an invalid pool
keeps the same counter-consuming devices. -/
theorem narrowing_eq_gathering_iff (wellKnown : Finset String) (slices : List ResourceSlice)
    (requirements tightened : Requirements) (nodeName : String) (superposed : Bool) :
    SamePools (filterPools wellKnown (gatherPools wellKnown slices requirements nodeName superposed) tightened nodeName
        superposed) (gatherPools wellKnown slices tightened nodeName superposed) ↔
      ∀ key before after,
        (gatherBuilders wellKnown slices requirements nodeName superposed).lookup key = some before →
        (gatherBuilders wellKnown slices tightened nodeName superposed).lookup key = some after →
          before.invalid key = after.invalid key ∧
            (before.invalid key = false → ∀ s ∈ before.deviceSlices,
              sliceMatchesRequirements wellKnown s tightened nodeName superposed = true →
                sliceMatchesRequirements wellKnown s requirements nodeName superposed = true) ∧
            (before.invalid key = true → (before.keptDevices key).Perm (after.keptDevices key)) := by
  refine forall_congr' fun key => ?_
  rw [pool?_filterPools (nodup_keys_gatherPools _ _ _ _ _), pool?_gatherPools, pool?_gatherPools, rel_same_iff]
  have own : (gatherBuilders wellKnown slices requirements nodeName superposed).lookup key = _ :=
    lookup_gatherBuilders requirements key
  have again : (gatherBuilders wellKnown slices tightened nodeName superposed).lookup key = _ :=
    lookup_gatherBuilders requirements key
  cases found : (gatherBuilders wellKnown slices requirements nodeName superposed).lookup key with
  | none =>
    rw [found] at again
    rw [again]
    exact iff_of_true .none nofun
  | some before =>
    rw [found, Option.map_some] at own again
    have narrowed := narrow_iff before key
      (fun s => sliceMatchesRequirements wellKnown s requirements nodeName superposed)
      fun s => sliceMatchesRequirements wellKnown s tightened nodeName superposed
    rw [← Option.some.inj own] at narrowed
    have filtered : (((before.build key).bind fun p => filterPool wellKnown p tightened nodeName superposed).map
        Pool.view) = ((before.build key).map Pool.view).bind
          (·.narrow fun s => sliceMatchesRequirements wellKnown s tightened nodeName superposed) := by
      cases before.build key with
      | none => rfl
      | some p => exact view_filterPool wellKnown p tightened nodeName superposed
    rw [again, Option.bind_some, Option.bind_some, filtered, narrowed]
    constructor
    · rintro same _ _ ⟨⟩ ⟨⟩
      exact same
    · intro same
      exact same before _ rfl rfl

/-- A slice of a driver that numbers its devices anew in every zone. -/
def zonalSlice (zone : String) : ResourceSlice where
  driver := "gpu.example.com"
  pool := "gpus"
  resourceSliceCount := 2
  nodeSelector := some ⟨[⟨[{ key := "zone", operator := .opIn, values := [zone] }]⟩]⟩
  devices := [{ name := "gpu-0" }]

def inZone (zone : String) : Requirements := Requirements.newRequirements [newRequirement "zone" .opIn [zone]]

/-- A pool that holds the same device name in two zones is invalid as long as the node may be in either, and stays so
when the zone is settled. Gathered for that zone, the pool has the one device. -/
theorem narrowed_stays_invalid : Requirements.empty.isCompatible (inZone "a") {"zone"} = true ∧ ¬ SamePools
      (filterPools {"zone"} (gatherPools {"zone"} [zonalSlice "a", zonalSlice "b"] Requirements.empty "" true)
        (Requirements.empty.add (inZone "a").values) "" true)
      (gatherPools {"zone"} [zonalSlice "a", zonalSlice "b"] (Requirements.empty.add (inZone "a").values) "" true) := by
  refine ⟨by decide +kernel, fun same => ?_⟩
  have flags := same.invalid ⟨"gpu.example.com", "gpus"⟩
  revert flags
  decide +kernel

end Karpenter.DynamicResources
