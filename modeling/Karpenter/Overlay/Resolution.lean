import Karpenter.Overlay.Store
import Karpenter.Precedence
import Karpenter.Trace
import Mathlib.Data.Int.ConditionallyCompleteOrder

/-! Which overlay decides. A price is stored under the text of an offering's requirements with the weight of the
overlay that priced it last, so an overlay of the same weight is noticed. For the capacity of an instance type only
the resources of the overlay that came last are remembered: an overlay of the same weight that set the same resource
goes unnoticed when another one, with other resources, has come between. -/
namespace Karpenter.Overlay

open Go (Map)
open CloudProvider (Registry Offering InstanceType)
open Resources (ResourceList Quantity)
open Precedence (Highest Exclusive Descending last)
open InstanceTypeStore

/-- NodePools, and the instance types of each, are told apart by name. -/
structure Catalog where
  nodePools : List NodePool
  distinctNodePools : (nodePools.map NodePool.name).Nodup
  distinctInstanceTypes : ∀ nodePool ∈ nodePools, (nodePool.instanceTypes.map InstanceType.name).Nodup

namespace NodeOverlay

def weigh (overlay : NodeOverlay) : Int := overlay.weight.getD 0

/-- The price that an overlay sets. -/
def priceText (overlay : NodeOverlay) : Option String :=
  if overlay.price.isNone then overlay.priceAdjustment else overlay.price

end NodeOverlay

open NodeOverlay (weigh)

section Entry

variable (registry : Registry)

theorem entry_setEntry (store : InstanceTypeStore) (nodePool it nodePool' it' : String) (update : InstanceTypeUpdate) :
    (store.setEntry nodePool it update).entry nodePool' it' =
      if nodePool' = nodePool ∧ it' = it then update else store.entry nodePool' it' := by
  rw [entry, setEntry, Map.lookup_insert_eq]
  by_cases samePool : nodePool' = nodePool
  · subst samePool
    rw [if_pos rfl, Option.getD_some, Map.lookup_insert_eq]
    by_cases same : it' = it
    · simp [same]
    · simp [same, entry]
  · simp [samePool, entry]

/-- What an overlay makes of what is stored for an instance type. -/
def updated (overlay : NodeOverlay) (offerings : List Offering) (update : InstanceTypeUpdate) : InstanceTypeUpdate where
  price := if offerings.isEmpty then update.price else
    overlay.priceText.elim update.price fun price => offerings.foldl (storePrice price overlay.weight) update.price
  capacity := if offerings.isEmpty then update.capacity else
    overlay.capacity.elim update.capacity fun capacity => some (storeCapacity capacity overlay.weight update.capacity)

theorem entry_storeInstanceType (overlay : NodeOverlay) (nodePool : NodePool) (store : InstanceTypeStore)
    (it : InstanceType) (nodePool' it' : String) :
    (storeInstanceType registry overlay nodePool store it).entry nodePool' it' =
      if nodePool' = nodePool.name ∧ it' = it.name
      then updated overlay (overlay.selected registry nodePool it) (store.entry nodePool' it')
      else store.entry nodePool' it' := by
  rw [storeInstanceType, updated]
  by_cases unselected : (overlay.selected registry nodePool it).isEmpty = true
  · simp [unselected]
  · rw [if_neg unselected, if_neg unselected, if_neg unselected, updateInstanceTypeCapacity, updateInstanceTypeOffering,
      ← NodeOverlay.priceText]
    by_cases same : nodePool' = nodePool.name ∧ it' = it.name
    · obtain ⟨rfl, rfl⟩ := same
      cases overlay.priceText <;> cases overlay.capacity <;> simp [entry_setEntry]
    · cases overlay.priceText <;> cases overlay.capacity <;> simp [entry_setEntry, same]

/-- Steps that change only what is read under their own keys, all of them distinct, change each of these once. -/
theorem read_foldl {σ α κ ν : Type} [DecidableEq κ] {step : σ → α → σ} {key : α → κ} (change : α → ν → ν)
    (read : σ → κ → ν) (own : ∀ s a k, read (step s a) k = if k = key a then change a (read s k) else read s k)
    {items : List α} (distinct : (items.map key).Nodup) {a : α} (member : a ∈ items) (s : σ) :
    read (items.foldl step s) (key a) = change a (read s (key a)) := by
  have others (k : κ) (rest : List α) (s : σ) (absent : k ∉ rest.map key) : read (rest.foldl step s) k = read s k := by
    induction rest generalizing s with
    | nil => rfl
    | cons b rest ih =>
      obtain ⟨different, absent⟩ := not_or.mp (mt List.mem_cons.mpr absent)
      rw [List.foldl_cons, ih _ absent, own, if_neg different]
  induction items generalizing s with
  | nil => cases member
  | cons b rest ih =>
    obtain ⟨fresh, distinct⟩ := List.nodup_cons.mp distinct
    rw [List.foldl_cons]
    rcases List.mem_cons.mp member with rfl | later
    · rw [others _ _ _ fresh, own, if_pos rfl]
    · have different : key a ≠ key b := fun same => fresh (same ▸ List.mem_map_of_mem later)
      rw [ih distinct later, own, if_neg different]

theorem entry_storeNodePools (overlay : NodeOverlay) (catalog : Catalog) (store : InstanceTypeStore) {nodePool : NodePool}
    (inPools : nodePool ∈ catalog.nodePools) {it : InstanceType} (inTypes : it ∈ nodePool.instanceTypes) :
    (catalog.nodePools.foldl (fun store nodePool => storeUpdatesForInstanceTypeOverride registry store nodePool overlay)
      store).entry nodePool.name it.name =
      updated overlay (overlay.selected registry nodePool it) (store.entry nodePool.name it.name) := by
  let pairs := catalog.nodePools.flatMap fun nodePool => nodePool.instanceTypes.map fun it => (nodePool, it)
  have distinct : (pairs.map fun pair => (pair.1.name, pair.2.name)).Nodup := by
    rw [List.map_flatMap, List.nodup_flatMap]
    refine ⟨fun nodePool member => ?_, (List.pairwise_map.mp catalog.distinctNodePools).imp fun {one two} apart => ?_⟩
    · have types := (catalog.distinctInstanceTypes nodePool member).map (Prod.mk_right_injective nodePool.name)
      rw [List.map_map] at types ⊢
      exact types
    · simp only [Function.onFun, List.map_map]
      intro key inOne inTwo
      obtain ⟨_, -, rfl⟩ := List.mem_map.mp inOne
      obtain ⟨_, -, same⟩ := List.mem_map.mp inTwo
      exact apart (congrArg Prod.fst same).symm
  have flat : catalog.nodePools.foldl (fun store nodePool =>
      storeUpdatesForInstanceTypeOverride registry store nodePool overlay) store =
      pairs.foldl (fun store pair => storeInstanceType registry overlay pair.1 store pair.2) store := by
    simp only [pairs, List.foldl_flatMap, List.foldl_map]
    rfl
  have member : (nodePool, it) ∈ pairs := List.mem_flatMap.mpr ⟨nodePool, inPools, List.mem_map_of_mem inTypes⟩
  rw [flat]
  refine read_foldl (fun pair => updated overlay (overlay.selected registry pair.1 pair.2))
    (fun store key => entry store key.1 key.2) (fun store pair key => ?_) distinct member store
  simp only [entry_storeInstanceType, Prod.ext_iff]

end Entry

section Selection

variable (registry : Registry) (nodePool : NodePool) (it : InstanceType)

/-- The overlay prices an offering whose requirements read like this. -/
def pricesText (text : String) (overlay : NodeOverlay) : Bool :=
  overlay.priceText.isSome &&
    decide (text ∈ (overlay.selected registry nodePool it).map fun o => requirementsText o.requirements)

/-- The overlay prices the offering. -/
def prices (o : Offering) (overlay : NodeOverlay) : Bool :=
  overlay.priceText.isSome && decide (o ∈ overlay.selected registry nodePool it)

/-- The overlay sets some capacity of the instance type. -/
def overlaysCapacity (overlay : NodeOverlay) : Bool :=
  !(overlay.selected registry nodePool it).isEmpty && overlay.capacity.isSome

def NodeOverlay.quantity (overlay : NodeOverlay) (resource : String) : Option Quantity :=
  (overlay.capacity.getD ∅).lookup resource

/-- The overlay sets the resource of the instance type. -/
def sets (resource : String) (overlay : NodeOverlay) : Bool :=
  !(overlay.selected registry nodePool it).isEmpty && (overlay.quantity resource).isSome

end Selection

def InstanceTypeUpdate.storedPrice (update : InstanceTypeUpdate) (text : String) : Option String :=
  (update.price.lookup text).map PriceUpdate.overlayUpdate

def InstanceTypeUpdate.storedCapacity (update : InstanceTypeUpdate) (resource : String) : Option Quantity :=
  update.capacity.bind (·.overlayUpdate.lookup resource)

section Reflects

variable {registry : Registry} {nodePool : NodePool} {it : InstanceType}

theorem lookup_storePrices (price : String) (weight : Option Int) (offerings : List Offering)
    (stored : Map String PriceUpdate) (text : String) : (offerings.foldl (storePrice price weight) stored).lookup text =
      if text ∈ offerings.map (fun o => requirementsText o.requirements) then
        some { overlayUpdate := ((stored.lookup text).map PriceUpdate.overlayUpdate).getD price, lowestWeight := weight }
      else stored.lookup text := by
  induction offerings generalizing stored with
  | nil => rfl
  | cons o rest ih =>
    have first : (storePrice price weight stored o).lookup text =
        if text = requirementsText o.requirements then
          some { overlayUpdate := ((stored.lookup text).map PriceUpdate.overlayUpdate).getD price, lowestWeight := weight }
        else stored.lookup text := by
      rw [storePrice]
      split <;>
      · rename_i found
        rw [Map.lookup_insert_eq]
        split
        · rename_i same
          rw [same, found]
          rfl
        · rfl
    rw [List.foldl_cons, ih, first, List.map_cons]
    by_cases same : text = requirementsText o.requirements
    · by_cases again : text ∈ rest.map fun o => requirementsText o.requirements
      · simp [same]
      · simp [same]
    · simp [same]

/-- What is stored for an instance type reflects the overlays that were accepted: the first to set something gave
its value, and of the last one the weight is known and, for capacity, the resources. -/
structure Reflects (registry : Registry) (nodePool : NodePool) (it : InstanceType) (accepted : List NodeOverlay)
    (update : InstanceTypeUpdate) : Prop where
  price : ∀ text, update.storedPrice text =
    (accepted.find? (pricesText registry nodePool it text)).bind NodeOverlay.priceText
  priceWeight : ∀ text, (update.price.lookup text).map (·.lowestWeight.getD 0) =
    (last (pricesText registry nodePool it text) accepted).map weigh
  capacity : ∀ resource, update.storedCapacity resource =
    (accepted.find? (sets registry nodePool it resource)).bind (·.quantity resource)
  summary : ∃ stored, update.capacity = some stored ∧
    (last (overlaysCapacity registry nodePool it) accepted).elim
      (∀ resource, stored.lowestWeightCapacityResources.lookup resource = none)
      fun overlay => stored.lowestWeight.getD 0 = overlay.weigh ∧
        ∀ resource, stored.lowestWeightCapacityResources.lookup resource = overlay.quantity resource

theorem Reflects.start : Reflects registry nodePool it [] {} where
  price _ := rfl
  priceWeight _ := rfl
  capacity _ := rfl
  summary := ⟨{}, rfl, fun _ => rfl⟩

theorem price_updated (overlay : NodeOverlay) (update : InstanceTypeUpdate) (text : String) :
    (updated overlay (overlay.selected registry nodePool it) update).price.lookup text =
      if pricesText registry nodePool it text overlay = true then
        some { overlayUpdate := (update.storedPrice text).getD (overlay.priceText.getD ""), lowestWeight := overlay.weight }
      else update.price.lookup text := by
  rw [updated, pricesText]
  cases priced : overlay.priceText with
  | none => simp
  | some price =>
    cases selected : overlay.selected registry nodePool it with
    | nil => simp
    | cons o rest =>
      rw [if_neg (by simp), Option.elim_some, lookup_storePrices]
      simp [InstanceTypeUpdate.storedPrice]

theorem capacity_updated (overlay : NodeOverlay) (update : InstanceTypeUpdate) :
    (updated overlay (overlay.selected registry nodePool it) update).capacity =
      if overlaysCapacity registry nodePool it overlay = true then
        some (storeCapacity (overlay.capacity.getD ∅) overlay.weight update.capacity)
      else update.capacity := by
  rw [updated, overlaysCapacity]
  cases overlay.capacity <;> cases overlay.selected registry nodePool it <;> simp

theorem lookup_storeCapacity (capacity : ResourceList) (weight : Option Int) (stored : Option CapacityUpdate)
    (resource : String) : (storeCapacity capacity weight stored).overlayUpdate.lookup resource =
      (stored.bind (·.overlayUpdate.lookup resource)).or (capacity.lookup resource) := by
  cases stored with
  | none => rfl
  | some update =>
    rw [storeCapacity, Map.lookup_mergeAll]
    cases capacity.lookup resource <;> cases found : update.overlayUpdate.lookup resource <;> simp [found]

theorem exists_price {overlay : NodeOverlay} (priced : pricesText registry nodePool it text overlay = true) :
    ∃ price, overlay.priceText = some price :=
  Option.isSome_iff_exists.mp ((Bool.and_eq_true _ _).mp priced).1

theorem exists_quantity {overlay : NodeOverlay} (set : sets registry nodePool it resource overlay = true) :
    ∃ quantity, overlay.quantity resource = some quantity :=
  Option.isSome_iff_exists.mp ((Bool.and_eq_true _ _).mp set).2

theorem overlaysCapacity_of_sets {overlay : NodeOverlay} (set : sets registry nodePool it resource overlay = true) :
    overlaysCapacity registry nodePool it overlay = true := by
  obtain ⟨selected, given⟩ := (Bool.and_eq_true _ _).mp set
  rw [overlaysCapacity, selected, Bool.true_and]
  cases capacity : overlay.capacity with
  | none =>
    rw [NodeOverlay.quantity, capacity] at given
    cases given
  | some _ => rfl

theorem sets_of_overlaysCapacity {overlay : NodeOverlay}
    (overlaid : overlaysCapacity registry nodePool it overlay = true) :
    sets registry nodePool it resource overlay = (overlay.quantity resource).isSome := by
  rw [sets, ((Bool.and_eq_true _ _).mp overlaid).1, Bool.true_and]

theorem Reflects.step (reflects : Reflects registry nodePool it accepted update) (overlay : NodeOverlay) :
    Reflects registry nodePool it (accepted ++ [overlay])
      (updated overlay (overlay.selected registry nodePool it) update) where
  price := by
    intro text
    have before := reflects.price text
    rw [InstanceTypeUpdate.storedPrice, price_updated, Precedence.first_concat]
    by_cases priced : pricesText registry nodePool it text overlay = true
    · obtain ⟨price, given⟩ := exists_price priced
      rw [if_pos priced, if_pos priced, before, given]
      cases found : accepted.find? (pricesText registry nodePool it text) with
      | none => simp [given]
      | some first =>
        obtain ⟨firstPrice, firstGiven⟩ := exists_price (List.find?_some found)
        simp [firstGiven]
    · rw [if_neg priced, if_neg priced, Option.or_none]
      exact before
  priceWeight := by
    intro text
    rw [price_updated, Precedence.last_concat]
    by_cases priced : pricesText registry nodePool it text overlay = true
    · rw [if_pos priced, if_pos priced]
      rfl
    · rw [if_neg priced, if_neg priced]
      exact reflects.priceWeight text
  capacity := by
    intro resource
    have before := reflects.capacity resource
    rw [InstanceTypeUpdate.storedCapacity, capacity_updated, Precedence.first_concat]
    by_cases overlaid : overlaysCapacity registry nodePool it overlay = true
    · rw [if_pos overlaid, Option.bind_some, lookup_storeCapacity]
      refine (congrArg (Option.or · _) before).trans ?_
      cases found : accepted.find? (sets registry nodePool it resource) with
      | none =>
        rw [Option.bind_none, Option.none_or, Option.none_or, sets_of_overlaysCapacity overlaid]
        cases given : overlay.quantity resource with
        | none => exact given
        | some quantity => exact given.trans given.symm
      | some first =>
        obtain ⟨quantity, given⟩ := exists_quantity (List.find?_some found)
        simp [given]
    · have unset : sets registry nodePool it resource overlay = false := by
        by_contra some_set
        exact overlaid (overlaysCapacity_of_sets (by simpa using some_set))
      rw [if_neg overlaid, unset, if_neg Bool.false_ne_true, Option.or_none]
      exact before
  summary := by
    obtain ⟨stored, capacity, summary⟩ := reflects.summary
    rw [capacity_updated, Precedence.last_concat]
    by_cases overlaid : overlaysCapacity registry nodePool it overlay = true
    · rw [if_pos overlaid, if_pos overlaid, capacity]
      exact ⟨_, rfl, rfl, fun _ => rfl⟩
    · rw [if_neg overlaid, if_neg overlaid]
      exact ⟨stored, capacity, summary⟩

theorem price_entry (store : InstanceTypeStore) (nodePoolName instanceTypeName text : String) :
    ((store.lookup nodePoolName).bind (·.lookup instanceTypeName)).bind (·.price.lookup text) =
      (store.entry nodePoolName instanceTypeName).price.lookup text := by
  rw [entry]
  cases store.lookup nodePoolName with
  | none => rfl
  | some updates => cases found : updates.lookup instanceTypeName <;> simp [found]

variable (reflects : Reflects registry nodePool it accepted (entry store nodePool.name it.name))

include reflects in
theorem offeringConflict_iff (o : Offering) (overlay : NodeOverlay) :
    isOfferingUpdateConflicting store nodePool.name it.name o overlay = true ↔
      ∃ a, last (pricesText registry nodePool it (requirementsText o.requirements)) accepted = some a ∧
        a.weigh = overlay.weigh := by
  have weight := reflects.priceWeight (requirementsText o.requirements)
  rw [isOfferingUpdateConflicting, price_entry]
  cases found : (entry store nodePool.name it.name).price.lookup (requirementsText o.requirements) with
  | none =>
    rw [found, Option.map_none, eq_comm, Option.map_eq_none_iff] at weight
    simp [weight]
  | some update =>
    rw [found, Option.map_some, eq_comm, Option.map_eq_some_iff] at weight
    obtain ⟨a, lastOne, weighs⟩ := weight
    rw [lastOne, decide_eq_true_eq]
    constructor
    · intro same
      exact ⟨a, rfl, weighs.trans same.symm⟩
    · rintro ⟨_, ⟨⟩, same⟩
      exact same.symm.trans weighs

include reflects in
/-- An overlay is noticed that prices something the last time with the same weight. -/
theorem priceConflict_iff (overlay : NodeOverlay) :
    isPriceUpdatesConflicting store nodePool.name it.name (overlay.selected registry nodePool it) overlay = true ↔
      ∃ text, pricesText registry nodePool it text overlay = true ∧
        ∃ a, last (pricesText registry nodePool it text) accepted = some a ∧ a.weigh = overlay.weigh := by
  have unpriced : (overlay.price.isNone && overlay.priceAdjustment.isNone) = overlay.priceText.isNone := by
    rw [NodeOverlay.priceText]
    cases overlay.price <;> rfl
  rw [isPriceUpdatesConflicting, unpriced]
  cases priced : overlay.priceText with
  | none => simp [pricesText, priced]
  | some price =>
    simp only [Option.isNone_some, Bool.false_eq_true, if_false, List.any_eq_true, offeringConflict_iff reflects,
      pricesText, priced, Option.isSome_some, Bool.true_and, decide_eq_true_eq, List.mem_map]
    constructor
    · rintro ⟨o, selected, clash⟩
      exact ⟨_, ⟨o, selected, rfl⟩, clash⟩
    · rintro ⟨_, ⟨o, selected, rfl⟩, clash⟩
      exact ⟨o, selected, clash⟩

theorem capacityUpdateConflict_iff (store : InstanceTypeStore) (nodePoolName instanceTypeName : String)
    (overlay : NodeOverlay) : isCapacityUpdateConflicting store nodePoolName instanceTypeName overlay = true ↔
      ∃ stored, (store.entry nodePoolName instanceTypeName).capacity = some stored ∧
        stored.lowestWeight.getD 0 = overlay.weigh ∧ ∃ resource, (overlay.quantity resource).isSome = true ∧
          (stored.lowestWeightCapacityResources.lookup resource).isSome = true := by
  have missing : ¬ ∃ stored, ({} : InstanceTypeUpdate).capacity = some stored ∧
      stored.lowestWeight.getD 0 = overlay.weigh ∧ ∃ resource, (overlay.quantity resource).isSome = true ∧
        (stored.lowestWeightCapacityResources.lookup resource).isSome = true := by
    rintro ⟨_, ⟨⟩, -, _, -, found⟩
    cases found
  rw [isCapacityUpdateConflicting, entry]
  cases store.lookup nodePoolName with
  | none => exact ⟨nofun, fun found => absurd found missing⟩
  | some updates =>
    rw [Option.bind_some, Option.getD_some]
    cases updates.lookup instanceTypeName with
    | none => exact ⟨nofun, fun found => absurd found missing⟩
    | some update =>
      rw [Option.bind_some, Option.getD_some]
      cases update.capacity with
      | none => exact ⟨nofun, by rintro ⟨_, ⟨⟩, -⟩⟩
      | some stored =>
        simp only [Bool.and_eq_true, decide_eq_true_eq, List.any_eq_true, ← AList.mem_keys, AList.lookup_isSome,
          Option.some.injEq, exists_eq_left', weigh, NodeOverlay.quantity]

include reflects in
/-- Of the overlays that set capacity only the last is compared. -/
theorem capacityConflict_iff (overlay : NodeOverlay) : (overlay.selected registry nodePool it).isEmpty = false ∧
      isCapacityUpdatesConflicting store nodePool.name it.name overlay = true ↔
      ∃ a, last (overlaysCapacity registry nodePool it) accepted = some a ∧ a.weigh = overlay.weigh ∧
        ∃ resource, sets registry nodePool it resource a = true ∧ sets registry nodePool it resource overlay = true := by
  obtain ⟨stored, isStored, summary⟩ := reflects.summary
  rw [isCapacityUpdatesConflicting]
  constructor
  · rintro ⟨selected, conflict⟩
    have given : overlay.capacity.isNone = false := by
      by_contra absent
      rw [if_pos (by simpa using absent)] at conflict
      cases conflict
    rw [if_neg (by simp [given]), capacityUpdateConflict_iff, isStored] at conflict
    obtain ⟨_, ⟨⟩, weighs, resource, set, setBefore⟩ := conflict
    cases lastOne : last (overlaysCapacity registry nodePool it) accepted with
    | none =>
      rw [lastOne, Option.elim_none] at summary
      rw [summary resource] at setBefore
      cases setBefore
    | some a =>
      rw [lastOne, Option.elim_some] at summary
      refine ⟨a, rfl, summary.1.symm.trans weighs, resource, ?_, ?_⟩
      · rw [sets_of_overlaysCapacity (Precedence.mem_of_last lastOne).2, ← summary.2 resource]
        exact setBefore
      · rw [sets, selected, set]
        rfl
  · rintro ⟨a, lastOne, same, resource, setBefore, set⟩
    rw [lastOne, Option.elim_some] at summary
    obtain ⟨selected, quantity⟩ := (Bool.and_eq_true _ _).mp set
    obtain ⟨-, given⟩ := (Bool.and_eq_true _ _).mp (overlaysCapacity_of_sets set)
    rw [Option.isSome_iff_ne_none, ne_eq, ← Option.isNone_iff_eq_none] at given
    rw [if_neg given, capacityUpdateConflict_iff]
    refine ⟨by simpa using selected, stored, isStored, summary.1.trans same, resource, quantity, ?_⟩
    rw [summary.2 resource]
    exact ((Bool.and_eq_true _ _).mp setBefore).2

end Reflects

section Clash

variable (registry : Registry) (nodePools : List NodePool) (accepted : List NodeOverlay) (overlay : NodeOverlay)

/-- An accepted overlay of the same weight prices an offering with the same text. -/
def PriceClash : Prop :=
  ∃ nodePool ∈ nodePools, ∃ it ∈ nodePool.instanceTypes, ∃ text, pricesText registry nodePool it text overlay = true ∧
    ∃ a ∈ accepted, pricesText registry nodePool it text a = true ∧ a.weigh = overlay.weigh

/-- An accepted overlay of the same weight sets the same resource. -/
def CapacityClash : Prop :=
  ∃ nodePool ∈ nodePools, ∃ it ∈ nodePool.instanceTypes, ∃ resource, sets registry nodePool it resource overlay = true ∧
    ∃ a ∈ accepted, sets registry nodePool it resource a = true ∧ a.weigh = overlay.weigh

/-- The overlay that last set capacity of an instance type has the same weight and sets the same resource. -/
def LastClash : Prop :=
  ∃ nodePool ∈ nodePools, ∃ it ∈ nodePool.instanceTypes,
    ∃ a, last (overlaysCapacity registry nodePool it) accepted = some a ∧ a.weigh = overlay.weigh ∧
      ∃ resource, sets registry nodePool it resource a = true ∧ sets registry nodePool it resource overlay = true

/-- A clash of capacities that nothing gives away. -/
def Hidden : Prop :=
  CapacityClash registry nodePools accepted overlay ∧ ¬ PriceClash registry nodePools accepted overlay ∧
    ¬ LastClash registry nodePools accepted overlay

variable {registry nodePools accepted overlay}

theorem selected_of_priceConflict
    (conflict : isPriceUpdatesConflicting store nodePoolName instanceTypeName offerings overlay = true) :
    offerings.isEmpty = false := by
  cases offerings with
  | nil => simp [isPriceUpdatesConflicting] at conflict
  | cons => rfl

theorem validateInstanceType_iff {nodePool : NodePool} {it : InstanceType}
    (descending : Descending weigh (accepted ++ [overlay]))
    (reflects : Reflects registry nodePool it accepted (entry store nodePool.name it.name)) :
    ((overlay.selected registry nodePool it).isEmpty ||
      !(isPriceUpdatesConflicting store nodePool.name it.name (overlay.selected registry nodePool it) overlay ||
        isCapacityUpdatesConflicting store nodePool.name it.name overlay)) = true ↔
      (¬ ∃ text, pricesText registry nodePool it text overlay = true ∧
        ∃ a ∈ accepted, pricesText registry nodePool it text a = true ∧ a.weigh = overlay.weigh) ∧
      ¬ ∃ a, last (overlaysCapacity registry nodePool it) accepted = some a ∧ a.weigh = overlay.weigh ∧
        ∃ resource, sets registry nodePool it resource a = true ∧ sets registry nodePool it resource overlay = true := by
  have priced := priceConflict_iff reflects overlay
  simp only [Precedence.exists_weight_iff descending] at priced
  rw [← capacityConflict_iff reflects, ← priced]
  cases unselected : (overlay.selected registry nodePool it).isEmpty with
  | true =>
    have unpriced : ¬ isPriceUpdatesConflicting store nodePool.name it.name (overlay.selected registry nodePool it)
        overlay = true := by
      intro conflict
      rw [selected_of_priceConflict conflict] at unselected
      cases unselected
    simp [unpriced]
  | false => simp

theorem validate_iff {store : InstanceTypeStore} (descending : Descending weigh (accepted ++ [overlay]))
    (reflects : ∀ nodePool ∈ nodePools, ∀ it ∈ nodePool.instanceTypes,
      Reflects registry nodePool it accepted (entry store nodePool.name it.name)) :
    (nodePools.all fun nodePool => validateInstanceTypesOverride registry store nodePool overlay) = true ↔
      ¬ PriceClash registry nodePools accepted overlay ∧ ¬ LastClash registry nodePools accepted overlay := by
  simp only [validateInstanceTypesOverride, List.all_eq_true]
  constructor
  · intro valid
    constructor
    · rintro ⟨nodePool, inPools, it, inTypes, clash⟩
      exact ((validateInstanceType_iff descending (reflects nodePool inPools it inTypes)).mp
        (valid nodePool inPools it inTypes)).1 clash
    · rintro ⟨nodePool, inPools, it, inTypes, clash⟩
      exact ((validateInstanceType_iff descending (reflects nodePool inPools it inTypes)).mp
        (valid nodePool inPools it inTypes)).2 clash
  · rintro ⟨unpriced, unset⟩ nodePool inPools it inTypes
    exact (validateInstanceType_iff descending (reflects nodePool inPools it inTypes)).mpr
      ⟨fun clash => unpriced ⟨nodePool, inPools, it, inTypes, clash⟩,
        fun clash => unset ⟨nodePool, inPools, it, inTypes, clash⟩⟩

/-- What holds after any number of overlays. -/
structure Tracks (registry : Registry) (nodePools : List NodePool) (progress : Progress) : Prop where
  reflects : ∀ nodePool ∈ nodePools, ∀ it ∈ nodePool.instanceTypes,
    Reflects registry nodePool it progress.accepted (entry progress.store nodePool.name it.name)
  prices : ∀ nodePool ∈ nodePools, ∀ it ∈ nodePool.instanceTypes, ∀ text,
    Exclusive weigh (pricesText registry nodePool it text) progress.accepted

theorem Tracks.start : Tracks registry nodePools {} where
  reflects _ _ _ _ := Reflects.start
  prices _ _ _ _ _ := .nil

theorem exclusive_concat : Exclusive weigh p (accepted ++ [overlay]) ↔ Exclusive weigh p accepted ∧
      ¬ (p overlay = true ∧ ∃ a ∈ accepted, p a = true ∧ a.weigh = overlay.weigh) := by
  rw [Exclusive, List.pairwise_append]
  constructor
  · rintro ⟨exclusive, -, apart⟩
    refine ⟨exclusive, ?_⟩
    rintro ⟨has, a, member, hasToo, same⟩
    exact apart a member overlay (List.mem_singleton_self _) same ⟨hasToo, has⟩
  · rintro ⟨exclusive, apart⟩
    refine ⟨exclusive, List.pairwise_singleton _ _, fun a member b isOverlay same both => apart ?_⟩
    obtain rfl := List.mem_singleton.mp isOverlay
    exact ⟨both.2, a, member, both.1, same⟩

/-- No two accepted overlays of the same weight set the same resource of an instance type. -/
def ExclusiveCapacity (registry : Registry) (nodePools : List NodePool) (accepted : List NodeOverlay) : Prop :=
  ∀ nodePool ∈ nodePools, ∀ it ∈ nodePool.instanceTypes, ∀ resource,
    Exclusive weigh (sets registry nodePool it resource) accepted

theorem exclusiveCapacity_concat : ExclusiveCapacity registry nodePools (accepted ++ [overlay]) ↔
    ExclusiveCapacity registry nodePools accepted ∧ ¬ CapacityClash registry nodePools accepted overlay := by
  simp only [ExclusiveCapacity, exclusive_concat]
  constructor
  · intro exclusive
    refine ⟨fun nodePool inPools it inTypes resource => (exclusive nodePool inPools it inTypes resource).1, ?_⟩
    rintro ⟨nodePool, inPools, it, inTypes, resource, clash⟩
    exact (exclusive nodePool inPools it inTypes resource).2 clash
  · rintro ⟨exclusive, apart⟩ nodePool inPools it inTypes resource
    exact ⟨exclusive nodePool inPools it inTypes resource,
      fun clash => apart ⟨nodePool, inPools, it, inTypes, resource, clash⟩⟩

end Clash

section Run

variable (registry : Registry) (catalog : Catalog) (runtimeValidate : NodeOverlay → Bool)

/-- A valid overlay goes into the store unless a clash is noticed. -/
theorem processOverlay_cases (tracks : Tracks registry catalog.nodePools progress) (overlay : NodeOverlay)
    (descending : Descending weigh (progress.accepted ++ [overlay])) :
    let after := processOverlay registry catalog.nodePools runtimeValidate progress overlay
    Tracks registry catalog.nodePools after ∧
      (after.accepted = progress.accepted ∧ (runtimeValidate overlay = true →
          PriceClash registry catalog.nodePools progress.accepted overlay ∨
            LastClash registry catalog.nodePools progress.accepted overlay) ∨
        after.accepted = progress.accepted ++ [overlay] ∧ runtimeValidate overlay = true ∧
          ¬ PriceClash registry catalog.nodePools progress.accepted overlay ∧
          ¬ LastClash registry catalog.nodePools progress.accepted overlay) := by
  have validated := validate_iff descending tracks.reflects
  rw [processOverlay, validateAndUpdateInstanceTypeOverrides]
  by_cases runs : runtimeValidate overlay = true
  · rw [if_pos runs]
    by_cases valid : (catalog.nodePools.all fun nodePool =>
        validateInstanceTypesOverride registry progress.store nodePool overlay) = true
    · obtain ⟨unpriced, unset⟩ := validated.mp valid
      rw [if_pos valid]
      refine ⟨⟨?_, ?_⟩, .inr ⟨rfl, runs, unpriced, unset⟩⟩
      · intro nodePool inPools it inTypes
        have stored := entry_storeNodePools registry overlay catalog progress.store inPools inTypes
        exact stored ▸ (tracks.reflects nodePool inPools it inTypes).step overlay
      · intro nodePool inPools it inTypes text
        refine exclusive_concat.mpr ⟨tracks.prices nodePool inPools it inTypes text, fun clash => unpriced ?_⟩
        exact ⟨nodePool, inPools, it, inTypes, text, clash⟩
    · rw [if_neg valid]
      rw [validated, not_and_or, not_not, not_not] at valid
      exact ⟨⟨tracks.reflects, tracks.prices⟩, .inl ⟨rfl, fun _ => valid⟩⟩
  · rw [if_neg runs]
    exact ⟨tracks, .inl ⟨rfl, fun valid => absurd valid runs⟩⟩

/-- The loop over overlays that are already ordered. -/
def processAll (overlays : List NodeOverlay) : Progress :=
  overlays.foldl (processOverlay registry catalog.nodePools runtimeValidate) {}

theorem processAll_concat (overlays : List NodeOverlay) (overlay : NodeOverlay) :
    processAll registry catalog runtimeValidate (overlays ++ [overlay]) =
      processOverlay registry catalog.nodePools runtimeValidate
        (processAll registry catalog runtimeValidate overlays) overlay :=
  List.foldl_concat _ _ _ _

/-- None of the overlays, when it is processed, has a hidden clash with those accepted before. -/
def Unhidden (overlays : List NodeOverlay) : Prop :=
  ∀ before overlay after, overlays = before ++ overlay :: after → runtimeValidate overlay = true →
    ¬ Hidden registry catalog.nodePools (processAll registry catalog runtimeValidate before).accepted overlay

variable {registry catalog runtimeValidate}

theorem unhidden_concat {overlay : NodeOverlay} : Unhidden registry catalog runtimeValidate (overlays ++ [overlay]) ↔
      Unhidden registry catalog runtimeValidate overlays ∧ (runtimeValidate overlay = true →
        ¬ Hidden registry catalog.nodePools (processAll registry catalog runtimeValidate overlays).accepted overlay) := by
  refine Trace.each_append.trans (and_congr_right fun _ => ?_)
  rw [Trace.each_singleton, List.append_nil]

/-- Over the whole run, capacities clash exactly if one overlay was let in with a hidden clash. -/
theorem processAll_spec (descending : Descending weigh overlays) :
    (processAll registry catalog runtimeValidate overlays).accepted.Sublist overlays ∧
      Tracks registry catalog.nodePools (processAll registry catalog runtimeValidate overlays) ∧
      (ExclusiveCapacity registry catalog.nodePools (processAll registry catalog runtimeValidate overlays).accepted ↔
        Unhidden registry catalog runtimeValidate overlays) := by
  induction overlays using List.reverseRecOn with
  | nil =>
    refine ⟨.slnil, Tracks.start, ⟨fun _ before overlay after split => ?_, fun _ _ _ _ _ _ => .nil⟩⟩
    simp at split
  | append_singleton earlier overlay ih =>
    obtain ⟨sublist, tracks, exclusive⟩ := ih (List.pairwise_append.mp descending).1
    have ordered : Descending weigh
        ((processAll registry catalog runtimeValidate earlier).accepted ++ [overlay]) :=
      descending.sublist (sublist.append_right _)
    obtain ⟨stillTracks, ⟨same, noticed⟩ | ⟨grown, runs, unpriced, unset⟩⟩ :=
      processOverlay_cases registry catalog runtimeValidate tracks overlay ordered
    all_goals rw [processAll_concat, unhidden_concat, ← exclusive]
    · refine ⟨same ▸ sublist.trans (List.sublist_append_left _ _), stillTracks, ?_⟩
      rw [same]
      refine (and_iff_left fun runs hidden => ?_).symm
      rcases noticed runs with priced | set
      · exact hidden.2.1 priced
      · exact hidden.2.2 set
    · refine ⟨grown ▸ sublist.append_right _, stillTracks, ?_⟩
      rw [grown, exclusiveCapacity_concat]
      refine and_congr_right fun _ => ⟨fun apart _ hidden => apart hidden.1, fun open_ clash => ?_⟩
      exact open_ runs ⟨clash, unpriced, unset⟩

theorem comesFirst_trans (a b c : NodeOverlay) (first : comesFirst a b = true) (second : comesFirst b c = true) :
    comesFirst a c = true := by
  simp only [comesFirst] at *
  grind

theorem comesFirst_total (a b : NodeOverlay) : (comesFirst a b || comesFirst b a) = true := by
  simp only [comesFirst]
  grind

theorem orderByWeight_descending (overlays : List NodeOverlay) : Descending weigh (orderByWeight overlays) := by
  refine (List.pairwise_mergeSort comesFirst_trans comesFirst_total overlays).imp fun {a b} first => ?_
  rw [comesFirst] at first
  rw [weigh, weigh]
  split at first
  · rename_i same
    exact same.ge
  · exact (of_decide_eq_true first).le

end Run

section Resolves

variable (registry : Registry) (catalog : Catalog) (runtimeValidate : NodeOverlay → Bool)

/-- No two accepted overlays of the same weight set the same thing, and what is stored comes from the accepted overlay
of the highest weight that sets it. -/
structure Resolves (progress : Progress) : Prop where
  exclusivePrice : ∀ nodePool ∈ catalog.nodePools, ∀ it ∈ nodePool.instanceTypes, ∀ o ∈ it.offerings,
    Exclusive weigh (prices registry nodePool it o) progress.accepted
  exclusiveCapacity : ExclusiveCapacity registry catalog.nodePools progress.accepted
  price : ∀ nodePool ∈ catalog.nodePools, ∀ it ∈ nodePool.instanceTypes, ∀ o ∈ it.offerings, ∀ price,
    (entry progress.store nodePool.name it.name).storedPrice (requirementsText o.requirements) = some price ↔
      ∃ a, Highest weigh (prices registry nodePool it o) progress.accepted a ∧ a.priceText = some price
  capacity : ∀ nodePool ∈ catalog.nodePools, ∀ it ∈ nodePool.instanceTypes, ∀ resource quantity,
    (entry progress.store nodePool.name it.name).storedCapacity resource = some quantity ↔
      ∃ a, Highest weigh (sets registry nodePool it resource) progress.accepted a ∧
        a.quantity resource = some quantity

/-- Pricing by text agrees with pricing by offering: the first accepted overlay that prices an offering with the text
of this one sets the price that the first accepted overlay that prices this one sets. -/
def TellsApart (accepted : List NodeOverlay) : Prop :=
  ∀ nodePool ∈ catalog.nodePools, ∀ it ∈ nodePool.instanceTypes, ∀ o ∈ it.offerings,
    (accepted.find? (pricesText registry nodePool it (requirementsText o.requirements))).bind NodeOverlay.priceText =
      (accepted.find? (prices registry nodePool it o)).bind NodeOverlay.priceText

variable {registry catalog runtimeValidate}

theorem pricesText_of_prices {nodePool : NodePool} {it : InstanceType} {o : Offering} {overlay : NodeOverlay}
    (priced : prices registry nodePool it o overlay = true) :
    pricesText registry nodePool it (requirementsText o.requirements) overlay = true := by
  obtain ⟨given, selected⟩ := (Bool.and_eq_true _ _).mp priced
  rw [pricesText, given, Bool.true_and, decide_eq_true_eq]
  exact List.mem_map_of_mem (of_decide_eq_true selected)

/-- It is enough that offerings with the same text have the same requirements. -/
theorem tellsApart_of_texts (texts : ∀ nodePool ∈ catalog.nodePools, ∀ it ∈ nodePool.instanceTypes,
    Set.InjOn requirementsText { r | r ∈ it.offerings.map (·.requirements) }) (accepted : List NodeOverlay) :
    TellsApart registry catalog accepted := by
  intro nodePool inPools it inTypes o inOfferings
  have same : pricesText registry nodePool it (requirementsText o.requirements) = prices registry nodePool it o := by
    funext overlay
    refine Bool.eq_iff_iff.mpr ⟨fun priced => ?_, pricesText_of_prices⟩
    simp only [pricesText, prices, Bool.and_eq_true, decide_eq_true_eq, List.mem_map] at priced ⊢
    obtain ⟨given, o', selected, text⟩ := priced
    refine ⟨given, ?_⟩
    simp only [NodeOverlay.selected, getOverlaidOfferings] at selected ⊢
    split at selected
    · obtain ⟨listed, fits⟩ := List.mem_filter.mp selected
      have equal := texts nodePool inPools it inTypes (List.mem_map_of_mem listed) (List.mem_map_of_mem inOfferings) text
      rw [if_pos (by assumption)]
      exact List.mem_filter.mpr ⟨inOfferings, equal ▸ fits⟩
    · cases selected
  rw [same]

theorem exclusive_prices {progress : Progress} (tracks : Tracks registry catalog.nodePools progress)
    {nodePool : NodePool} (inPools : nodePool ∈ catalog.nodePools) {it : InstanceType}
    (inTypes : it ∈ nodePool.instanceTypes) (o : Offering) :
    Exclusive weigh (prices registry nodePool it o) progress.accepted :=
  (tracks.prices nodePool inPools it inTypes (requirementsText o.requirements)).imp fun apart same both =>
    apart same (both.imp pricesText_of_prices pricesText_of_prices)

theorem resolves_iff (tracks : Tracks registry catalog.nodePools progress)
    (descending : Descending weigh progress.accepted) : Resolves registry catalog progress ↔
      ExclusiveCapacity registry catalog.nodePools progress.accepted ∧ TellsApart registry catalog progress.accepted := by
  constructor
  · intro resolves
    refine ⟨resolves.exclusiveCapacity, fun nodePool inPools it inTypes o inOfferings => Option.ext fun price => ?_⟩
    rw [← (tracks.reflects nodePool inPools it inTypes).price]
    exact (resolves.price nodePool inPools it inTypes o inOfferings price).trans
      (Precedence.first_value_iff descending (exclusive_prices tracks inPools inTypes o) _ price).symm
  · rintro ⟨exclusive, apart⟩
    refine ⟨fun nodePool inPools it inTypes o _ => exclusive_prices tracks inPools inTypes o, exclusive, ?_, ?_⟩
    · intro nodePool inPools it inTypes o inOfferings price
      rw [(tracks.reflects nodePool inPools it inTypes).price, apart nodePool inPools it inTypes o inOfferings]
      exact Precedence.first_value_iff descending (exclusive_prices tracks inPools inTypes o) _ price
    · intro nodePool inPools it inTypes resource quantity
      rw [(tracks.reflects nodePool inPools it inTypes).capacity]
      exact Precedence.first_value_iff descending (exclusive nodePool inPools it inTypes resource) _ quantity

/-- A reconcile resolves the overlays by weight exactly if no overlay is let in with a hidden clash and no two
offerings that overlays price differently read the same. -/
theorem reconcile_resolves_iff (registry : Registry) (catalog : Catalog) (runtimeValidate : NodeOverlay → Bool)
    (overlays : List NodeOverlay) :
    Resolves registry catalog (reconcile registry catalog.nodePools runtimeValidate overlays) ↔
      Unhidden registry catalog runtimeValidate (orderByWeight overlays) ∧
        TellsApart registry catalog (reconcile registry catalog.nodePools runtimeValidate overlays).accepted := by
  have descending := orderByWeight_descending overlays
  have run : reconcile registry catalog.nodePools runtimeValidate overlays =
    processAll registry catalog runtimeValidate (orderByWeight overlays) := rfl
  obtain ⟨sublist, tracks, exclusive⟩ := @processAll_spec registry catalog runtimeValidate _ descending
  rw [run, resolves_iff tracks (descending.sublist sublist), exclusive]

def plainType : InstanceType where
  name := "m5.large"
  requirements := Scheduling.Requirements.empty
  offerings := [{ requirements := Scheduling.Requirements.empty, price := 1 }]
  capacity := AList.insert "cpu" 2 ∅
  nonneg := Resources.nonneg_two_cores

/-- One instance type with one offering, in one NodePool. -/
def plainCatalog : Catalog where
  nodePools := [{ name := "default", instanceTypes := [plainType] }]
  distinctNodePools := List.nodup_singleton _
  distinctInstanceTypes := List.forall_mem_singleton.mpr (List.nodup_singleton _)

def capacityOverlay (name resource : String) (quantity : Quantity) : NodeOverlay where
  name := name
  capacity := some (AList.insert resource quantity ∅)
  weight := some 10

def plainReconcile (overlays : List NodeOverlay) : Progress :=
  reconcile ⟨∅, "reservation-id", []⟩ plainCatalog.nodePools (fun _ => true) overlays

theorem plainReconcile_of_ordered (ordered : overlays.Pairwise (comesFirst · ·)) : plainReconcile overlays =
      overlays.foldl (processOverlay ⟨∅, "reservation-id", []⟩ plainCatalog.nodePools fun _ => true) {} := by
  rw [plainReconcile, reconcile, orderByWeight, List.mergeSort_of_pairwise ordered]

/-- Two overlays of one weight that set the same resource. -/
def clashingOverlays : List NodeOverlay :=
  [capacityOverlay "c" "hugepages-1Gi" 3, capacityOverlay "a" "hugepages-1Gi" 2]

/-- The same with another overlay, of another resource, between them. -/
def interruptedOverlays : List NodeOverlay :=
  [capacityOverlay "c" "hugepages-1Gi" 3, capacityOverlay "b" "smarter-devices/fuse" 1,
    capacityOverlay "a" "hugepages-1Gi" 2]

/-- The two overlays conflict, unless the third comes between them. -/
theorem reconcile_resolves_interrupted : (plainReconcile clashingOverlays).overlaysWithConflict = ["a"] ∧
      (plainReconcile interruptedOverlays).overlaysWithConflict = [] ∧
      ¬ Resolves ⟨∅, "reservation-id", []⟩ plainCatalog (plainReconcile interruptedOverlays) := by
  rw [plainReconcile_of_ordered (by decide +kernel : clashingOverlays.Pairwise (comesFirst · ·)),
    plainReconcile_of_ordered (by decide +kernel : interruptedOverlays.Pairwise (comesFirst · ·))]
  refine ⟨by decide +kernel, by decide +kernel, fun resolves => ?_⟩
  have exclusive := resolves.exclusiveCapacity _ List.mem_cons_self _ List.mem_cons_self "hugepages-1Gi"
  rw [Exclusive] at exclusive
  revert exclusive
  decide +kernel

end Resolves

end Karpenter.Overlay
