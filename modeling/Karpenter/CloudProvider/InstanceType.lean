import Karpenter.Resources.ResourceList
import Karpenter.Scheduling.Requirements
import Mathlib.Data.Finset.Max
import Mathlib.Data.List.Sort
import Mathlib.Data.String.Basic

/-! Instance types and their offerings: the allocatable resources of every offering, which offerings can
be launched, and the minimum-values test. Prices are exact. An instance type is compared by value where
the source compares pointers. Overlays, device sets and cached copies are left out. -/
namespace Karpenter.CloudProvider

open Go (Map)
open Resources
open Scheduling (Requirement Requirements newRequirement)

def capacityTypeLabelKey : String := "karpenter.sh/capacity-type"
def capacityTypeSpot : String := "spot"
def capacityTypeOnDemand : String := "on-demand"
def capacityTypeReserved : String := "reserved"

/-- What a cloud provider registers at startup. -/
structure Registry where
  wellKnownLabels : Finset String
  reservationIDLabel : String
  additionalCapacityTypes : List String := []

inductive CapacityTypeClass where
  | reserved
  | spot
  | onDemand
  deriving DecidableEq

/-- Every additional capacity type belongs to the on-demand class. -/
def Registry.capacityTypesOf (registry : Registry) : CapacityTypeClass → List String
  | .reserved => [capacityTypeReserved]
  | .spot => [capacityTypeSpot]
  | .onDemand => capacityTypeOnDemand :: registry.additionalCapacityTypes

def Registry.capacityTypeClassRequirements (registry : Registry) (class_ : CapacityTypeClass) :
    Requirements :=
  Requirements.newRequirements [newRequirement capacityTypeLabelKey .opIn
    (registry.capacityTypesOf class_)]

def capacityTypeClassPrecedence : List CapacityTypeClass := [.reserved, .spot, .onDemand]

structure InstanceTypeOverhead where
  kubeReserved : ResourceList := ∅
  systemReserved : ResourceList := ∅
  evictionThreshold : ResourceList := ∅
  deriving DecidableEq

def InstanceTypeOverhead.total (o : InstanceTypeOverhead) : ResourceList :=
  merge [o.kubeReserved, o.systemReserved, o.evictionThreshold]

structure Offering where
  requirements : Requirements
  price : ℚ
  available : Bool := true
  reservationCapacity : Int := 0
  capacityOverride : ResourceList := ∅
  overheadOverride : Option InstanceTypeOverhead := none
  deriving DecidableEq

/-- One admitted value. Go ranges over a set and draws a random integer; the least value and the lower
bound stand for the choice, so results about it assume a single value. -/
def anyValue (r : Requirement) : String :=
  match r.operator with
  | .opIn => r.values.min.elim "" fun value => value
  | .opNotIn | .opExists => Go.formatInt (r.gte.getD 0)
  | _ => ""

namespace Offering

def capacityType (o : Offering) : String := anyValue (o.requirements.get capacityTypeLabelKey)

def reservationID (registry : Registry) (o : Offering) : String :=
  anyValue (o.requirements.get registry.reservationIDLabel)

/-- A reserved offering needs remaining reservation capacity besides being healthy. -/
def launchable (o : Offering) : Bool :=
  o.available &&
    match o.requirements.get? capacityTypeLabelKey with
    | none => true
    | some req => !req.has capacityTypeReserved || decide (0 < o.reservationCapacity)

end Offering

structure InstanceType where
  name : String
  requirements : Requirements
  offerings : List Offering
  capacity : ResourceList
  volumeAttachmentLimits : Map String Int := ∅
  overhead : InstanceTypeOverhead := {}
  nonneg : Nonneg capacity
  deriving DecidableEq

/-- Allocatable resources with the offerings that produce them. -/
structure AllocatableOfferings where
  allocatable : ResourceList
  offerings : List Offering

/-- The overrides by which offerings are grouped; `none` for an offering without any. -/
def Offering.overrideKey (o : Offering) : Option (ResourceList × Option InstanceTypeOverhead) :=
  if o.capacityOverride.entries.isEmpty && o.overheadOverride.isNone then none
  else some (o.capacityOverride, o.overheadOverride)

def isHugePages (name : String) : Bool := "hugepages-".toList.isPrefixOf name.toList

variable (i : InstanceType)

namespace InstanceType

/-- Huge pages are taken out of the allocatable memory, which does not go below zero. -/
def computeAllocatable (capacityOverride : ResourceList) (overheadOverride : Option InstanceTypeOverhead) :
    ResourceList :=
  let capacity := if capacityOverride.entries.isEmpty then i.capacity else assign i.capacity capacityOverride
  let overhead := match overheadOverride with
    | none => i.overhead.total
    | some override => assign i.overhead.total override.total
  capacity.entries.foldl (fun allocatable entry =>
    if isHugePages entry.1 then
      let current := amount allocatable "memory" - entry.2
      allocatable.insert "memory" (if current < 0 then 0 else current)
    else allocatable) (subtract capacity overhead)

/-- What an offering leaves allocatable with its own overrides. -/
def allocatableFor (o : Offering) : ResourceList :=
  i.computeAllocatable o.capacityOverride o.overheadOverride

end InstanceType

/-- Groups in the order in which their first offering appears. -/
def addToGroup (o : Offering) :
    List (Option (ResourceList × Option InstanceTypeOverhead) × List Offering) →
      List (Option (ResourceList × Option InstanceTypeOverhead) × List Offering)
  | [] => [(o.overrideKey, [o])]
  | (key, offerings) :: rest =>
    if key = o.overrideKey then (key, offerings ++ [o]) :: rest
    else (key, offerings) :: addToGroup o rest

namespace InstanceType

/-- The first group is the base one, even when it has no offering. -/
def groupOfferingsByOverride : List AllocatableOfferings :=
  let groups := (i.offerings.filter (·.available)).foldl (fun groups o => addToGroup o groups) [(none, [])]
  groups.map fun (key, offerings) =>
    match key, offerings with
    | some _, o :: _ => ⟨i.allocatableFor o, offerings⟩
    | _, _ => ⟨i.computeAllocatable ∅ none, offerings⟩

def allocatableOfferingsList : List AllocatableOfferings :=
  if i.offerings.any fun o => !o.capacityOverride.entries.isEmpty || o.overheadOverride.isSome then
    i.groupOfferingsByOverride
  else [⟨i.computeAllocatable ∅ none, i.offerings.filter (·.available)⟩]

end InstanceType

theorem perm_addToGroup (o : Offering) : ((addToGroup o groups).flatMap (·.2)).Perm (groups.flatMap (·.2) ++ [o]) := by
  induction groups with
  | nil => exact .refl _
  | cons group rest ih =>
    unfold addToGroup
    split
    · rw [List.flatMap_cons, List.flatMap_cons, List.append_assoc, List.append_assoc]
      exact List.perm_append_comm.append_left _
    · rw [List.flatMap_cons, List.flatMap_cons, List.append_assoc]
      exact ih.append_left _

theorem keyed_addToGroup (o : Offering) (keyed : ∀ group ∈ groups, ∀ x ∈ group.2, x.overrideKey = group.1) :
    ∀ group ∈ addToGroup o groups, ∀ x ∈ group.2, x.overrideKey = group.1 := by
  induction groups with
  | nil =>
    intro group member x inGroup
    rw [List.mem_singleton.mp member] at inGroup ⊢
    rw [List.mem_singleton.mp inGroup]
  | cons group rest ih =>
    obtain ⟨key, offerings⟩ := group
    obtain ⟨first, later⟩ := List.forall_mem_cons.mp keyed
    unfold addToGroup
    split
    · rename_i same
      refine List.forall_mem_cons.mpr ⟨fun x member => ?_, later⟩
      rcases List.mem_append.mp member with before | here
      · exact first x before
      · rw [List.mem_singleton.mp here]
        exact same.symm
    · exact List.forall_mem_cons.mpr ⟨first, ih later⟩

theorem perm_foldl_addToGroup (offerings : List Offering) :
    ((offerings.foldl (fun groups o => addToGroup o groups) groups).flatMap (·.2)).Perm
      (groups.flatMap (·.2) ++ offerings) := by
  induction offerings generalizing groups with
  | nil => rw [List.append_nil, List.foldl_nil]
  | cons o rest ih =>
    rw [List.append_cons]
    exact ih.trans ((perm_addToGroup o).append_right rest)

theorem keyed_foldl_addToGroup (offerings : List Offering)
    (groups : List (Option (ResourceList × Option InstanceTypeOverhead) × List Offering))
    (keyed : ∀ group ∈ groups, ∀ x ∈ group.2, x.overrideKey = group.1) :
    ∀ group ∈ offerings.foldl (fun groups o => addToGroup o groups) groups, ∀ x ∈ group.2, x.overrideKey = group.1 := by
  induction offerings generalizing groups with
  | nil => exact keyed
  | cons o rest ih => exact ih _ (keyed_addToGroup o keyed)

namespace InstanceType

theorem allocatableFor_of_overrideKey {i : InstanceType} {o : Offering} (plain : o.overrideKey = none) :
    i.allocatableFor o = i.computeAllocatable ∅ none := by
  unfold Offering.overrideKey at plain
  split at plain
  · rename_i base
    rw [Bool.and_eq_true, Option.isNone_iff_eq_none] at base
    unfold allocatableFor computeAllocatable
    rw [base.1, base.2]
    rfl
  · cases plain

theorem map_offerings_groupOfferingsByOverride : i.groupOfferingsByOverride.map (·.offerings) =
      ((i.offerings.filter (·.available)).foldl (fun groups o => addToGroup o groups) [(none, [])]).map (·.2) := by
  rw [groupOfferingsByOverride, List.map_map]
  refine List.map_congr_left fun group _ => ?_
  dsimp only [Function.comp]
  split <;> rfl

theorem perm_allocatableOfferings :
    (i.allocatableOfferingsList.flatMap (·.offerings)).Perm (i.offerings.filter (·.available)) := by
  unfold allocatableOfferingsList
  split
  · rw [List.flatMap_def, map_offerings_groupOfferingsByOverride, ← List.flatMap_def]
    exact perm_foldl_addToGroup _
  · simp

theorem mem_allocatableOfferings (o : Offering) :
    (∃ group ∈ i.allocatableOfferingsList, o ∈ group.offerings) ↔ o ∈ i.offerings ∧ o.available = true := by
  rw [← List.mem_flatMap, i.perm_allocatableOfferings.mem_iff, List.mem_filter]

theorem allocatable_of_mem {i : InstanceType} {group : AllocatableOfferings}
    (member : group ∈ i.allocatableOfferingsList) (inGroup : o ∈ group.offerings) :
    group.allocatable = i.allocatableFor o := by
  unfold allocatableOfferingsList at member
  split at member
  · have keyed := keyed_foldl_addToGroup (i.offerings.filter (·.available)) [(none, [])] (by simp)
    obtain ⟨⟨key, offerings⟩, inGroups, rfl⟩ := List.mem_map.mp member
    have keys := keyed _ inGroups
    cases key with
    | none => exact (allocatableFor_of_overrideKey (keys o inGroup)).symm
    | some overrides =>
      cases offerings with
      | nil => cases inGroup
      | cons first rest =>
        have same : first.overrideKey = o.overrideKey :=
          (keys first List.mem_cons_self).trans (keys o inGroup).symm
        have found := keys o inGroup
        rw [← same] at found
        unfold Offering.overrideKey at same found
        split at found
        · cases found
        · rw [if_neg ‹_›] at same
          split at same
          · cases same
          · obtain ⟨capacity, overhead⟩ := Prod.mk.inj (Option.some.inj same)
            show i.allocatableFor first = i.allocatableFor o
            unfold allocatableFor
            rw [capacity, overhead]
  · rename_i plain
    rw [List.mem_singleton.mp member] at inGroup ⊢
    refine (allocatableFor_of_overrideKey ?_).symm
    have base : ¬ ((!o.capacityOverride.entries.isEmpty || o.overheadOverride.isSome) = true) := by
      intro overridden
      exact plain (List.any_eq_true.mpr ⟨o, List.mem_of_mem_filter inGroup, overridden⟩)
    unfold Offering.overrideKey
    rw [if_pos]
    simpa using base

end InstanceType

def compatibleOfferings (registry : Registry) (ofs : List Offering) (reqs : Requirements) : List Offering :=
  ofs.filter fun o => reqs.isCompatible o.requirements registry.wellKnownLabels

def hasCompatible (registry : Registry) (ofs : List Offering) (reqs : Requirements) : Bool :=
  ofs.any fun o => reqs.isCompatible o.requirements registry.wellKnownLabels

/-- The first offering of the highest price. -/
def mostExpensive : List Offering → Option Offering
  | [] => none
  | first :: rest => some (rest.foldl (fun worst o => if worst.price < o.price then o else worst) first)

/-- The worst price of the first capacity type class with a compatible offering; `none` stands for the
largest float, which no price reaches. -/
def worstLaunchPrice (registry : Registry) (ofs : List Offering) (reqs : Requirements) : Option ℚ :=
  capacityTypeClassPrecedence.findSome? fun class_ =>
    (mostExpensive (compatibleOfferings registry (compatibleOfferings registry ofs reqs)
      (registry.capacityTypeClassRequirements class_))).map (·.price)

def launchableOfferings (ofs : List Offering) : List Offering := ofs.filter (·.launchable)

def hasCapacityTypeClass (registry : Registry) (requirement : Requirement) (class_ : CapacityTypeClass) : Bool :=
  (registry.capacityTypesOf class_).any fun capacityType => requirement.has capacityType

/-- The least of two launch prices, of which `none` is the largest float. -/
def cheaper : Option ℚ → ℚ → Option ℚ
  | none, price => some price
  | some best, price => some (if price < best then price else best)

/-- The price of the cheapest offering that can be launched under the requirements. -/
def cheapestLaunchPrice (registry : Registry) (it : InstanceType) (reqs : Requirements) : Option ℚ :=
  (compatibleOfferings registry (launchableOfferings it.offerings) reqs).foldl
    (fun price o => cheaper price o.price) none

def priceLE : Option ℚ → Option ℚ → Prop
  | _, none => True
  | none, some _ => False
  | some a, some b => a ≤ b

instance : DecidableRel priceLE := fun a b => by
  cases a <;> cases b <;> unfold priceLE <;> infer_instance

/-- Equal prices keep their order here, while the sort of the source is unstable. -/
def orderByPrice (registry : Registry) (its : List InstanceType) (reqs : Requirements) : List InstanceType :=
  its.insertionSort fun a b => priceLE (cheapestLaunchPrice registry a reqs) (cheapestLaunchPrice registry b reqs)

def compatibleInstanceTypes (registry : Registry) (its : List InstanceType) (reqs : Requirements) :
    List InstanceType :=
  its.filter fun it => hasCompatible registry (it.offerings.filter (·.available)) reqs

theorem price_le_mostExpensive (found : mostExpensive ofs = some worst) (member : o ∈ ofs) : o.price ≤ worst.price := by
  cases ofs with
  | nil => cases member
  | cons first rest =>
    have dearer (bound : ℚ) (worst o : Offering) :
        (if worst.price < o.price then o else worst).price ≤ bound ↔ worst.price ≤ bound ∧ o.price ≤ bound := by
      split
      · rename_i more
        exact ⟨fun le => ⟨more.le.trans le, le⟩, And.right⟩
      · rename_i less
        exact ⟨fun le => ⟨le, (not_lt.mp less).trans le⟩, And.left⟩
    obtain ⟨start, bounded⟩ := (Go.foldl_iff (P := fun o => o.price ≤ worst.price) (dearer _) rest first).mp
      (Option.some.inj found ▸ le_rfl)
    rcases List.mem_cons.mp member with rfl | later
    · exact start
    · exact bounded o later

/-- What the instance types seen so far offer for the keys with a minimum. -/
structure MinValuesState where
  valuesForKey : Map String (Finset String) := ∅
  incompatibleKeys : Map String Nat := ∅

/-- Only values the requirement admits are counted. -/
def MinValuesState.count (requirements : Requirements) (state : MinValuesState) (it : InstanceType) :
    MinValuesState :=
  let valuesForKey := (requirements.values.filter (·.minValues.isSome)).foldl (fun valuesForKey req =>
    valuesForKey.insert req.key (((valuesForKey.lookup req.key).getD ∅) ∪
      ((it.requirements.get req.key).values.filter fun value => req.has value = true))) state.valuesForKey
  { valuesForKey
    incompatibleKeys := valuesForKey.entries.foldl (fun incompatible entry =>
      if (entry.2.card : Int) < (requirements.get entry.1).minValues.getD 0 then
        incompatible.insert entry.1 entry.2.card
      else incompatible.erase entry.1) state.incompatibleKeys }

/-- The number of instance types needed, and the keys whose minimum is missed. -/
def satisfiesMinValuesFrom (requirements : Requirements) :
    List InstanceType → Nat → MinValuesState → Nat × Map String Nat
  | [], seen, state => (seen, state.incompatibleKeys)
  | it :: rest, seen, state =>
    let next := state.count requirements it
    if next.incompatibleKeys.entries.isEmpty then (seen + 1, ∅)
    else satisfiesMinValuesFrom requirements rest (seen + 1) next

/-- The result is an error exactly when a key is returned. -/
def satisfiesMinValues (its : List InstanceType) (requirements : Requirements) : Nat × Map String Nat :=
  if requirements.hasMinValues then satisfiesMinValuesFrom requirements its 0 {} else (0, ∅)

/-- `none` when the cheapest instance types miss a minimum, unless minimums are best effort. -/
def truncate (registry : Registry) (its : List InstanceType) (reqs : Requirements) (maxItems : Nat)
    (bestEffort : Bool) : Option (List InstanceType) :=
  let truncated := (orderByPrice registry its reqs).take maxItems
  if !bestEffort && !(satisfiesMinValues truncated reqs).2.entries.isEmpty then none else some truncated

theorem mem_orderByPrice : it ∈ orderByPrice registry its reqs ↔ it ∈ its :=
  (List.perm_insertionSort _ its).mem_iff

theorem truncate_subset (ok : truncate registry its reqs maxItems bestEffort = some truncated) : truncated ⊆ its := by
  simp only [truncate] at ok
  split at ok
  · cases ok
  · cases ok
    exact fun it member => mem_orderByPrice.mp (List.mem_of_mem_take member)

/-- An instance type with one offering, on demand, and the given number of cores. -/
def coresType (name : String) (cores : Nat) (requirements : Requirements := Requirements.empty) : InstanceType where
  name := name
  requirements := requirements
  offerings := [{
    requirements := Requirements.newRequirements [newRequirement capacityTypeLabelKey .opIn [capacityTypeOnDemand]]
    price := 1 }]
  capacity := AList.insert "cpu" (cores : Quantity) ∅
  nonneg := nonneg_single "cpu" (Nat.cast_nonneg cores)

end Karpenter.CloudProvider
