import Karpenter.Overlay.Store

/-! Applying the stored updates to an instance type. The copy shares what no overlay changes; an offering that is
overlaid is copied field by field, without the overrides of its capacity and overhead. The marks that tell an overlaid
price or capacity are left out. -/
namespace Karpenter.Overlay

open Go (Map)
open CloudProvider (Offering InstanceType InstanceTypeOverhead)
open Resources (ResourceList assign)
open Scheduling

/-- An instance type with all that the cloud provider reports of it. Its capacity may be one that an overlay set. -/
structure ReportedInstanceType (δ : Type u) (β : Type v) where
  name : String
  requirements : Requirements
  offerings : List Offering
  capacity : ResourceList
  volumeAttachmentLimits : Map String Int := ∅
  dynamicResources : List δ := []
  attributeBindings : List β := []
  overhead : InstanceTypeOverhead := {}
deriving DecidableEq

/-- What scheduling sees of it. -/
def ReportedInstanceType.instanceType (it : ReportedInstanceType δ β) (nonneg : Resources.Nonneg it.capacity) :
    InstanceType where
  name := it.name
  requirements := it.requirements
  offerings := it.offerings
  capacity := it.capacity
  volumeAttachmentLimits := it.volumeAttachmentLimits
  overhead := it.overhead
  nonneg := nonneg

section Apply

-- The numbers of the overlays are read by the library; a text that is no number makes the caller panic.
variable (parseFloat : String → Option ℚ)

def stringsHasPrefix (s p : String) : Bool := p.toList.isPrefixOf s.toList

def adjustedPrice (instanceTypePrice : ℚ) (change : String) : Option ℚ :=
  if change = "" then some instanceTypePrice
  else if !stringsHasPrefix change "+" && !stringsHasPrefix change "-" then parseFloat change
  else
    let adjusted := if change.toList.getLast? = some '%'
      then (parseFloat (String.ofList change.toList.dropLast)).map fun adjustment =>
        instanceTypePrice * (1 + adjustment / 100)
      else (parseFloat change).map fun adjustment => instanceTypePrice + adjustment
    adjusted.map fun price => if 0 ≤ price then price else 0

/-- The copy is made from four of the fields. -/
def applyPriceOverlay (offering : Offering) (updatedPrice : String) : Option Offering :=
  let copiedOffering : Offering := {
    requirements := offering.requirements
    price := offering.price
    available := offering.available
    reservationCapacity := offering.reservationCapacity }
  (adjustedPrice parseFloat copiedOffering.price updatedPrice).map fun price => { copiedOffering with price }

def applyPriceOverlays (offerings : List Offering) (priceUpdates : Map String PriceUpdate) : Option (List Offering) :=
  offerings.mapM fun offering =>
    match priceUpdates.lookup (requirementsText offering.requirements) with
    | some overlay => applyPriceOverlay parseFloat offering overlay.overlayUpdate
    | none => some offering

/-- A stored update without a capacity makes the caller panic. -/
def applyUpdate (update : InstanceTypeUpdate) (it : ReportedInstanceType δ β) : Option (ReportedInstanceType δ β) :=
  update.capacity.bind fun capacity =>
    (if update.price.entries.length ≠ 0 then applyPriceOverlays parseFloat it.offerings update.price
      else some it.offerings).map fun offerings =>
      { it with
        capacity := if capacity.overlayUpdate.entries.length ≠ 0 then assign it.capacity capacity.overlayUpdate
          else it.capacity
        offerings }

/-- The update that is stored for the instance type in the NodePool. -/
def InstanceTypeStore.update? (store : InstanceTypeStore) (nodePoolName : String) (it : ReportedInstanceType δ β) :
    Option InstanceTypeUpdate :=
  (store.lookup nodePoolName).bind (·.lookup it.name)

def InstanceTypeStore.apply (store : InstanceTypeStore) (nodePoolName : String) (it : ReportedInstanceType δ β) :
    Option (ReportedInstanceType δ β) :=
  match store.update? nodePoolName it with
  | none => some it
  | some update => applyUpdate parseFloat update it

end Apply

/-- The offering is the same but for its price, and that changes only if it is overlaid. -/
structure KeepsOffering (overlaid : Offering → Bool) (o o' : Offering) : Prop where
  rest : { o' with price := o.price } = o
  price : overlaid o = false → o'.price = o.price

/-- Every available offering is paired with the allocatable resources it was paired with before. -/
def KeepsAllocatable (i i' : InstanceType) : Prop :=
  List.Forall₂ (fun o o' => ∀ group ∈ i.allocatableOfferingsList, o ∈ group.offerings →
    ∃ group' ∈ i'.allocatableOfferingsList, o' ∈ group'.offerings ∧ group'.allocatable = group.allocatable)
    i.offerings i'.offerings

section Frame

variable {δ : Type u} {β : Type v} (store : InstanceTypeStore) (nodePoolName : String)

/-- The offerings of the instance type that have a stored price. -/
def InstanceTypeStore.overlaid (it : ReportedInstanceType δ β) (o : Offering) : Bool :=
  ((store.update? nodePoolName it).bind fun update => update.price.lookup (requirementsText o.requirements)).isSome

/-- The capacity that is stored for the instance type. -/
def InstanceTypeStore.capacityOverlay (it : ReportedInstanceType δ β) : ResourceList :=
  ((store.update? nodePoolName it).bind fun update => update.capacity.map (·.overlayUpdate)).getD ∅

/-- The copy differs in the prices of the overlaid offerings and in the overlaid resources only, and an overlay of
prices leaves the allocatable resources of every offering. -/
structure ChangesOnlyOverlaid (it it' : ReportedInstanceType δ β) : Prop where
  rest : { it' with offerings := it.offerings, capacity := it.capacity } = it
  offerings : List.Forall₂ (KeepsOffering (store.overlaid nodePoolName it)) it.offerings it'.offerings
  capacity : ∀ resource, it'.capacity.lookup resource =
    ((store.capacityOverlay nodePoolName it).lookup resource).or (it.capacity.lookup resource)
  allocatable : ∀ (nonneg : Resources.Nonneg it.capacity) (nonneg' : Resources.Nonneg it'.capacity),
    (∀ resource, (store.capacityOverlay nodePoolName it).lookup resource = none) →
      KeepsAllocatable (it.instanceType nonneg) (it'.instanceType nonneg')

end Frame

theorem forall₂_of_mapM (mapped : l.mapM f = some l') : List.Forall₂ (fun a b => f a = some b) l l' := by
  induction l generalizing l' with
  | nil =>
    rw [List.mapM_nil] at mapped
    cases mapped
    exact .nil
  | cons first rest ih =>
    rw [List.mapM_cons] at mapped
    obtain ⟨head, here, mapped⟩ := Option.bind_eq_some_iff.mp mapped
    obtain ⟨tail, there, mapped⟩ := Option.bind_eq_some_iff.mp mapped
    cases mapped
    exact .cons here (ih there)

theorem lookup_assign (first second : ResourceList) (resource : String) :
    (assign first second).lookup resource = (second.lookup resource).or (first.lookup resource) := by
  rw [assign, Map.lookup_mergeAll]
  cases second.lookup resource <;> rfl

section Theorems

variable {parseFloat : String → Option ℚ} {o o' : Offering}

theorem applyPriceOverlay_eq (applied : applyPriceOverlay parseFloat o updatedPrice = some o') :
    o' = { o with price := o'.price, capacityOverride := ∅, overheadOverride := none } := by
  obtain ⟨price, -, rfl⟩ := Option.map_eq_some_iff.mp applied
  rfl

/-- What the store makes of the offerings, overlaid or not. -/
structure Copied (overlaid : Offering → Bool) (o o' : Offering) : Prop where
  copy : overlaid o = true → o' = { o with price := o'.price, capacityOverride := ∅, overheadOverride := none }
  shared : overlaid o = false → o' = o

theorem Copied.keeps_iff (copied : Copied overlaid o o') :
    KeepsOffering overlaid o o' ↔ (overlaid o = true → o.capacityOverride = ∅ ∧ o.overheadOverride = none) := by
  constructor
  · intro keeps here
    have copy := copied.copy here
    have rest := keeps.rest
    rw [copy] at rest
    exact ⟨(congrArg Offering.capacityOverride rest).symm, (congrArg Offering.overheadOverride rest).symm⟩
  · intro plain
    cases here : overlaid o with
    | false =>
      rw [copied.shared here]
      exact ⟨rfl, fun _ => rfl⟩
    | true =>
      obtain ⟨capacity, overhead⟩ := plain here
      refine ⟨?_, fun shared => absurd (here.symm.trans shared) Bool.true_eq_false.mp⟩
      rw [copied.copy here]
      obtain ⟨requirements, price, available, reservationCapacity, capacityOverride, overheadOverride⟩ := o
      cases capacity
      cases overhead
      rfl

theorem forall₂_copied (applied : applyPriceOverlays parseFloat offerings priceUpdates = some offerings') :
    List.Forall₂ (Copied fun o => (priceUpdates.lookup (requirementsText o.requirements)).isSome) offerings
      offerings' := by
  refine (forall₂_of_mapM applied).imp fun o o' made => ?_
  split at made
  · rename_i overlay found
    exact ⟨fun _ => applyPriceOverlay_eq made, fun shared => (by rw [found] at shared; cases shared)⟩
  · rename_i missing
    cases made
    exact ⟨fun overlaid => (by rw [missing] at overlaid; cases overlaid), fun _ => rfl⟩

theorem forall₂_self (plain : ∀ o ∈ offerings, overlaid o = false) :
    List.Forall₂ (Copied overlaid) offerings offerings := by
  refine List.forall₂_same.mpr fun o member => ⟨fun here => ?_, fun _ => rfl⟩
  rw [plain o member] at here
  cases here

end Theorems

section Result

variable {δ : Type u} {β : Type v} {parseFloat : String → Option ℚ} {store : InstanceTypeStore} {nodePoolName : String}
  {it it' : ReportedInstanceType δ β}

/-- What the store returns, before anything is said about overrides. -/
structure Applied (store : InstanceTypeStore) (nodePoolName : String) (it it' : ReportedInstanceType δ β) : Prop where
  rest : { it' with offerings := it.offerings, capacity := it.capacity } = it
  offerings : List.Forall₂ (Copied (store.overlaid nodePoolName it)) it.offerings it'.offerings
  capacity : it'.capacity = if (store.capacityOverlay nodePoolName it).entries.length ≠ 0
    then assign it.capacity (store.capacityOverlay nodePoolName it) else it.capacity

theorem applied_of_apply (returned : store.apply parseFloat nodePoolName it = some it') :
    Applied store nodePoolName it it' := by
  rw [InstanceTypeStore.apply] at returned
  cases found : store.update? nodePoolName it with
  | none =>
    rw [found] at returned
    cases returned
    refine ⟨rfl, forall₂_self fun o _ => ?_, ?_⟩
    · rw [InstanceTypeStore.overlaid, found]
      rfl
    · rw [InstanceTypeStore.capacityOverlay, found]
      rfl
  | some update =>
    rw [found] at returned
    obtain ⟨capacity, capacityFound, returned⟩ := Option.bind_eq_some_iff.mp returned
    obtain ⟨offerings, made, rfl⟩ := Option.map_eq_some_iff.mp returned
    have overlaid : store.overlaid nodePoolName it =
        fun o => (update.price.lookup (requirementsText o.requirements)).isSome := by
      funext o
      rw [InstanceTypeStore.overlaid, found, Option.bind_some]
    refine ⟨rfl, ?_, ?_⟩
    · rw [overlaid]
      split at made
      · exact forall₂_copied made
      · rename_i none_
        cases made
        refine forall₂_self fun o _ => ?_
        have empty := List.isEmpty_iff.mpr (List.length_eq_zero_iff.mp (not_not.mp none_))
        rw [Map.lookup_of_isEmpty empty]
        rfl
    · rw [InstanceTypeStore.capacityOverlay, found, Option.bind_some, capacityFound, Option.map_some, Option.getD_some]

theorem Applied.lookup_capacity (applied : Applied store nodePoolName it it') (resource : String) :
    it'.capacity.lookup resource =
      ((store.capacityOverlay nodePoolName it).lookup resource).or (it.capacity.lookup resource) := by
  rw [applied.capacity]
  split
  · exact lookup_assign _ _ resource
  · rename_i none_
    rw [Map.lookup_of_isEmpty (List.isEmpty_iff.mpr (List.length_eq_zero_iff.mp (not_not.mp none_))), Option.none_or]

theorem Applied.capacity_of_none (applied : Applied store nodePoolName it it')
    (priceOnly : ∀ resource, (store.capacityOverlay nodePoolName it).lookup resource = none) :
    it'.capacity = it.capacity := by
  rw [applied.capacity, if_neg]
  intro some_
  obtain ⟨⟨resource, quantity⟩, member⟩ := List.exists_mem_of_length_pos (Nat.pos_of_ne_zero some_)
  rw [Map.mem_entries_iff, priceOnly] at member
  cases member

/-- An offering that keeps its overrides keeps its allocatable resources. -/
theorem keepsAllocatable (rest : { it' with offerings := it.offerings, capacity := it.capacity } = it)
    (capacity : it'.capacity = it.capacity)
    (offerings : List.Forall₂ (KeepsOffering overlaid) it.offerings it'.offerings)
    (nonneg : Resources.Nonneg it.capacity) (nonneg' : Resources.Nonneg it'.capacity) :
    KeepsAllocatable (it.instanceType nonneg) (it'.instanceType nonneg') := by
  have overhead := congrArg ReportedInstanceType.overhead rest
  have members : List.Forall₂ (fun o o' => KeepsOffering overlaid o o' ∧ o' ∈ it'.offerings) it.offerings
      it'.offerings := by
    refine List.forall₂_iff_get.mpr ⟨offerings.length_eq, fun i here there => ⟨?_, List.get_mem _ _⟩⟩
    exact (List.forall₂_iff_get.mp offerings).2 i here there
  refine members.imp fun o o' ⟨keeps, member⟩ group inList inGroup => ?_
  have available : o.available = true :=
    (((it.instanceType nonneg).mem_allocatableOfferings o).mp ⟨group, inList, inGroup⟩).2
  have still : o'.available = true := (congrArg Offering.available keeps.rest).trans available
  obtain ⟨group', inList', inGroup'⟩ := ((it'.instanceType nonneg').mem_allocatableOfferings o').mpr ⟨member, still⟩
  refine ⟨group', inList', inGroup', ?_⟩
  rw [InstanceType.allocatable_of_mem inList' inGroup', InstanceType.allocatable_of_mem inList inGroup]
  have capacityOverride := congrArg Offering.capacityOverride keeps.rest
  have overheadOverride := congrArg Offering.overheadOverride keeps.rest
  dsimp only at overhead capacityOverride overheadOverride
  simp only [InstanceType.allocatableFor, InstanceType.computeAllocatable, ReportedInstanceType.instanceType, capacity,
    overhead, capacityOverride, overheadOverride]

/-- Applying the overlays changes only what they name exactly when no overlaid offering has overrides of its own. -/
theorem changesOnlyOverlaid_iff (returned : store.apply parseFloat nodePoolName it = some it') :
    ChangesOnlyOverlaid store nodePoolName it it' ↔
      ∀ o ∈ it.offerings, store.overlaid nodePoolName it o = true →
        o.capacityOverride = ∅ ∧ o.overheadOverride = none := by
  have applied := applied_of_apply returned
  have keeps_iff : List.Forall₂ (KeepsOffering (store.overlaid nodePoolName it)) it.offerings it'.offerings ↔
      ∀ o ∈ it.offerings, store.overlaid nodePoolName it o = true →
        o.capacityOverride = ∅ ∧ o.overheadOverride = none := by
    have copied := applied.offerings
    generalize it.offerings = offerings at copied ⊢
    generalize it'.offerings = offerings' at copied ⊢
    induction copied with
    | nil => exact iff_of_true .nil fun o member => absurd member List.not_mem_nil
    | cons first _ ih =>
      rw [List.forall₂_cons, List.forall_mem_cons, first.keeps_iff]
      exact and_congr_right fun _ => ih
  rw [← keeps_iff]
  refine ⟨fun changes => changes.offerings, fun offerings => ⟨applied.rest, offerings, applied.lookup_capacity, ?_⟩⟩
  intro nonneg nonneg' priceOnly
  exact keepsAllocatable applied.rest (applied.capacity_of_none priceOnly) offerings nonneg nonneg'

end Result

/-- The overlaid price as the library reads it. -/
def parseHalf (text : String) : Option ℚ := if text = "0.5" then some (1 / 2) else none

/-- A NodePool in which the price of the one offering of an instance type is overlaid. -/
def halfPrice : InstanceTypeStore :=
  AList.insert "default" (AList.insert "m5.large" { price := AList.insert "" ⟨"0.5", some 10⟩ ∅ } ∅) ∅

def reservedCores (capacityOverride : ResourceList) : ReportedInstanceType Unit Unit where
  name := "m5.large"
  requirements := Requirements.newRequirements []
  offerings := [{ requirements := Requirements.newRequirements [], price := 1, capacityOverride }]
  capacity := AList.insert "cpu" 2 ∅

theorem changesOnlyOverlaid_without_override : ∃ it' : ReportedInstanceType Unit Unit,
    halfPrice.apply parseHalf "default" (reservedCores ∅) = some it' ∧
      ChangesOnlyOverlaid halfPrice "default" (reservedCores ∅) it' :=
  have returned : halfPrice.apply parseHalf "default" (reservedCores ∅) =
      some { reservedCores ∅ with offerings := [{ requirements := Requirements.newRequirements [], price := 1 / 2 }] } := by
    decide +kernel
  ⟨_, returned, (changesOnlyOverlaid_iff returned).mpr fun o member _ => by
    rw [List.mem_singleton.mp member]
    exact ⟨rfl, rfl⟩⟩

/-- An offering with one core of its own instead of two. Once its price is overlaid it is paired with two. -/
theorem apply_drops_override : ∃ it' : ReportedInstanceType Unit Unit,
    halfPrice.apply parseHalf "default" (reservedCores (AList.insert "cpu" 1 ∅)) = some it' ∧
      ¬ ChangesOnlyOverlaid halfPrice "default" (reservedCores (AList.insert "cpu" 1 ∅)) it' ∧
      ∃ nonneg nonneg',
        (((reservedCores (AList.insert "cpu" 1 ∅)).instanceType nonneg).allocatableOfferingsList.map fun group =>
          (Resources.amount group.allocatable "cpu", group.offerings.length)) = [(2, 0), (1, 1)] ∧
        ((it'.instanceType nonneg').allocatableOfferingsList.map fun group =>
          (Resources.amount group.allocatable "cpu", group.offerings.length)) = [(2, 1)] := by
  refine ⟨{ reservedCores ∅ with offerings := [{ requirements := Requirements.newRequirements [], price := 1 / 2 }] },
    by decide +kernel, fun changes => ?_, Resources.nonneg_two_cores, Resources.nonneg_two_cores, ?_, ?_⟩
  · cases changes.offerings with
    | cons first _ =>
      have kept := congrArg Offering.capacityOverride first.rest
      exact absurd kept (by decide +kernel)
  · decide +kernel
  · decide +kernel

end Karpenter.Overlay
