import Karpenter.CloudProvider.InstanceType
import Karpenter.Scheduling.NodeSelector

/-! Overlays of the prices and capacities that a cloud provider reports. A reconcile goes through the overlays
by descending weight and stores what each of them sets, unless it conflicts with what is stored. Offerings are
told apart by the text of their requirements. The statuses of overlays and NodePools whose instance types cannot be
listed are left out. -/
namespace Karpenter.Overlay

open Go (Map)
open CloudProvider (Registry Offering InstanceType compatibleOfferings)
open Resources (ResourceList)
open Scheduling

structure NodeOverlay where
  name : String
  requirements : List NodeSelectorRequirement := []
  priceAdjustment : Option String := none
  price : Option String := none
  capacity : Option ResourceList := none
  weight : Option Int := none

structure PriceUpdate where
  overlayUpdate : String
  lowestWeight : Option Int

structure CapacityUpdate where
  overlayUpdate : ResourceList := ∅
  lowestWeightCapacityResources : ResourceList := ∅
  lowestWeight : Option Int := none

structure InstanceTypeUpdate where
  price : Map String PriceUpdate := ∅
  capacity : Option CapacityUpdate := some {}

/-- Updates by NodePool and instance type. -/
abbrev InstanceTypeStore := Map String (Map String InstanceTypeUpdate)

/-- A NodePool with the instance types that are listed for it. -/
structure NodePool where
  name : String
  labels : Labels := ∅
  instanceTypes : List InstanceType

def operatorText : NodeSelectorOperator → String
  | .opIn => "In"
  | .opNotIn => "NotIn"
  | .opExists => "Exists"
  | .opDoesNotExist => "DoesNotExist"
  | .opGt => "Gt"
  | .opLt => "Lt"
  | .opGte => "Gte"
  | .opLte => "Lte"

/-- At most five values are written out. -/
def valuesText (values : List String) : String :=
  let listed := if values.length > 5
    then values.take 5 ++ ["and " ++ Go.formatInt (values.length - 5) ++ " others"] else values
  "[" ++ " ".intercalate listed ++ "]"

def requirementText (r : Requirement) : String :=
  let text := match r.operator with
    | .opExists | .opDoesNotExist => r.key ++ " " ++ operatorText r.operator
    | _ => r.key ++ " " ++ operatorText r.operator ++ " " ++ valuesText (Go.sorted r.values)
  text ++ (r.gte.elim "" fun gte => " >=" ++ Go.formatInt gte) ++
    (r.lte.elim "" fun lte => " <=" ++ Go.formatInt lte) ++
    (r.minValues.elim "" fun minValues => " minValues " ++ Go.formatInt minValues)

def labelHostname : String := "kubernetes.io/hostname"

/-- The text of requirements, without restricted labels. -/
def requirementsText (requirements : Requirements) : String :=
  ", ".intercalate (((requirements.values.filter (·.key ≠ labelHostname)).map requirementText).mergeSort (· ≤ ·))

namespace InstanceTypeStore

/-- What is stored for an instance type, as it is created when it is missing. -/
def entry (store : InstanceTypeStore) (nodePoolName instanceTypeName : String) : InstanceTypeUpdate :=
  (((store.lookup nodePoolName).getD ∅).lookup instanceTypeName).getD {}

def setEntry (store : InstanceTypeStore) (nodePoolName instanceTypeName : String) (update : InstanceTypeUpdate) :
    InstanceTypeStore :=
  store.insert nodePoolName (((store.lookup nodePoolName).getD ∅).insert instanceTypeName update)

end InstanceTypeStore

open InstanceTypeStore

/-- The price that was stored first stays, with the weight of the overlay that came last. -/
def storePrice (price : String) (weight : Option Int) (prices : Map String PriceUpdate) (o : Offering) :
    Map String PriceUpdate :=
  let requirementKey := requirementsText o.requirements
  match prices.lookup requirementKey with
  | some update => prices.insert requirementKey { update with lowestWeight := weight }
  | none => prices.insert requirementKey { overlayUpdate := price, lowestWeight := weight }

def updateInstanceTypeOffering (store : InstanceTypeStore) (nodePoolName instanceTypeName : String)
    (overlay : NodeOverlay) (offerings : List Offering) : InstanceTypeStore :=
  match if overlay.price.isNone then overlay.priceAdjustment else overlay.price with
  | none => store
  | some price =>
    let update := store.entry nodePoolName instanceTypeName
    store.setEntry nodePoolName instanceTypeName
      { update with price := offerings.foldl (storePrice price overlay.weight) update.price }

/-- Resources that were stored before stay; only the overlay that came last is remembered with its weight. -/
def storeCapacity (capacity : ResourceList) (weight : Option Int) : Option CapacityUpdate → CapacityUpdate
  | none => { overlayUpdate := capacity, lowestWeightCapacityResources := capacity, lowestWeight := weight }
  | some update =>
    { overlayUpdate := update.overlayUpdate.mergeAll (fun stored quantity => stored.getD quantity) capacity
      lowestWeightCapacityResources := capacity
      lowestWeight := weight }

def updateInstanceTypeCapacity (store : InstanceTypeStore) (nodePoolName instanceTypeName : String)
    (overlay : NodeOverlay) : InstanceTypeStore :=
  match overlay.capacity with
  | none => store
  | some capacity =>
    let update := store.entry nodePoolName instanceTypeName
    store.setEntry nodePoolName instanceTypeName
      { update with capacity := some (storeCapacity capacity overlay.weight update.capacity) }

def isCapacityUpdateConflicting (store : InstanceTypeStore) (nodePoolName instanceTypeName : String)
    (overlay : NodeOverlay) : Bool :=
  match ((store.lookup nodePoolName).bind (·.lookup instanceTypeName)).bind (·.capacity) with
  | none => false
  | some update =>
    decide (update.lowestWeight.getD 0 = overlay.weight.getD 0) &&
      (overlay.capacity.getD ∅).keys.any fun resource =>
        (update.lowestWeightCapacityResources.lookup resource).isSome

def isOfferingUpdateConflicting (store : InstanceTypeStore) (nodePoolName instanceTypeName : String)
    (o : Offering) (overlay : NodeOverlay) : Bool :=
  match ((store.lookup nodePoolName).bind (·.lookup instanceTypeName)).bind
      (·.price.lookup (requirementsText o.requirements)) with
  | none => false
  | some update => decide (overlay.weight.getD 0 = update.lowestWeight.getD 0)

def isPriceUpdatesConflicting (store : InstanceTypeStore) (nodePoolName instanceTypeName : String)
    (offerings : List Offering) (overlay : NodeOverlay) : Bool :=
  if overlay.price.isNone && overlay.priceAdjustment.isNone then false
  else offerings.any fun o => isOfferingUpdateConflicting store nodePoolName instanceTypeName o overlay

def isCapacityUpdatesConflicting (store : InstanceTypeStore) (nodePoolName instanceTypeName : String)
    (overlay : NodeOverlay) : Bool :=
  if overlay.capacity.isNone then false
  else isCapacityUpdateConflicting store nodePoolName instanceTypeName overlay

section Controller

variable (registry : Registry)

def nodePoolLabelKey : String := "karpenter.sh/nodepool"

/-- The offerings of an instance type that an overlay selects; none if it does not select the instance type. -/
def getOverlaidOfferings (nodePool : NodePool) (it : InstanceType) (overlayReq : Requirements) : List Offering :=
  let instanceTypeRequirements :=
    ((Requirements.newRequirements [newRequirement nodePoolLabelKey .opIn [nodePool.name]]).add
      (Requirements.newLabelRequirements nodePool.labels).values).add it.requirements.values
  if instanceTypeRequirements.isCompatible overlayReq ∅ then compatibleOfferings registry it.offerings overlayReq
  else []

def NodeOverlay.selected (overlay : NodeOverlay) (nodePool : NodePool) (it : InstanceType) : List Offering :=
  getOverlaidOfferings registry nodePool it (Requirements.newNodeSelectorRequirements overlay.requirements)

def validateInstanceTypesOverride (store : InstanceTypeStore) (nodePool : NodePool) (overlay : NodeOverlay) : Bool :=
  nodePool.instanceTypes.all fun it =>
    let offerings := overlay.selected registry nodePool it
    offerings.isEmpty || !(isPriceUpdatesConflicting store nodePool.name it.name offerings overlay ||
      isCapacityUpdatesConflicting store nodePool.name it.name overlay)

def storeInstanceType (overlay : NodeOverlay) (nodePool : NodePool) (store : InstanceTypeStore) (it : InstanceType) :
    InstanceTypeStore :=
  let offerings := overlay.selected registry nodePool it
  if offerings.isEmpty then store
  else updateInstanceTypeCapacity
    (updateInstanceTypeOffering store nodePool.name it.name overlay offerings) nodePool.name it.name overlay

def storeUpdatesForInstanceTypeOverride (store : InstanceTypeStore) (nodePool : NodePool) (overlay : NodeOverlay) :
    InstanceTypeStore :=
  nodePool.instanceTypes.foldl (storeInstanceType registry overlay nodePool) store

/-- Nothing is stored unless the overlay is valid for all NodePools. -/
def validateAndUpdateInstanceTypeOverrides (store : InstanceTypeStore) (nodePools : List NodePool)
    (overlay : NodeOverlay) : Option InstanceTypeStore :=
  if nodePools.all fun nodePool => validateInstanceTypesOverride registry store nodePool overlay then
    some (nodePools.foldl (fun store nodePool =>
      storeUpdatesForInstanceTypeOverride registry store nodePool overlay) store)
  else none

/-- Larger weights come first, then names later in the alphabet. -/
def comesFirst (a b : NodeOverlay) : Bool :=
  if a.weight.getD 0 = b.weight.getD 0 then decide (b.name ≤ a.name) else decide (b.weight.getD 0 < a.weight.getD 0)

def orderByWeight (overlays : List NodeOverlay) : List NodeOverlay := overlays.mergeSort comesFirst

/-- The loop of a reconcile: the store, the overlays that went into it, and those that were turned down. -/
structure Progress where
  store : InstanceTypeStore := ∅
  accepted : List NodeOverlay := []
  overlaysWithConflict : List String := []

variable (nodePools : List NodePool) (runtimeValidate : NodeOverlay → Bool)

def processOverlay (progress : Progress) (overlay : NodeOverlay) : Progress :=
  if runtimeValidate overlay then
    match validateAndUpdateInstanceTypeOverrides registry progress.store nodePools overlay with
    | some store => { progress with store, accepted := progress.accepted ++ [overlay] }
    | none => { progress with overlaysWithConflict := progress.overlaysWithConflict ++ [overlay.name] }
  else progress

def reconcile (overlays : List NodeOverlay) : Progress :=
  (orderByWeight overlays).foldl (processOverlay registry nodePools runtimeValidate) {}

end Controller

end Karpenter.Overlay
