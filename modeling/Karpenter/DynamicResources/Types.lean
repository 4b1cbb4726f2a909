import Karpenter.Resources.Quantity
import Karpenter.Scheduling.NodeSelector

/-! The objects of dynamic resource allocation: devices, the published and the templated slices that
hold them, resource claims, and the node claims they are allocated for. Interned handles are their
strings. A published slice and a cloud provider template are separate types, so a template can never be
gathered into an in-cluster pool. Driver configuration, admin access, taints and device status are left
out: no function below reads them. -/
namespace Karpenter.CloudProvider

open Go (Map)
open Resources (Quantity)

/-- Counter set name to counter name to quantity. -/
abbrev CounterSets := Map String (Map String Quantity)

/-- Exactly one field is expected to be set. -/
structure DeviceAttribute where
  stringValue : Option String := none
  intValue : Option Int := none
  boolValue : Option Bool := none
  versionValue : Option String := none
  deriving DecidableEq

/-- The API requires a minimum whenever a step is given, and a positive step. -/
structure CapacityRequestPolicyRange where
  min : Option Quantity := none
  max : Option Quantity := none
  step : Option Quantity := none
  stepped : ∀ width, step = some width → min.isSome = true ∧ 0 < width := by simp
  deriving DecidableEq

structure CapacityRequestPolicy where
  default : Option Quantity := none
  validValues : List Quantity := []
  validRange : Option CapacityRequestPolicyRange := none
  deriving DecidableEq

structure DeviceCapacity where
  value : Quantity
  requestPolicy : Option CapacityRequestPolicy := none
  deriving DecidableEq

/-- The API admits one entry per counter set, so what a device consumes is a map. -/
structure Device where
  name : String
  attributes : Map String DeviceAttribute := ∅
  capacity : Map String DeviceCapacity := ∅
  allowMultipleAllocations : Bool := false
  consumesCounters : CounterSets := ∅
  deriving DecidableEq

structure DeviceID where
  driver : String
  pool : String
  device : String
  deriving DecidableEq

structure CounterSet where
  name : String
  counters : Map String Quantity
  deriving DecidableEq

structure ResourceSliceTemplate where
  driver : String
  pool : String
  devices : List Device := []
  sharedCounters : List CounterSet := []

end Karpenter.CloudProvider

namespace Karpenter.DynamicResources

open Go (Map)
open Resources (Quantity)
open Scheduling (Requirements NodeSelectorRequirement)
open CloudProvider (Device CounterSets CounterSet ResourceSliceTemplate)

abbrev InstanceTypeID := String
abbrev NodeClaimID := String

/-- Capacity dimension to consumed quantity. -/
abbrev ConsumedCapacity := Map String Quantity

structure ResourceClaimID where
  namespaceName : String
  name : String
  deriving DecidableEq

/-- A template device is a potential one: it exists once its node has been launched. -/
structure DeviceID extends CloudProvider.DeviceID where
  template : Bool := false
  deriving DecidableEq

structure PoolKey where
  driver : String
  pool : String
  deriving DecidableEq

def DeviceID.poolKey (id : DeviceID) : PoolKey := ⟨id.driver, id.pool⟩

structure RequestName where
  parent : String
  sub : String := ""
  deriving DecidableEq

def RequestName.string (n : RequestName) : String :=
  if n.sub ≠ "" then n.parent ++ "/" ++ n.sub else n.parent

structure NodeSelectorTerm where
  matchExpressions : List NodeSelectorRequirement

structure NodeSelector where
  nodeSelectorTerms : List NodeSelectorTerm

/-- A slice published on the API server. `sharedCounters` tells an omitted list from an empty one. -/
structure ResourceSlice where
  driver : String
  pool : String
  generation : Int := 1
  resourceSliceCount : Int := 1
  nodeName : String := ""
  nodeSelector : Option NodeSelector := none
  allNodes : Bool := false
  devices : List Device := []
  sharedCounters : Option (List CounterSet) := none

/-- A cloud provider template with the requirements of the set it belongs to. -/
structure TemplateSlice where
  template : ResourceSliceTemplate
  requirements : Requirements := Requirements.empty

def nodeSelectorsToRequirements (ns : Option NodeSelector) : Option Requirements :=
  ns.map fun selector => selector.nodeSelectorTerms.foldl
    (fun reqs term => reqs.add (Requirements.newNodeSelectorRequirements term.matchExpressions).values)
    Requirements.empty

structure NodeClaim where
  id : NodeClaimID
  nodeName : String := ""
  nodePoolID : String := ""
  requirements : Requirements := Requirements.empty
  superposed : Bool := true
  instanceTypes : List InstanceTypeID
  resourceSlices : Map InstanceTypeID (List TemplateSlice) := ∅

inductive DeviceAllocationMode where
  | exactCount
  | all
  deriving DecidableEq

structure DeviceSelector where
  cel : Option String

structure DeviceClass where
  name : String
  selectors : List DeviceSelector := []

structure ExactDeviceRequest where
  deviceClassName : String
  selectors : List DeviceSelector := []
  allocationMode : DeviceAllocationMode := .exactCount
  count : Nat := 1
  capacity : Option ConsumedCapacity := none

structure DeviceSubRequest extends ExactDeviceRequest where
  name : String

structure DeviceRequest where
  name : String
  exactly : Option ExactDeviceRequest := none
  firstAvailable : List DeviceSubRequest := []

structure DeviceConstraint where
  requests : List String := []
  matchAttribute : Option String := none
  distinctAttribute : Option String := none

structure ConsumerReference where
  apiGroup : String := ""
  resource : String
  uid : String

/-- A device that an allocated claim holds; consumed capacity is given for shared devices and not negative. -/
structure DeviceRequestAllocationResult where
  device : CloudProvider.DeviceID
  consumedCapacity : Option ConsumedCapacity := none
  nonneg : ∀ name, 0 ≤ consumedCapacity.elim 0 (Resources.amount · name) := by simp

structure AllocationStatus where
  nodeSelector : Option NodeSelector := none
  results : List DeviceRequestAllocationResult := []

structure ResourceClaim where
  namespaceName : String
  name : String
  requests : List DeviceRequest := []
  constraints : List DeviceConstraint := []
  allocation : Option AllocationStatus := none
  reservedFor : List ConsumerReference := []

def resourceClaimID (claim : ResourceClaim) : ResourceClaimID := ⟨claim.namespaceName, claim.name⟩

/-- A superposed node claim may still get any value for a well-known label it does not define. -/
def compatibilityOptions (wellKnown : Finset String) (superposed : Bool) : Finset String :=
  if superposed then wellKnown else ∅

end Karpenter.DynamicResources
