import Karpenter.DynamicResources.Allocator
import Karpenter.Provisioning.ReservationManager
import Karpenter.Scheduling.Pod

/-! An in-flight NodeClaim: a set of requirements, the instance types that could satisfy them and the
pods placed so far. The answers of the topology and of the device allocator are parameters of each call,
and the reservation manager is passed explicitly, so everything holds whatever other NodeClaims did in
between. Requirements are values: a minimum that is relaxed is written to the new requirements only.
Annotations, the drivers recorded among them and the texts of errors are left out. -/
namespace Karpenter.Provisioning

open Go (Map)
open CloudProvider
open Resources (ResourceList merge mergeInto)
open Scheduling

/-- `toleratesTaint` is the rule of the Kubernetes API library, `reservedCapacity` a feature gate. -/
structure Settings extends Registry where
  toleratesTaint : Toleration → Taint → Bool
  reservedCapacity : Bool := true

def untolerating (wellKnownLabels : Finset String) (reservationIDLabel : String := "") : Settings where
  wellKnownLabels
  reservationIDLabel
  toleratesTaint := fun _ _ => false

def coreSettings : Settings := untolerating {capacityTypeLabelKey}

inductive ReservedOfferingMode where
  | fallback
  | strict
  deriving DecidableEq

/-- Instance types on which the same daemon pods run. -/
structure DaemonOverheadGroup where
  instanceTypes : List InstanceType
  daemonOverhead : ResourceList := ∅
  hostPortUsage : HostPortUsage := ∅

structure NodeClaimTemplate where
  nodePoolName : String
  taints : List Taint := []
  requirements : Requirements := Requirements.empty
  instanceTypeOptions : List InstanceType

structure NodeClaim extends NodeClaimTemplate where
  requests : ResourceList := ∅
  pods : List Pod := []
  volumes : Volumes := ∅
  daemonOverheadGroups : List DaemonOverheadGroup
  hostname : String
  reservedOfferings : List Offering := []
  reservedOfferingMode : ReservedOfferingMode
  creditReservationCapacity : Map String Int := ∅

structure PodData where
  requests : ResourceList
  requirements : Requirements
  strictRequirements : Requirements
  volumeRequirements : List Requirements := []

/-- The topology and the device allocator as one call sees them; there is no allocation for a pod
without resource claims. -/
structure Collaborators where
  addRequirements : Pod → List Taint → Requirements → Requirements → Except String Requirements
  allocate : Option (Requirements → Except String DynamicResources.AllocationResult) := none

def labelHostname : String := "kubernetes.io/hostname"

/-- Which criteria some instance type met. -/
structure InstanceTypeFilterError where
  requirementsMet : Bool
  fits : Bool
  hasOffering : Bool
  requirementsAndFits : Bool
  requirementsAndOffering : Bool
  fitsAndOffering : Bool
  minValuesIncompatible : Bool

inductive CanAddError where
  | taints
  | volumeAttachmentLimit
  | requirements
  | volumeRequirements
  | allocation (text : String)
  | dynamicResourceRequirements
  | topology (text : String)
  | topologyRequirements
  | instanceTypes (err : InstanceTypeFilterError)
  | noInstanceTypeForDevices
  | reservedOfferingsTaken
  | onlyFullReservations
  | reservedOfferingsRemoved

def isReservedOfferingError : CanAddError → Bool
  | .reservedOfferingsTaken | .reservedOfferingsRemoved => true
  | _ => false

structure CanAddResult where
  requirements : Requirements
  instanceTypes : List InstanceType
  offeringsToReserve : List Offering
  allocationResult : Option DynamicResources.AllocationResult

def newNodeClaim (template : NodeClaimTemplate) (daemonOverheadGroups : List DaemonOverheadGroup)
    (instanceTypes : List InstanceType) (reservedOfferingMode : ReservedOfferingMode)
    (creditReservationCapacity : Map String Int) (hostname : String) : NodeClaim where
  nodePoolName := template.nodePoolName
  taints := template.taints
  requirements := (Requirements.newRequirements template.requirements.values).addOne
    (newRequirement labelHostname .opIn [hostname])
  instanceTypeOptions := instanceTypes
  daemonOverheadGroups := daemonOverheadGroups
  hostname := hostname
  reservedOfferingMode := reservedOfferingMode
  creditReservationCapacity := creditReservationCapacity

/-- An instance type without a limit for a driver takes any number of its volumes. -/
def filterInstanceTypesByVolumeAttachmentLimits (instanceTypes : List InstanceType) (volumes : Volumes) :
    List InstanceType :=
  instanceTypes.filter fun it => volumes.entries.all fun entry =>
    match it.volumeAttachmentLimits.lookup entry.1 with
    | none => true
    | some limit => decide ((entry.2.card : Int) ≤ limit)

def compatible (it : InstanceType) (requirements : Requirements) : Bool :=
  (it.requirements.intersects requirements).isEmpty

/-- Whether some group with a compatible offering has room, and whether there is such an offering. -/
def fitsGroups (registry : Registry) (requests : ResourceList) (requirements : Requirements) :
    List AllocatableOfferings → Bool → Bool × Bool
  | [], hasOffering => (false, hasOffering)
  | group :: rest, hasOffering =>
    if hasCompatible registry group.offerings requirements then
      if Resources.fits requests group.allocatable then (true, true)
      else fitsGroups registry requests requirements rest true
    else fitsGroups registry requests requirements rest hasOffering

def fits (registry : Registry) (it : InstanceType) (requests : ResourceList) (requirements : Requirements) :
    Bool × Bool :=
  fitsGroups registry requests requirements it.allocatableOfferingsList false

def totalRequests (requests : ResourceList) (group : DaemonOverheadGroup) : ResourceList :=
  if group.daemonOverhead.entries.isEmpty then requests
  else mergeInto (mergeInto ∅ requests) group.daemonOverhead

/-- An instance type under consideration with its three criteria. -/
structure Considered where
  instanceType : InstanceType
  compat : Bool
  fits : Bool
  hasOffering : Bool

def Considered.meets (c : Considered) : Bool := c.compat && c.fits && c.hasOffering

def considerGroup (registry : Registry) (instanceTypes : List InstanceType) (requirements : Requirements)
    (requests : ResourceList) (group : DaemonOverheadGroup) : List Considered :=
  (group.instanceTypes.filter fun it => decide (it ∈ instanceTypes)).map fun it =>
    let found := fits registry it (totalRequests requests group) requirements
    ⟨it, compatible it requirements, found.1, found.2⟩

/-- A group whose ports conflict with those of the pod is skipped. -/
def consider (registry : Registry) (instanceTypes : List InstanceType) (requirements : Requirements)
    (pod : Pod) (groups : List DaemonOverheadGroup) (requests : ResourceList) : List Considered :=
  (groups.filter fun group => !HostPortUsage.conflicts group.hostPortUsage pod.key (getHostPorts pod)).flatMap
    (considerGroup registry instanceTypes requirements requests)

def instanceTypeFilterError (considered : List Considered) (minValuesIncompatible : Bool) :
    InstanceTypeFilterError where
  requirementsMet := considered.any (·.compat)
  fits := considered.any (·.fits)
  hasOffering := considered.any (·.hasOffering)
  requirementsAndFits := considered.any fun c => c.compat && c.fits && !c.hasOffering
  requirementsAndOffering := considered.any fun c => c.compat && c.hasOffering && !c.fits
  fitsAndOffering := considered.any fun c => c.fits && c.hasOffering && !c.compat
  minValuesIncompatible

/-- The instance types that remain and the keys whose minimum they miss. -/
def filterInstanceTypesByRequirements (registry : Registry) (instanceTypes : List InstanceType)
    (requirements : Requirements) (pod : Pod) (groups : List DaemonOverheadGroup) (requests : ResourceList)
    (relaxMinValues : Bool) : Except InstanceTypeFilterError (List InstanceType × Map String Nat) :=
  let considered := consider registry instanceTypes requirements pod groups requests
  let remaining := (considered.filter (·.meets)).map (·.instanceType)
  let unsatisfiableKeys := (satisfiesMinValues remaining requirements).2
  let incompatible := !unsatisfiableKeys.entries.isEmpty && !relaxMinValues
  if remaining.isEmpty || incompatible then .error (instanceTypeFilterError considered incompatible)
  else .ok (remaining, unsatisfiableKeys)

/-- Writing a minimum to a key that is not there changes nothing. -/
def setMinValues (requirements : Requirements) (key : String) (minValues : Nat) : Requirements :=
  match requirements.get? key with
  | none => requirements
  | some requirement => requirements.set { requirement with minValues := some minValues }

def relaxMinimums (requirements : Requirements) (unsatisfiableKeys : Map String Nat) : Requirements :=
  unsatisfiableKeys.entries.foldl (fun requirements entry => setMinValues requirements entry.1 entry.2)
    requirements

/-- Requirements that must be compatible are intersected with those that are there. -/
def tighten (registry : Registry) (requirements added : Requirements) (err : CanAddError) :
    Except CanAddError Requirements :=
  if requirements.isCompatible added registry.wellKnownLabels then .ok (requirements.add added.values)
  else .error err

/-- The volume requirements constrain the NodeClaim only, not the pod's own affinity. -/
def tightenByVolumes (registry : Registry) (requirements : Requirements) (volReqs : Option Requirements) :
    Except CanAddError Requirements :=
  match volReqs with
  | none => .ok requirements
  | some volReqs => tighten registry requirements volReqs .volumeRequirements

def tightenByAllocation (registry : Registry) (requirements : Requirements)
    (allocate : Option (Requirements → Except String DynamicResources.AllocationResult)) :
    Except CanAddError (Requirements × Option DynamicResources.AllocationResult) :=
  match allocate with
  | none => .ok (requirements, none)
  | some allocate =>
    match allocate requirements with
    | .error text => .error (.allocation text)
    | .ok result =>
      match tighten registry requirements result.requirements .dynamicResourceRequirements with
      | .error err => .error err
      | .ok tightened => .ok (tightened, some result)

/-- Only instance types whose devices could be allocated survive. -/
def filterByAllocation (instanceTypes : List InstanceType)
    (allocationResult : Option DynamicResources.AllocationResult) : Except CanAddError (List InstanceType) :=
  match allocationResult with
  | none => .ok instanceTypes
  | some result =>
    let remaining := instanceTypes.filter fun it => decide (it.name ∈ result.instanceTypes)
    if remaining.isEmpty then .error .noInstanceTypeForDevices else .ok remaining

/-- The offerings whose reservation the manager grants; `none` for a reservation it does not know. -/
def grantable (registry : Registry) (rm : ReservationManager) (hostname : String) :
    List Offering → Option (List Offering)
  | [] => some []
  | o :: rest =>
    match rm.canReserve registry hostname o, grantable registry rm hostname rest with
    | some granted, some others => some (if granted then o :: others else others)
    | _, _ => none

namespace NodeClaim

variable (settings : Settings)

variable (n : NodeClaim)

/-- A reservation without capacity that no disruption candidate will free. -/
def isFull (o : Offering) : Bool :=
  decide (o.reservationCapacity = 0 ∧
    (n.creditReservationCapacity.lookup (o.reservationID settings.toRegistry)).getD 0 = 0)

/-- Available offerings that the requirements admit. -/
def candidateOfferings (instanceTypes : List InstanceType) (requirements : Requirements) : List Offering :=
  compatibleOfferings settings.toRegistry ((instanceTypes.flatMap (·.offerings)).filter (·.available)) requirements

/-- In strict mode reserved capacity that is there but taken defers the pod. -/
def offeringsToReserve (rm : ReservationManager) (instanceTypes : List InstanceType) (requirements : Requirements) :
    Option (Except CanAddError (List Offering)) :=
  if !settings.reservedCapacity then some (.ok [])
  else
    let candidates := candidateOfferings settings instanceTypes requirements
    let reserved := candidates.filter fun o => decide (o.capacityType = capacityTypeReserved)
    let hasUnreservedFallback := candidates.any fun o => decide (o.capacityType ≠ capacityTypeReserved)
    let reservedFull := reserved.any (n.isFull settings)
    let withCapacity := reserved.filter fun o => !n.isFull settings o
    match grantable settings.toRegistry rm n.hostname withCapacity with
    | none => none
    | some reservedOfferings =>
      let strict := decide (n.reservedOfferingMode = .strict)
      if strict && !withCapacity.isEmpty && reservedOfferings.isEmpty then
        some (.error .reservedOfferingsTaken)
      else if reservedFull && withCapacity.isEmpty && !hasUnreservedFallback then
        some (.error .onlyFullReservations)
      else if strict && !n.reservedOfferings.isEmpty && reservedOfferings.isEmpty then
        some (.error .reservedOfferingsRemoved)
      else some (.ok reservedOfferings)

/-- The steps of one alternative up to the reservations. -/
def narrow (collaborators : Collaborators) (pod : Pod) (podData : PodData) (instanceTypes : List InstanceType)
    (baseRequirements : Requirements) (volReqs : Option Requirements) (relaxMinValues : Bool) :
    Except CanAddError
      (Requirements × List InstanceType × Option DynamicResources.AllocationResult) := do
  let withVolumes ← tightenByVolumes settings.toRegistry baseRequirements volReqs
  let (withDevices, allocationResult) ←
    tightenByAllocation settings.toRegistry withVolumes collaborators.allocate
  match collaborators.addRequirements pod n.taints podData.strictRequirements withDevices with
  | .error text => .error (.topology text)
  | .ok topologyRequirements =>
    let requirements ← tighten settings.toRegistry withDevices topologyRequirements .topologyRequirements
    match filterInstanceTypesByRequirements settings.toRegistry instanceTypes requirements pod
        n.daemonOverheadGroups (merge [n.requests, podData.requests]) relaxMinValues with
    | .error err => .error (.instanceTypes err)
    | .ok (remaining, unsatisfiableKeys) =>
      let remaining ← filterByAllocation remaining allocationResult
      .ok (if relaxMinValues then relaxMinimums requirements unsatisfiableKeys else requirements,
        remaining, allocationResult)

def tryVolumeAlternative (rm : ReservationManager) (collaborators : Collaborators) (pod : Pod) (podData : PodData)
    (instanceTypes : List InstanceType) (baseRequirements : Requirements) (relaxMinValues : Bool)
    (volReqs : Option Requirements) : Option (Except CanAddError CanAddResult) :=
  match narrow settings n collaborators pod podData instanceTypes baseRequirements volReqs relaxMinValues with
  | .error err => some (.error err)
  | .ok (requirements, remaining, allocationResult) =>
    match n.offeringsToReserve settings rm remaining requirements with
    | none => none
    | some (.error err) => some (.error err)
    | some (.ok ofs) => some (.ok ⟨requirements, remaining, ofs, allocationResult⟩)

/-- The first alternative that succeeds, or the last error. -/
def firstAlternative (attempt : Option Requirements → Option (Except CanAddError CanAddResult)) :
    List (Option Requirements) → CanAddError → Option (Except CanAddError CanAddResult)
  | [], lastErr => some (.error lastErr)
  | volReqs :: rest, _ =>
    match attempt volReqs with
    | none => none
    | some (.error err) => firstAlternative attempt rest err
    | some (.ok result) => some (.ok result)

def volumeAlternatives (podData : PodData) : List (Option Requirements) :=
  if podData.volumeRequirements.isEmpty then [none] else podData.volumeRequirements.map some

/-- The options that support the volumes of the pod besides those already placed. -/
def optionsForVolumes (volumes : Volumes) : List InstanceType :=
  if volumes.entries.isEmpty then n.instanceTypeOptions
  else filterInstanceTypesByVolumeAttachmentLimits n.instanceTypeOptions (n.volumes.union volumes)

def canAdd (rm : ReservationManager) (collaborators : Collaborators) (pod : Pod) (podData : PodData)
    (volumes : Volumes) (relaxMinValues : Bool) : Option (Except CanAddError CanAddResult) :=
  if !toleratesTaints settings.toleratesTaint n.taints pod.tolerations then some (.error .taints)
  else
    let instanceTypes := n.optionsForVolumes volumes
    if !volumes.entries.isEmpty && instanceTypes.isEmpty then some (.error .volumeAttachmentLimit)
    else
      match tighten settings.toRegistry (Requirements.newRequirements n.requirements.values)
          podData.requirements .requirements with
      | .error err => some (.error err)
      | .ok baseRequirements =>
        firstAlternative (n.tryVolumeAlternative settings rm collaborators pod podData instanceTypes
          baseRequirements relaxMinValues) (volumeAlternatives podData) .volumeRequirements

def releaseReservedOfferings (rm : ReservationManager) (current updated : List Offering) : ReservationManager :=
  let updatedIDs := updated.map (·.reservationID settings.toRegistry)
  rm.release settings.toRegistry n.hostname
    (current.filter fun o => decide (o.reservationID settings.toRegistry ∉ updatedIDs))

/-- Placing the pod; recording it in the topology and committing its devices is up to the caller. -/
def add (rm : ReservationManager) (pod : Pod) (podData : PodData) (volumes : Volumes) (result : CanAddResult) :
    Option (NodeClaim × ReservationManager) :=
  match rm.reserve settings.toRegistry n.hostname result.offeringsToReserve with
  | none => none
  | some reserved => some
    ({ n with
        pods := n.pods ++ [pod]
        instanceTypeOptions := result.instanceTypes
        volumes := n.volumes.union volumes
        requests := merge [n.requests, podData.requests]
        requirements := result.requirements
        daemonOverheadGroups := n.daemonOverheadGroups.map fun group =>
          { group with hostPortUsage := HostPortUsage.add group.hostPortUsage pod.key (getHostPorts pod) }
        reservedOfferings := result.offeringsToReserve },
      n.releaseReservedOfferings settings reserved n.reservedOfferings result.offeringsToReserve)

/-- The least overhead of the daemon groups that still have an instance type among the options. -/
def minDaemonOverhead : ResourceList :=
  (n.daemonOverheadGroups.filter fun group =>
    group.instanceTypes.any fun it => decide (it ∈ n.instanceTypeOptions)).foldl (fun minimum group =>
      if minimum.entries.isEmpty then group.daemonOverhead
      else Resources.minResources [minimum, group.daemonOverhead]) ∅

def addDaemonRequests : NodeClaim :=
  if n.minDaemonOverhead.entries.isEmpty then n
  else { n with requests := merge [n.requests, n.minDaemonOverhead] }

/-- The reservations that are held are written into the requirements. -/
def injectReservations : Requirements :=
  if n.reservedOfferings.isEmpty then n.requirements.delete labelHostname
  else
    ((n.requirements.delete labelHostname).set
      (newRequirement capacityTypeLabelKey .opIn [capacityTypeReserved])).addOne
        (newRequirement settings.reservationIDLabel .opIn
          (n.reservedOfferings.map (·.reservationID settings.toRegistry)))

def finalizeScheduling : NodeClaim :=
  addDaemonRequests { n with requirements := n.injectReservations settings }

end NodeClaim

end Karpenter.Provisioning
