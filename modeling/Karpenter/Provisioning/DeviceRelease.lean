import Karpenter.DynamicResources.Recorded
import Karpenter.Provisioning.BinPacking

/-! Devices of an in-flight NodeClaim. `Add` commits what the allocator found for the pod and then releases the
instance types that the allocator searched and that did not survive. Instance types are pruned for other reasons
too: by a pod without claims, by a pod all of whose claims are allocated already, and by the search itself. What the
allocator has on record for those stays. -/
namespace Karpenter.Provisioning

open Go (Map)
open CloudProvider
open Resources (Quantity)
open Scheduling
open DynamicResources (Allocator InstanceTypeID ResourceClaim TemplateSlice)

/-- A set of device templates of an instance type with the requirements under which it is there. -/
structure DynamicResourcesSet where
  requirements : Requirements := Requirements.empty
  resourceSliceTemplates : List ResourceSliceTemplate

def templateSlices (sets : List DynamicResourcesSet) : List TemplateSlice :=
  sets.flatMap fun dr => dr.resourceSliceTemplates.map fun t => ⟨t, dr.requirements⟩

/-- The NodeClaim as the allocator sees it. `available` is `AvailableDynamicResources` of an instance type. -/
def draNodeClaim (settings : Settings) (available : InstanceType → List DynamicResourcesSet) (n : NodeClaim)
    (requirements : Requirements) : DynamicResources.NodeClaim where
  id := n.hostname
  nodePoolID := n.nodePoolName
  requirements := requirements
  instanceTypes := n.instanceTypeOptions.map (·.name)
  resourceSlices := Map.ofList (n.instanceTypeOptions.map fun it => (it.name, templateSlices ((available it).filter
    fun dr => requirements.isCompatible dr.requirements settings.wellKnownLabels)))

/-- A pod to be placed. `claims` is absent for a pod without resource claims, and an error for one whose claims could
not be resolved; the answers of the topology are a parameter. -/
structure DevicePlacement extends Placement where
  claims : Option (Except String (List ResourceClaim)) := none
  relaxMinValues : Bool := false
  env : DynamicResources.Environment
  addRequirements : Pod → List Taint → Requirements → Requirements → Except String Requirements

/-- The part of `Add` that commits the devices of the pod and releases the instance types that were searched and are
not among the options any more. -/
def commitDevices (a : Allocator) (hostname : String) (result : CanAddResult) : Option Allocator :=
  match result.allocationResult with
  | none => some a
  | some allocated =>
    match allocated.allocation with
    | none => some a
    | some handle => (a.commit handle).bind fun a =>
      let pruned := allocated.instanceTypes.filter fun it => decide (it ∉ result.instanceTypes.map (·.name))
      if pruned.isEmpty then some a else a.releaseInstanceType hostname pruned

/-- Devices are committed for the instance type. -/
def Committed (result : CanAddResult) (it : InstanceTypeID) : Prop :=
  ∃ allocated, result.allocationResult = some allocated ∧ allocated.allocation.isSome = true ∧ it ∈ allocated.instanceTypes

/-- The sorted drivers of all devices on record under the NodeClaim. -/
def draDriversForNodeClaim (a : Allocator) (n : NodeClaim) : List String :=
  Go.sorted ((a.claimAllocationMetadata.entries.filter fun entry => decide (entry.2.nodeClaimID = n.hostname)).flatMap
    fun entry => entry.2.devices.entries.flatMap fun deviceResults =>
      deviceResults.2.map (·.deviceID.driver)).toFinset

/-- A NodeClaim that is being filled, with the reservations and the devices. -/
structure Planned where
  nodeClaim : NodeClaim
  reservations : ReservationManager
  allocator : Allocator

namespace Planned

variable (settings : Settings) (available : InstanceType → List DynamicResourcesSet)

variable (s : Planned)

def collaborators (p : DevicePlacement) : Collaborators where
  addRequirements := p.addRequirements
  allocate := p.claims.map fun claims requirements =>
    claims.bind fun claims => s.allocator.allocate p.env (draNodeClaim settings available s.nodeClaim requirements) claims

/-- `CanAdd` followed by `Add`, with what `CanAdd` has answered. -/
def place (p : DevicePlacement) : Option (Planned × CanAddResult) :=
  match s.nodeClaim.canAdd settings s.reservations (s.collaborators settings available p) p.pod p.podData p.volumes
      p.relaxMinValues with
  | some (.ok result) =>
    (s.nodeClaim.add settings s.reservations p.pod p.podData p.volumes result).bind fun (n, reservations) =>
      (commitDevices s.allocator s.nodeClaim.hostname result).map fun allocator => (⟨n, reservations, allocator⟩, result)
  | _ => none

def run (pods : List DevicePlacement) : Option Planned :=
  pods.foldlM (fun s p => (s.place settings available p).map (·.1)) s

variable {settings available}

/-- The allocator has nothing on record for an instance type that is not among the options. -/
def RecordsFollow : Prop :=
  ∀ it, s.allocator.Recorded s.nodeClaim.hostname it → it ∈ s.nodeClaim.instanceTypeOptions.map (·.name)

/-- Every driver that is reported is the driver of a device that was allocated to one of the options. -/
def DriversLaunchable : Prop :=
  ∀ driver ∈ draDriversForNodeClaim s.allocator s.nodeClaim, ∃ it ∈ s.nodeClaim.instanceTypeOptions,
    ∃ claimID metadata devices device, s.allocator.claimAllocationMetadata.lookup claimID = some metadata ∧
      metadata.nodeClaimID = s.nodeClaim.hostname ∧ metadata.devices.lookup it.name = some devices ∧
      device ∈ devices ∧ device.deviceID.driver = driver

/-- Every instance type on record stays among the options, or devices have just been committed for it. -/
def Releases (result : CanAddResult) : Prop :=
  ∀ it, s.allocator.Recorded s.nodeClaim.hostname it → it ∈ result.instanceTypes.map (·.name) ∨ Committed result it

theorem RecordsFollow.driversLaunchable {s : Planned} (follow : s.RecordsFollow) : s.DriversLaunchable := by
  intro driver listed
  rw [draDriversForNodeClaim, Go.mem_sorted, List.mem_toFinset] at listed
  obtain ⟨entry, inClaims, inDevices⟩ := List.mem_flatMap.mp listed
  obtain ⟨stored, own⟩ := List.mem_filter.mp inClaims
  obtain ⟨deviceResults, inMap, inResults⟩ := List.mem_flatMap.mp inDevices
  obtain ⟨device, member, rfl⟩ := List.mem_map.mp inResults
  have found := Map.mem_entries_iff.mp stored
  have held := Map.mem_entries_iff.mp inMap
  have recorded : s.allocator.Recorded s.nodeClaim.hostname deviceResults.1 :=
    .inr ⟨entry.1, entry.2, found, of_decide_eq_true own, .inl (by rw [held]; rfl)⟩
  obtain ⟨it, inOptions, name⟩ := List.mem_map.mp (follow _ recorded)
  exact ⟨it, inOptions, entry.1, entry.2, deviceResults.2, device, found, of_decide_eq_true own, by rw [name]; exact held,
    member, rfl⟩

end Planned

namespace NodeClaim

variable {n : NodeClaim} {collaborators : Collaborators} {result : CanAddResult}

theorem tightenByAllocation_allocated
    (ok : tightenByAllocation registry requirements allocate = .ok (tightened, some allocated)) :
    ∃ search, allocate = some search ∧ search requirements = .ok allocated := by
  unfold tightenByAllocation at ok
  split at ok
  · cases ok
  · rename_i search
    split at ok
    · cases ok
    · rename_i result found
      split at ok
      · cases ok
      · cases ok
        exact ⟨search, rfl, found⟩

/-- What `CanAdd` answers about devices is an answer of the allocator. -/
theorem canAdd_allocated {volumes : Volumes}
    (ok : n.canAdd settings rm collaborators pod podData volumes relaxMinValues = some (.ok result))
    (found : result.allocationResult = some allocated) :
    ∃ search requirements, collaborators.allocate = some search ∧ search requirements = .ok allocated := by
  obtain ⟨-, -, base, volReqs, -, narrowed⟩ := canAdd_ok ok
  obtain ⟨withVolumes, _, _, _, _, _, -, devicesOk, -⟩ := narrow_ok narrowed
  rw [found] at devicesOk
  obtain ⟨search, given, answered⟩ := tightenByAllocation_allocated devicesOk
  exact ⟨search, withVolumes, given, answered⟩

end NodeClaim

section Run

variable {s s' : Planned} {p : DevicePlacement} {result : CanAddResult}

/-- What `commitDevices` leaves on record: an option, or what was there and is not committed for; and it takes away
only what is committed for and is not an option. -/
theorem recorded_commitDevices {a a' : Allocator} {hostname : String}
    (scope : ∀ allocated handle, result.allocationResult = some allocated → allocated.allocation = some handle →
      handle.WithinInstanceTypes hostname allocated.instanceTypes)
    (done : commitDevices a hostname result = some a') (it : InstanceTypeID) :
    (a'.Recorded hostname it → it ∈ result.instanceTypes.map (·.name) ∨ (a.Recorded hostname it ∧ ¬ Committed result it)) ∧
      (a.Recorded hostname it → a'.Recorded hostname it ∨ Committed result it) := by
  rw [commitDevices] at done
  split at done
  · rename_i nothing
    cases done
    refine ⟨fun recorded => .inr ⟨recorded, ?_⟩, .inl⟩
    rintro ⟨allocated, found, -⟩
    rw [nothing] at found
    cases found
  · rename_i allocated found
    split at done
    · rename_i unsearched
      cases done
      refine ⟨fun recorded => .inr ⟨recorded, ?_⟩, .inl⟩
      rintro ⟨other, found', handle, -⟩
      obtain rfl := Option.some.inj (found.symm.trans found')
      rw [unsearched] at handle
      cases handle
    · rename_i handle given
      obtain ⟨committed, merged, released⟩ := Option.bind_eq_some_iff.mp done
      have commits := Allocator.recorded_commit (scope allocated handle found given) merged it
      have searched : Committed result it ↔ it ∈ allocated.instanceTypes := by
        constructor
        · rintro ⟨other, found', -, listed⟩
          obtain rfl := Option.some.inj (found.symm.trans found')
          exact listed
        · intro listed
          exact ⟨allocated, found, by rw [given]; rfl, listed⟩
      -- whether or not anything is pruned, the pruned instance types are what is taken away
      have after : a'.Recorded hostname it ↔ committed.Recorded hostname it ∧
          ¬ (it ∈ allocated.instanceTypes ∧ it ∉ result.instanceTypes.map (·.name)) := by
        dsimp only at released
        split at released
        · rename_i empty
          cases released
          have unpruned := List.filter_eq_nil_iff.mp (List.isEmpty_iff.mp empty) it
          rw [decide_eq_true_eq] at unpruned
          exact ⟨fun recorded => ⟨recorded, fun both => unpruned both.1 both.2⟩, And.left⟩
        · rw [Allocator.recorded_releaseInstanceType released, List.mem_filter, decide_eq_true_eq]
      rw [searched, after]
      tauto

theorem place_spec (placed : s.place settings available p = some (s', result)) :
    s'.nodeClaim.hostname = s.nodeClaim.hostname ∧ s'.nodeClaim.instanceTypeOptions = result.instanceTypes ∧
      commitDevices s.allocator s.nodeClaim.hostname result = some s'.allocator ∧
      ∀ allocated, result.allocationResult = some allocated → ∃ claims requirements,
        s.allocator.allocate p.env (draNodeClaim settings available s.nodeClaim requirements) claims = .ok allocated := by
  rw [Planned.place] at placed
  split at placed
  · rename_i result' accepted
    obtain ⟨⟨n, reservations⟩, added, rest⟩ := Option.bind_eq_some_iff.mp placed
    obtain ⟨allocator, committed, same⟩ := Option.map_eq_some_iff.mp rest
    cases same
    have next := NodeClaim.add_spec added
    refine ⟨by rw [next], by rw [next], committed, fun allocated found => ?_⟩
    obtain ⟨search, requirements, given, answered⟩ := NodeClaim.canAdd_allocated accepted found
    obtain ⟨claims, -, rfl⟩ := Option.map_eq_some_iff.mp given
    cases claims with
    | error text => cases answered
    | ok claims => exact ⟨claims, requirements, answered⟩
  · cases placed

theorem recordsFollow_place_iff (placed : s.place settings available p = some (s', result)) :
    s'.RecordsFollow ↔ s.Releases result := by
  obtain ⟨hostname, options, committed, answered⟩ := place_spec placed
  have scope : ∀ allocated handle, result.allocationResult = some allocated → allocated.allocation = some handle →
      handle.WithinInstanceTypes s.nodeClaim.hostname allocated.instanceTypes := by
    intro allocated handle found given
    obtain ⟨claims, requirements, searched⟩ := answered allocated found
    exact Allocator.withinInstanceTypes_of_allocate searched given
  rw [Planned.RecordsFollow, hostname, options, Planned.Releases]
  refine forall_congr' fun it => ?_
  have records := recorded_commitDevices scope committed it
  tauto

end Run

/-- In every run of pods on one NodeClaim, the devices on record follow the instance types after every pod, and the
drivers reported are those of devices of launchable instance types, exactly if every pod keeps the instance types on
record among the options or has devices committed for them. -/
theorem device_records_follow_iff (settings : Settings) (available : InstanceType → List DynamicResourcesSet)
    (start : Planned) (pods : List DevicePlacement) :
    (∀ done p rest s s' result, pods = done ++ p :: rest → start.run settings available done = some s →
        s.place settings available p = some (s', result) → s'.RecordsFollow ∧ s'.DriversLaunchable) ↔
      ∀ done p rest s s' result, pods = done ++ p :: rest → start.run settings available done = some s →
        s.place settings available p = some (s', result) → s.Releases result := by
  constructor
  · intro follow done p rest s s' result split ran placed
    exact (recordsFollow_place_iff placed).mp (follow done p rest s s' result split ran placed).1
  · intro releases done p rest s s' result split ran placed
    have follow := (recordsFollow_place_iff placed).mpr (releases done p rest s s' result split ran placed)
    exact ⟨follow, follow.driversLaunchable⟩

def plannedStart : Planned where
  nodeClaim := {
    nodePoolName := "default"
    requirements := Requirements.newRequirements [newRequirement labelHostname .opIn ["node"]]
    instanceTypeOptions := [coresType "small" 2, coresType "large" 4]
    daemonOverheadGroups := [{ instanceTypes := [coresType "small" 2, coresType "large" 4] }]
    hostname := "node"
    reservedOfferingMode := .fallback }
  reservations := {}
  allocator := DynamicResources.newAllocator ∅ DynamicResources.partitionSlices {} ∅ ∅

def corePod (name : String) (cores : Nat) (claims : Option (Except String (List ResourceClaim))) : DevicePlacement where
  pod := { key := ⟨"default", name⟩, uid := name }
  podData := {
    requests := AList.insert "cpu" (cores : Quantity) ∅
    requirements := Requirements.empty
    strictRequirements := Requirements.empty }
  claims := claims
  env := DynamicResources.partitionEnvironment
  addRequirements := fun _ _ _ _ => .ok Requirements.empty

/-- A pod with a claim for one partition of a card, and then a pod without claims that only the large instance type has
room for. -/
def prunedPods : List DevicePlacement :=
  [corePod "training" 1 (some (.ok [DynamicResources.partitionClaim])), corePod "batch" 2 none]

/-- The devices of the small instance type stay on record. -/
theorem device_records_follow_pruned : ∃ s, plannedStart.run coreSettings (fun _ => []) prunedPods = some s ∧
      s.nodeClaim.instanceTypeOptions.map (·.name) = ["large"] ∧ s.allocator.Recorded "node" "small" := by
  have computed : (plannedStart.run coreSettings (fun _ => []) prunedPods).map (fun s =>
      (s.nodeClaim.instanceTypeOptions.map (·.name),
        ((s.allocator.allocationTracker.inflightClusterAllocationsByNodeClaim.lookup "node").bind
          (·.lookup "small")).isSome)) = some (["large"], true) := by
    decide +kernel
  obtain ⟨s, ran, answer⟩ := Option.map_eq_some_iff.mp computed
  obtain ⟨options, recorded⟩ := Prod.mk.inj answer
  exact ⟨s, ran, options, .inl (.inl recorded)⟩

end Karpenter.Provisioning
