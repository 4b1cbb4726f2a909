import Karpenter.Provisioning.NodeClaim

/-! What a successful `CanAdd` guarantees, for any answers of the topology and of the device allocator:
one theorem inverts the whole computation, so that no later proof unfolds it. -/
namespace Karpenter.Provisioning

open Go (Map)
open CloudProvider
open Resources (ResourceList merge)
open Scheduling

theorem get?_setMinValues (requirements : Requirements) (key other : String) (minValues : Nat) :
    (setMinValues requirements key minValues).get? other =
      if other = key then (requirements.get? other).map fun r => { r with minValues := some minValues }
      else requirements.get? other := by
  unfold setMinValues
  cases found : requirements.get? key with
  | none =>
    by_cases same : other = key
    · rw [if_pos same, same, found]
      rfl
    · rw [if_neg same]
  | some requirement =>
    have keyed := Requirements.get?_keyed requirements found
    rw [Requirements.get?_set]
    by_cases same : other = key
    · rw [if_pos (same.trans keyed.symm), if_pos same, same, found]
      rfl
    · rw [if_neg (fun h => same (h.trans keyed)), if_neg same]

def forgetMinimum (r : Requirement) : Requirement := { r with minValues := none }

/-- Two maps that differ in their minimums only. -/
def SameValues (r s : Requirements) : Prop :=
  ∀ key, (r.get? key).map forgetMinimum = (s.get? key).map forgetMinimum

theorem SameValues.trans (first : SameValues r s) (second : SameValues s t) : SameValues r t := fun key => (first key).trans (second key)

theorem sameValues_setMinValues (requirements : Requirements) (key : String) (minValues : Nat) :
    SameValues (setMinValues requirements key minValues) requirements := by
  intro other
  rw [get?_setMinValues]
  split
  · cases requirements.get? other <;> rfl
  · rfl

theorem sameValues_relaxMinimums (requirements : Requirements) (keys : Map String Nat) :
    SameValues (relaxMinimums requirements keys) requirements := by
  unfold relaxMinimums
  generalize keys.entries = entries
  induction entries generalizing requirements with
  | nil => exact fun _ => rfl
  | cons entry rest ih =>
    exact (ih (setMinValues requirements entry.1 entry.2)).trans
      (sameValues_setMinValues requirements entry.1 entry.2)

theorem SameValues.find (same : SameValues r s) (here : s.get? key = some found) :
    ∃ other, r.get? key = some other ∧ forgetMinimum other = forgetMinimum found := by
  have eq := same key
  rw [here] at eq
  obtain ⟨other, found', rest⟩ := Option.map_eq_some_iff.mp eq
  exact ⟨other, found', rest⟩

theorem SameValues.narrows (same : SameValues r s) : r.Narrows s := by
  intro key requirement found
  obtain ⟨other, here, equal⟩ := same.find found
  refine ⟨other, here, fun value inside => ?_⟩
  have both := congrArg (Requirement.has · value) equal
  exact both.symm.trans inside

/-- Compatibility does not look at minimums. -/
theorem SameValues.isCompatible (same : SameValues r s) (reqs : Requirements) (allowUndefined : Finset String)
    (accepted : s.isCompatible reqs allowUndefined = true) : r.isCompatible reqs allowUndefined = true := by
  rw [Requirements.isCompatible_iff_admitsKey] at accepted ⊢
  intro key incoming found
  have forget (existing : Option Requirement) : Requirements.AdmitsKey allowUndefined key (existing.map forgetMinimum)
      incoming ↔ Requirements.AdmitsKey allowUndefined key existing incoming := by
    cases existing <;> exact Iff.rfl
  rw [← forget, same key, forget]
  exact accepted key incoming found

theorem SameValues.compatible (same : SameValues r s) (accepted : compatible it s = true) :
    Provisioning.compatible it r = true := by
  unfold Provisioning.compatible at accepted ⊢
  rw [List.isEmpty_iff, Requirements.intersects_eq_nil] at accepted ⊢
  intro key existing incoming inType found
  have swapped : SameValues s r := fun key => (same key).symm
  obtain ⟨other, stored, equal⟩ := swapped.find found
  have meets := congrArg (Requirement.hasIntersection existing ·) equal
  have absent := congrArg Requirement.admitsAbsence equal
  rcases accepted key existing other inType stored with shared | ⟨left, right⟩
  · exact .inl (meets.symm.trans shared)
  · exact .inr ⟨absent.symm.trans left, right⟩

/-- Each requirement must be compatible with what the ones before it left over. -/
def tightenEach (allowUndefined : Finset String) : Requirements → List Requirements → Option Requirements
  | requirements, [] => some requirements
  | requirements, added :: rest =>
    if requirements.isCompatible added allowUndefined then
      tightenEach allowUndefined (requirements.add added.values) rest
    else none

section Tightening

variable {requirements added between tightened : Requirements}

theorem tightenEach_cons : tightenEach allowUndefined requirements (added :: each) = some tightened ↔
      requirements.isCompatible added allowUndefined = true ∧
        tightenEach allowUndefined (requirements.add added.values) each = some tightened := by
  rw [tightenEach]
  split <;> simp_all

theorem tightenEach_append (start : tightenEach allowUndefined requirements first = some between)
    (rest : tightenEach allowUndefined between second = some tightened) :
    tightenEach allowUndefined requirements (first ++ second) = some tightened := by
  induction first generalizing requirements with
  | nil =>
    cases start
    exact rest
  | cons added later ih =>
    obtain ⟨compatible, start⟩ := tightenEach_cons.mp start
    exact tightenEach_cons.mpr ⟨compatible, ih start⟩

theorem narrows_of_tightenEach (ok : tightenEach allowUndefined requirements each = some tightened) :
    tightened.Narrows requirements ∧ ∀ added ∈ each, tightened.Narrows added := by
  induction each generalizing requirements with
  | nil =>
    cases ok
    exact ⟨.refl _, nofun⟩
  | cons added rest ih =>
    obtain ⟨narrows, others⟩ := ih (tightenEach_cons.mp ok).2
    refine ⟨narrows.trans (Requirements.narrows_add _ _), List.forall_mem_cons.mpr ⟨?_, others⟩⟩
    exact narrows.trans (Requirements.add_narrows_values _ _)

theorem tighten_each (ok : tighten registry requirements added err = .ok tightened) :
    tightenEach registry.wellKnownLabels requirements [added] = some tightened := by
  unfold tighten at ok
  split at ok
  · rename_i compatible
    cases ok
    exact tightenEach_cons.mpr ⟨compatible, rfl⟩
  · cases ok

theorem tightenByVolumes_each (ok : tightenByVolumes registry requirements volReqs = .ok tightened) :
    tightenEach registry.wellKnownLabels requirements volReqs.toList = some tightened := by
  cases volReqs with
  | none =>
    cases ok
    rfl
  | some volReqs => exact tighten_each ok

theorem tightenByAllocation_each (ok : tightenByAllocation registry requirements allocate = .ok (tightened, result)) :
    tightenEach registry.wellKnownLabels requirements (result.map (·.requirements)).toList = some tightened := by
  unfold tightenByAllocation at ok
  split at ok
  · cases ok
    rfl
  · split at ok
    · cases ok
    · split at ok
      · cases ok
      · rename_i narrowed
        cases ok
        exact tighten_each narrowed

end Tightening

section Room

variable {it : InstanceType} {requirements : Requirements} {pod : Pod} {volumes : Volumes}

/-- Some group with a compatible offering has room for the requests. -/
def HasRoom (registry : Registry) (it : InstanceType) (requests : ResourceList) (requirements : Requirements) :
    Prop :=
  ∃ group ∈ it.allocatableOfferingsList, hasCompatible registry group.offerings requirements = true ∧
    Resources.fits requests group.allocatable = true

theorem hasRoom_of_fits (found : (fits registry it requests requirements).1 = true) :
    HasRoom registry it requests requirements := by
  unfold HasRoom
  unfold fits at found
  generalize it.allocatableOfferingsList = groups at found
  have general : ∀ (groups : List AllocatableOfferings) (hasOffering : Bool),
      (fitsGroups registry requests requirements groups hasOffering).1 = true →
      ∃ group ∈ groups, hasCompatible registry group.offerings requirements = true ∧
        Resources.fits requests group.allocatable = true := by
    intro groups
    induction groups with
    | nil => exact fun _ impossible => absurd impossible (by simp [fitsGroups])
    | cons group rest ih =>
      intro hasOffering found
      unfold fitsGroups at found
      split at found
      · rename_i offered
        split at found
        · rename_i room
          exact ⟨group, List.mem_cons_self, offered, room⟩
        · obtain ⟨later, member, holds⟩ := ih _ found
          exact ⟨later, List.mem_cons_of_mem _ member, holds⟩
      · obtain ⟨later, member, holds⟩ := ih _ found
        exact ⟨later, List.mem_cons_of_mem _ member, holds⟩
  exact general groups false found

theorem HasRoom.relax (room : HasRoom registry it requests s) (same : SameValues r s) :
    HasRoom registry it requests r := by
  obtain ⟨group, member, offered, fit⟩ := room
  refine ⟨group, member, ?_, fit⟩
  obtain ⟨o, inGroup, accepted⟩ := List.any_eq_true.mp offered
  exact List.any_eq_true.mpr ⟨o, inGroup, same.isCompatible _ _ accepted⟩

/-- The volumes of every limited driver are within its limit. -/
def AdmitsVolumes (it : InstanceType) (volumes : Volumes) : Prop :=
  ∀ driver vols limit, AList.lookup driver volumes = some vols →
    it.volumeAttachmentLimits.lookup driver = some limit → (vols.card : Int) ≤ limit

theorem mem_filterInstanceTypesByVolumeAttachmentLimits : it ∈ filterInstanceTypesByVolumeAttachmentLimits its volumes ↔
      it ∈ its ∧ AdmitsVolumes it volumes := by
  unfold filterInstanceTypesByVolumeAttachmentLimits AdmitsVolumes
  rw [List.mem_filter, List.all_eq_true]
  refine and_congr_right fun _ => ⟨fun within driver vols limit used limited => ?_, fun within entry member => ?_⟩
  · have checked := within ⟨driver, vols⟩ (Map.mem_entries_iff.mpr used)
    simpa only [limited, decide_eq_true_eq] using checked
  · split
    · rfl
    · rename_i limit limited
      exact decide_eq_true (within entry.1 entry.2 limit (Map.mem_entries_iff.mp member) limited)

/-- The daemon group under which an instance type was accepted for a pod. -/
structure AcceptedBy (registry : Registry) (it : InstanceType) (pod : Pod) (requests : ResourceList)
    (requirements : Requirements) (group : DaemonOverheadGroup) : Prop where
  member : it ∈ group.instanceTypes
  quiet : HostPortUsage.conflicts group.hostPortUsage pod.key (getHostPorts pod) = false
  compat : compatible it requirements = true
  room : HasRoom registry it (totalRequests requests group) requirements

theorem mem_consider (member : c ∈ consider registry its requirements pod groups requests) (meets : c.meets = true) :
    c.instanceType ∈ its ∧ ∃ group ∈ groups, AcceptedBy registry c.instanceType pod requests requirements group := by
  obtain ⟨group, inGroups, inGroup⟩ := List.mem_flatMap.mp member
  obtain ⟨inAll, quiet⟩ := List.mem_filter.mp inGroups
  obtain ⟨it, eligible, rfl⟩ := List.mem_map.mp inGroup
  obtain ⟨inTypes, inIts⟩ := List.mem_filter.mp eligible
  unfold Considered.meets at meets
  rw [Bool.and_eq_true, Bool.and_eq_true] at meets
  exact ⟨of_decide_eq_true inIts, group, inAll, inTypes, by simpa using quiet, meets.1.1,
    hasRoom_of_fits meets.1.2⟩

theorem filterInstanceTypesByRequirements_spec {its remaining : List InstanceType} {relaxMinValues : Bool}
    {keys : Map String Nat}
    (ok : filterInstanceTypesByRequirements registry its requirements pod groups requests relaxMinValues =
      .ok (remaining, keys)) : remaining ≠ [] ∧ ∀ it ∈ remaining,
      it ∈ its ∧ ∃ group ∈ groups, AcceptedBy registry it pod requests requirements group := by
  simp only [filterInstanceTypesByRequirements] at ok
  split at ok
  · cases ok
  · rename_i kept
    cases ok
    rw [Bool.or_eq_true, not_or] at kept
    refine ⟨by simpa using kept.1, fun it member => ?_⟩
    obtain ⟨c, inFiltered, rfl⟩ := List.mem_map.mp member
    obtain ⟨inAll, meets⟩ := List.mem_filter.mp inFiltered
    exact mem_consider inAll meets

end Room

theorem filterByAllocation_spec (nonempty : its ≠ []) (ok : filterByAllocation its result = .ok remaining) :
    remaining ≠ [] ∧ remaining ⊆ its := by
  unfold filterByAllocation at ok
  split at ok
  · cases ok
    exact ⟨nonempty, List.Subset.refl _⟩
  · dsimp only at ok
    split at ok
    · cases ok
    · rename_i kept
      cases ok
      exact ⟨by simpa using kept, fun _ member => List.mem_of_mem_filter member⟩

namespace NodeClaim

variable {settings : Settings} {n : NodeClaim} {pod : Pod} {base requirements : Requirements} {result : CanAddResult}

/-- The requests of the NodeClaim once the pod is placed. -/
def requestsWith (n : NodeClaim) (podData : PodData) : ResourceList := merge [n.requests, podData.requests]

/-- The steps of a narrowing: the volumes and the devices, the topology, then the instance types that are left. -/
theorem narrow_ok (ok : narrow settings n collaborators pod podData its base volReqs relaxMinValues =
      .ok (requirements, remaining, allocationResult)) : ∃ withVolumes narrowed added tightened filtered keys,
      tightenEach settings.wellKnownLabels base volReqs.toList = some withVolumes ∧
      tightenByAllocation settings.toRegistry withVolumes collaborators.allocate = .ok (narrowed, allocationResult) ∧
      collaborators.addRequirements pod n.taints podData.strictRequirements narrowed = .ok added ∧
      tightenEach settings.wellKnownLabels narrowed [added] = some tightened ∧
      filterInstanceTypesByRequirements settings.toRegistry its tightened pod n.daemonOverheadGroups
        (n.requestsWith podData) relaxMinValues = .ok (filtered, keys) ∧
      filterByAllocation filtered allocationResult = .ok remaining ∧
      requirements = relaxMinimums tightened (if relaxMinValues then keys else ∅) := by
  simp only [narrow, bind, Except.bind] at ok
  split at ok
  · cases ok
  rename_i withVolumes volumesOk
  split at ok
  · cases ok
  rename_i pair devicesOk
  obtain ⟨withDevices, found⟩ := pair
  split at ok
  · cases ok
  rename_i added asked
  split at ok
  · cases ok
  rename_i tightened topologyOk
  split at ok
  · cases ok
  rename_i filtered keys filterOk
  split at ok
  · cases ok
  rename_i kept allocationOk
  cases ok
  refine ⟨withVolumes, withDevices, added, tightened, filtered, keys, tightenByVolumes_each volumesOk, devicesOk, asked,
    tighten_each topologyOk, filterOk, allocationOk, ?_⟩
  split <;> rfl

theorem narrow_spec (ok : narrow settings n collaborators pod podData its base volReqs relaxMinValues =
      .ok (requirements, remaining, allocationResult)) :
    requirements.Narrows base ∧ remaining ≠ [] ∧ ∀ it ∈ remaining, it ∈ its ∧
      ∃ group ∈ n.daemonOverheadGroups,
        AcceptedBy settings.toRegistry it pod (n.requestsWith podData) requirements group := by
  obtain ⟨withVolumes, narrowed, added, tightened, filtered, keys, volumesOk, devicesOk, -, topology, filterOk,
    allocationOk, rfl⟩ := narrow_ok ok
  obtain ⟨nonempty, accepted⟩ := filterInstanceTypesByRequirements_spec filterOk
  obtain ⟨stillNonempty, subset⟩ := filterByAllocation_spec nonempty allocationOk
  have same := sameValues_relaxMinimums tightened (if relaxMinValues then keys else ∅)
  have narrowing := tightenEach_append volumesOk (tightenByAllocation_each devicesOk)
  have fromBase := (narrows_of_tightenEach topology).1.trans (narrows_of_tightenEach narrowing).1
  refine ⟨same.narrows.trans fromBase, stillNonempty, fun it member => ?_⟩
  obtain ⟨inIts, group, inGroups, found⟩ := accepted it (subset member)
  exact ⟨inIts, group, inGroups, found.member, found.quiet, same.compatible found.compat, found.room.relax same⟩

theorem firstAlternative_spec (ok : firstAlternative attempt alternatives lastErr = some (.ok result)) :
    ∃ volReqs ∈ alternatives, attempt volReqs = some (.ok result) := by
  induction alternatives generalizing lastErr with
  | nil => cases ok
  | cons volReqs rest ih =>
    unfold firstAlternative at ok
    split at ok
    · cases ok
    · obtain ⟨later, member, found⟩ := ih ok
      exact ⟨later, List.mem_cons_of_mem _ member, found⟩
    · rename_i found
      cases ok
      exact ⟨volReqs, List.mem_cons_self, found⟩

theorem mem_optionsForVolumes {volumes : Volumes} (member : it ∈ n.optionsForVolumes volumes) :
    it ∈ n.instanceTypeOptions ∧ (volumes.entries ≠ [] → AdmitsVolumes it (n.volumes.union volumes)) := by
  unfold optionsForVolumes at member
  split at member
  · rename_i noVolumes
    exact ⟨member, fun some => absurd (by simpa using noVolumes) some⟩
  · obtain ⟨inOptions, admits⟩ := mem_filterInstanceTypesByVolumeAttachmentLimits.mp member
    exact ⟨inOptions, fun _ => admits⟩

theorem grantable_subset {registry : Registry} {hostname : String}
    (ok : grantable registry rm hostname ofs = some granted) : granted ⊆ ofs := by
  induction ofs generalizing granted with
  | nil =>
    cases ok
    exact List.Subset.refl _
  | cons o rest ih =>
    unfold grantable at ok
    split at ok
    · rename_i accepted others first later
      have subset := ih later
      cases ok
      split
      · exact List.cons_subset_cons _ subset
      · exact List.subset_cons_of_subset _ subset
    · cases ok

/-- Only available reserved offerings that the requirements admit are reserved. -/
theorem offeringsToReserve_spec (ok : n.offeringsToReserve settings rm its requirements = some (.ok ofs))
    (member : o ∈ ofs) : (∃ it ∈ its, o ∈ it.offerings) ∧ o.available = true ∧ o.capacityType = capacityTypeReserved ∧
      requirements.isCompatible o.requirements settings.wellKnownLabels = true := by
  simp only [offeringsToReserve] at ok
  split at ok
  · cases ok
    cases member
  · split at ok
    · cases ok
    · rename_i granted found
      have inCandidates : o ∈ granted := by
        repeat' split at ok
        all_goals cases ok
        exact member
      obtain ⟨inReserved, -⟩ := List.mem_filter.mp (grantable_subset found inCandidates)
      obtain ⟨inCompatible, reserved⟩ := List.mem_filter.mp inReserved
      obtain ⟨inAvailable, compatible⟩ := List.mem_filter.mp inCompatible
      obtain ⟨inAll, available⟩ := List.mem_filter.mp inAvailable
      obtain ⟨it, inIts, inOfferings⟩ := List.mem_flatMap.mp inAll
      exact ⟨⟨it, inIts, inOfferings⟩, available, of_decide_eq_true reserved, compatible⟩

/-- What holds when a pod can be added. -/
structure Accepts (settings : Settings) (n : NodeClaim) (rm : ReservationManager) (pod : Pod)
    (podData : PodData) (volumes : Volumes) (result : CanAddResult) : Prop where
  tolerates : toleratesTaints settings.toleratesTaint n.taints pod.tolerations = true
  narrows : result.requirements.Narrows n.requirements
  meetsPod : result.requirements.Narrows podData.requirements
  nonempty : result.instanceTypes ≠ []
  accepted : ∀ it ∈ result.instanceTypes, it ∈ n.instanceTypeOptions ∧
    (volumes.entries ≠ [] → AdmitsVolumes it (n.volumes.union volumes)) ∧
    ∃ group ∈ n.daemonOverheadGroups,
      AcceptedBy settings.toRegistry it pod (n.requestsWith podData) result.requirements group
  reserves : n.offeringsToReserve settings rm result.instanceTypes result.requirements =
    some (.ok result.offeringsToReserve)

/-- The pod's own requirements come first; then one alternative for its volumes goes through. -/
theorem canAdd_ok {volumes : Volumes}
    (ok : n.canAdd settings rm collaborators pod podData volumes relaxMinValues = some (.ok result)) :
    toleratesTaints settings.toleratesTaint n.taints pod.tolerations = true ∧
      n.offeringsToReserve settings rm result.instanceTypes result.requirements =
        some (.ok result.offeringsToReserve) ∧
      ∃ base volReqs,
        tightenEach settings.wellKnownLabels (Requirements.newRequirements n.requirements.values)
          [podData.requirements] = some base ∧
        narrow settings n collaborators pod podData (n.optionsForVolumes volumes) base volReqs relaxMinValues =
          .ok (result.requirements, result.instanceTypes, result.allocationResult) := by
  simp only [canAdd] at ok
  split at ok
  · cases ok
  rename_i tolerates
  split at ok
  · cases ok
  split at ok
  · cases ok
  rename_i base baseOk
  obtain ⟨volReqs, -, attempt⟩ := firstAlternative_spec ok
  unfold tryVolumeAlternative at attempt
  split at attempt
  · cases attempt
  rename_i requirements remaining allocationResult narrowed
  split at attempt
  · cases attempt
  · cases attempt
  rename_i ofs reserves
  cases attempt
  exact ⟨by simpa using tolerates, reserves, base, volReqs, tighten_each baseOk, narrowed⟩

theorem canAdd_spec {volumes : Volumes}
    (ok : n.canAdd settings rm collaborators pod podData volumes relaxMinValues = some (.ok result)) :
    Accepts settings n rm pod podData volumes result := by
  obtain ⟨tolerates, reserves, base, volReqs, baseOk, narrowed⟩ := canAdd_ok ok
  obtain ⟨fromOwn, fromPod⟩ := narrows_of_tightenEach baseOk
  obtain ⟨fromBase, nonempty, accepted⟩ := narrow_spec narrowed
  have own : (Requirements.newRequirements n.requirements.values).Narrows n.requirements :=
    Requirements.add_narrows_values _ _
  refine ⟨tolerates, fromBase.trans (fromOwn.trans own), fromBase.trans (fromPod _ List.mem_cons_self), nonempty,
    fun it member => ?_, reserves⟩
  obtain ⟨inIts, group⟩ := accepted it member
  obtain ⟨inOptions, admits⟩ := mem_optionsForVolumes inIts
  exact ⟨inOptions, admits, group⟩

theorem add_spec {placed : NodeClaim} {after : ReservationManager} {volumes : Volumes}
    (ok : n.add settings rm pod podData volumes result = some (placed, after)) : placed = { n with
      pods := n.pods ++ [pod]
      instanceTypeOptions := result.instanceTypes
      volumes := n.volumes.union volumes
      requests := n.requestsWith podData
      requirements := result.requirements
      daemonOverheadGroups := n.daemonOverheadGroups.map fun group =>
        { group with hostPortUsage := HostPortUsage.add group.hostPortUsage pod.key (getHostPorts pod) }
      reservedOfferings := result.offeringsToReserve } := by
  unfold add at ok
  split at ok
  · cases ok
  · cases ok
    rfl

end NodeClaim

end Karpenter.Provisioning
