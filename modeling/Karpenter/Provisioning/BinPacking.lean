import Karpenter.Provisioning.CanAdd
import Karpenter.Provisioning.DaemonOverhead

/-! Bin packing on one in-flight NodeClaim. A run is any sequence of pods placed through a successful
`CanAdd` followed by `Add`; the answers of the topology, the device allocator and the reservation manager
may be different ones for every pod. After every placement each remaining instance type has an available
offering with room for all the pods and its daemons, takes their volumes, and the requirements of every
pod are kept. Host ports are tracked by the name of the pod that uses them, so they are kept apart as long
as the daemon pods and the placed pods have distinct names. -/
namespace Karpenter.Provisioning

open Go (Map)
open CloudProvider
open Resources (ResourceList merge addQuantities Agree)
open Scheduling

structure Placement where
  pod : Pod
  podData : PodData
  volumes : Volumes := ∅

/-- The pods placed on a NodeClaim, in order, and the NodeClaim that results. -/
inductive Packs (settings : Settings) (start : NodeClaim) : List Placement → NodeClaim → Prop where
  | start : Packs settings start [] start
  | place {placed : List Placement} {n next : NodeClaim} {rm after : ReservationManager}
      {collaborators : Collaborators} {relaxMinValues : Bool} {result : CanAddResult}
      (before : Packs settings start placed n) (p : Placement)
      (accepted : n.canAdd settings rm collaborators p.pod p.podData p.volumes relaxMinValues =
        some (.ok result))
      (added : n.add settings rm p.pod p.podData p.volumes result = some (next, after)) :
      Packs settings start (placed ++ [p]) next

/-- `CanAdd` followed by `Add`. -/
def NodeClaim.place (settings : Settings) (n : NodeClaim) (rm : ReservationManager)
    (collaborators : Collaborators) (p : Placement) (relaxMinValues : Bool) : Option NodeClaim :=
  match n.canAdd settings rm collaborators p.pod p.podData p.volumes relaxMinValues with
  | some (.ok result) => (n.add settings rm p.pod p.podData p.volumes result).map Prod.fst
  | _ => none

theorem Packs.placed {settings : Settings} {start n : NodeClaim} {placed : List Placement}
    (before : Packs settings start placed n) (ok : (n.place settings rm collaborators p relaxMinValues).isSome = true) :
    Packs settings start (placed ++ [p]) ((n.place settings rm collaborators p relaxMinValues).getD n) := by
  obtain ⟨next, found⟩ := Option.isSome_iff_exists.mp ok
  rw [found, Option.getD_some]
  unfold NodeClaim.place at found
  split at found
  · rename_i result accepted
    obtain ⟨⟨next', after⟩, added, rfl⟩ := Option.map_eq_some_iff.mp found
    exact before.place p accepted added
  · cases found

def requestsOf (placed : List Placement) : ResourceList := merge (placed.map (·.podData.requests))

def volumesOf (placed : List Placement) : Volumes := placed.foldl (fun volumes p => volumes.union p.volumes) ∅

/-- The requests of the pods and of the daemons of a group. -/
def requestsWithDaemons (placed : List Placement) (group : DaemonOverheadGroup) : ResourceList :=
  merge (placed.map (·.podData.requests) ++ [group.daemonOverhead])

variable {settings : Settings} {start n : NodeClaim} {placed : List Placement} {it : InstanceType}

theorem agree_totalRequests (agree : Agree (requestsOf placed) requests) (group : DaemonOverheadGroup) :
    Agree (requestsWithDaemons placed group) (totalRequests requests group) := by
  intro name
  rw [requestsWithDaemons, Resources.merge_append]
  refine (agree.add group.daemonOverhead name).trans ?_
  unfold totalRequests
  split
  · rename_i noDaemons
    rw [Resources.lookup_addQuantities, Map.lookup_of_isEmpty noDaemons]
  · exact ((Resources.agree_empty_add requests).add group.daemonOverhead name).symm

/-- What a NodeClaim records about the pods placed on it. -/
structure Records (start : NodeClaim) (placed : List Placement) (n : NodeClaim) : Prop where
  requests : Agree (requestsOf placed) n.requests
  volumes : n.volumes = volumesOf placed
  groups : n.daemonOverheadGroups = start.daemonOverheadGroups.map fun group =>
    { group with hostPortUsage := HostPortUsage.addAll group.hostPortUsage (placed.map (·.pod)) }
  requirements : ∀ p ∈ placed, n.requirements.Narrows p.podData.requirements

theorem Records.initial (requests : start.requests = ∅) (volumes : start.volumes = ∅) : Records start [] start where
  requests := by
    intro name
    rw [requests]
    rfl
  volumes := volumes
  groups := (List.map_id _).symm
  requirements := by simp

theorem agree_requestsWith (agree : Agree (requestsOf placed) n.requests) (same : p.podData = podData) :
    Agree (requestsOf (placed ++ [p])) (n.requestsWith podData) := by
  intro name
  have grown : requestsOf (placed ++ [p]) = addQuantities (requestsOf placed) podData.requests := by
    rw [requestsOf, List.map_append, List.map_singleton, Resources.merge_append, same]
    rfl
  rw [grown, agree.add podData.requests name]
  exact ((Resources.agree_empty_add n.requests).add podData.requests name).symm

theorem Records.place (records : Records start placed n)
    (accepts : n.Accepts settings rm p.pod p.podData p.volumes result)
    (added : n.add settings rm p.pod p.podData p.volumes result = some (next, after)) :
    Records start (placed ++ [p]) next := by
  rw [NodeClaim.add_spec added]
  refine ⟨agree_requestsWith records.requests rfl, ?_, ?_, ?_⟩
  · show n.volumes.union p.volumes = _
    rw [records.volumes, volumesOf, volumesOf, List.foldl_append]
    rfl
  · show n.daemonOverheadGroups.map _ = _
    rw [records.groups, List.map_map]
    refine List.map_congr_left fun group _ => ?_
    simp only [Function.comp, HostPortUsage.addAll, List.map_append, List.foldl_append, List.map_singleton,
      List.foldl_cons, List.foldl_nil]
  · intro q member
    rcases List.mem_append.mp member with before | last
    · exact accepts.narrows.trans (records.requirements q before)
    · rw [List.mem_singleton.mp last]
      exact accepts.meetsPod

theorem Packs.records (run : Packs settings start placed n) (requests : start.requests = ∅)
    (volumes : start.volumes = ∅) : Records start placed n := by
  induction run with
  | start => exact Records.initial requests volumes
  | place _ p accepted added ih => exact ih.place (NodeClaim.canAdd_spec accepted) added

theorem Packs.options (run : Packs settings start placed n) : n.instanceTypeOptions ⊆ start.instanceTypeOptions := by
  induction run with
  | start => exact List.Subset.refl _
  | place _ p accepted added ih =>
    rw [NodeClaim.add_spec added]
    exact fun it member => ih ((NodeClaim.canAdd_spec accepted).accepted it member).1

theorem Packs.nonempty (run : Packs settings start placed n) (some : placed ≠ []) : n.instanceTypeOptions ≠ [] := by
  cases run with
  | start => exact absurd rfl some
  | place _ p accepted added =>
    rw [NodeClaim.add_spec added]
    exact (NodeClaim.canAdd_spec accepted).nonempty

/-- The offerings a NodeClaim holds belong to its options and are admitted by its requirements. -/
theorem Packs.reserved (run : Packs settings start placed n) (none : start.reservedOfferings = [])
    (member : o ∈ n.reservedOfferings) : (∃ it ∈ n.instanceTypeOptions, o ∈ it.offerings) ∧ o.available = true ∧
      o.capacityType = capacityTypeReserved ∧
      n.requirements.isCompatible o.requirements settings.wellKnownLabels = true := by
  cases run with
  | start =>
    rw [none] at member
    cases member
  | place _ p accepted added =>
    rw [NodeClaim.add_spec added] at member ⊢
    exact NodeClaim.offeringsToReserve_spec (NodeClaim.canAdd_spec accepted).reserves member

theorem AdmitsVolumes.union_empty (none : added.entries = []) (admits : AdmitsVolumes it volumes) :
    AdmitsVolumes it (volumes.union added) := by
  intro driver vols limit used limited
  rw [Volumes.union, Map.lookup_mergeAll, Map.lookup_of_isEmpty (by simp [none])] at used
  exact admits driver vols limit used limited

/-- Volumes are only tested for pods that have some; for the others the options can only shrink. -/
theorem Packs.volumes (run : Packs settings start placed n) (requests : start.requests = ∅)
    (volumes : start.volumes = ∅) (member : it ∈ n.instanceTypeOptions) : AdmitsVolumes it (volumesOf placed) := by
  induction run with
  | start =>
    intro driver vols limit used
    exact absurd used (by simp [volumesOf])
  | place before p accepted added ih =>
    have records := before.records requests volumes
    rw [NodeClaim.add_spec added] at member
    obtain ⟨inOptions, admits, -⟩ := (NodeClaim.canAdd_spec accepted).accepted it member
    rw [volumesOf, List.foldl_append]
    show AdmitsVolumes it ((volumesOf _).union p.volumes)
    by_cases none : p.volumes.entries = []
    · exact (ih inOptions).union_empty none
    · rw [← records.volumes]
      exact admits none

section Ports

variable {group : DaemonOverheadGroup}

theorem not_portsConflict (quiet : HostPortUsage.conflicts u later.key (getHostPorts later) = false)
    (tracked : AList.lookup earlier.key u = some (getHostPorts earlier)) (different : earlier.key ≠ later.key) :
    ¬ PortsConflict earlier later := by
  rintro ⟨p, inEarlier, q, inLater, clash⟩
  have free := HostPortUsage.conflicts_eq_false.mp quiet _ _ tracked different q inLater p inEarlier
  rw [HostPort.matches_comm, clash] at free
  cases free

/-- The group that accepted an instance type, as it was at the start of the run. -/
theorem group_of_accepted {p : Placement} (records : Records start placed n)
    (accepts : n.Accepts settings rm p.pod p.podData p.volumes result) (member : it ∈ result.instanceTypes) :
    ∃ group ∈ start.daemonOverheadGroups, it ∈ group.instanceTypes ∧
      HostPortUsage.conflicts (HostPortUsage.addAll group.hostPortUsage (placed.map (·.pod))) p.pod.key
        (getHostPorts p.pod) = false ∧
      HasRoom settings.toRegistry it (totalRequests (n.requestsWith p.podData) group) result.requirements := by
  obtain ⟨-, -, current, inGroups, found⟩ := accepts.accepted it member
  rw [records.groups] at inGroups
  obtain ⟨group, inStart, rfl⟩ := List.mem_map.mp inGroups
  exact ⟨group, inStart, found.member, found.quiet, found.room⟩

/-- No two of the placed pods, and none of them and a daemon pod, use one host port. -/
structure PortsApart (daemons : List Pod) (placed : List Placement) : Prop where
  pods : placed.Pairwise fun a b => ¬ PortsConflict a.pod b.pod
  daemons : ∀ d ∈ daemons, ∀ p ∈ placed, ¬ PortsConflict d p.pod

theorem Packs.ports (run : Packs settings start placed n) (requests : start.requests = ∅) (volumes : start.volumes = ∅)
    (unique : ∀ other ∈ start.daemonOverheadGroups, it ∈ other.instanceTypes → other = group)
    (usage : group.hostPortUsage = HostPortUsage.addAll ∅ daemons)
    (names : ((daemons ++ placed.map (·.pod)).map (·.key)).Nodup) (member : it ∈ n.instanceTypeOptions) :
    PortsApart daemons placed := by
  induction run with
  | start => exact ⟨.nil, by simp⟩
  | @place placed n next rm after collaborators relaxMinValues result before p accepted added ih =>
    have records := before.records requests volumes
    have accepts := NodeClaim.canAdd_spec accepted
    rw [NodeClaim.add_spec added] at member
    obtain ⟨other, inGroups, inOther, quiet, -⟩ := group_of_accepted records accepts member
    obtain rfl := unique other inGroups inOther
    have regroup : daemons ++ (placed ++ [p]).map (·.pod) = (daemons ++ placed.map (·.pod)) ++ [p.pod] := by simp
    rw [regroup, List.map_append, List.nodup_append] at names
    obtain ⟨tracked, -, fresh⟩ := names
    obtain ⟨earlierPods, earlierDaemons⟩ := ih tracked (accepts.accepted it member).1
    rw [List.map_append, List.nodup_append] at tracked
    obtain ⟨daemonNames, podNames, apart⟩ := tracked
    have differs : ∀ pod ∈ daemons ++ placed.map (·.pod), pod.key ≠ p.pod.key := fun pod inBefore =>
      fresh pod.key (List.mem_map_of_mem inBefore) p.pod.key (by simp)
    have newPod : ∀ q ∈ placed, ¬ PortsConflict q.pod p.pod := by
      intro q inPlaced
      have inPods : q.pod ∈ placed.map (·.pod) := List.mem_map_of_mem inPlaced
      exact not_portsConflict quiet (HostPortUsage.lookup_addAll _ podNames inPods)
        (differs q.pod (List.mem_append_right _ inPods))
    have newDaemon : ∀ d ∈ daemons, ¬ PortsConflict d p.pod := by
      intro d inDaemons
      refine not_portsConflict quiet ?_ (differs d (List.mem_append_left _ inDaemons))
      rw [HostPortUsage.lookup_addAll_of_notMem, usage, HostPortUsage.lookup_addAll _ daemonNames inDaemons]
      exact fun pod inPods same => apart d.key (List.mem_map_of_mem inDaemons) pod.key
        (List.mem_map_of_mem inPods) same.symm
    constructor
    · exact List.pairwise_append.mpr ⟨earlierPods, List.pairwise_singleton _ _,
        fun q inPlaced last inLast => List.mem_singleton.mp inLast ▸ newPod q inPlaced⟩
    · intro d inDaemons q inAll
      rcases List.mem_append.mp inAll with earlier | last
      · exact earlierDaemons d inDaemons q earlier
      · exact List.mem_singleton.mp last ▸ newDaemon d inDaemons

end Ports

/-- An offering of a group that is available, admitted by the requirements and has room. -/
def HasOffering (registry : Registry) (it : InstanceType) (requests : ResourceList) (requirements : Requirements) :
    Prop :=
  ∃ allocatable ∈ it.allocatableOfferingsList, ∃ o ∈ allocatable.offerings, o ∈ it.offerings ∧
    o.available = true ∧ requirements.isCompatible o.requirements registry.wellKnownLabels = true ∧
    Resources.fits requests allocatable.allocatable = true

theorem HasRoom.hasOffering (room : HasRoom registry it requests requirements) (agree : Agree others requests) :
    HasOffering registry it others requirements := by
  obtain ⟨allocatable, member, offered, fit⟩ := room
  obtain ⟨o, inGroup, accepted⟩ := List.any_eq_true.mp offered
  obtain ⟨inOfferings, available⟩ := (InstanceType.mem_allocatableOfferings it o).mp ⟨allocatable, member, inGroup⟩
  exact ⟨allocatable, member, o, inGroup, inOfferings, available, accepted, agree.fits fit⟩

theorem Packs.room (run : Packs settings start placed n) (requests : start.requests = ∅) (volumes : start.volumes = ∅)
    (nonempty : placed ≠ []) (member : it ∈ n.instanceTypeOptions) :
    ∃ group ∈ start.daemonOverheadGroups, it ∈ group.instanceTypes ∧
      HasOffering settings.toRegistry it (requestsWithDaemons placed group) n.requirements := by
  cases run with
  | start => exact absurd rfl nonempty
  | place before p accepted added =>
    have records := before.records requests volumes
    rw [NodeClaim.add_spec added] at member ⊢
    obtain ⟨group, inStart, inGroup, -, room⟩ :=
      group_of_accepted records (NodeClaim.canAdd_spec accepted) member
    exact ⟨group, inStart, inGroup,
      room.hasOffering (agree_totalRequests (agree_requestsWith records.requests rfl) group)⟩

/-- After every placement each option has room for all pods and its daemons and takes their volumes, and
the requirements of every pod are kept; host ports are kept apart when all names are distinct. -/
theorem packing_sound {settings : Settings} {template : NodeClaimTemplate} {daemons : Daemons}
    {its : List InstanceType} {mode : ReservedOfferingMode} {credit : Map String Int} {hostname : String}
    {placed : List Placement} {n : NodeClaim} (run : Packs settings (newNodeClaim template
      (daemons.buildDaemonOverheadGroups template.instanceTypeOptions) its mode credit hostname) placed n)
    (nonempty : placed ≠ []) : (∀ p ∈ placed, n.requirements.Narrows p.podData.requirements) ∧
    ∀ it ∈ n.instanceTypeOptions,
      (∃ group ∈ daemons.buildDaemonOverheadGroups template.instanceTypeOptions, it ∈ group.instanceTypes ∧
        HasOffering settings.toRegistry it (requestsWithDaemons placed group) n.requirements) ∧
      AdmitsVolumes it (volumesOf placed) ∧
      ((daemons.pods.map (·.key)).Nodup → ((daemons.on it ++ placed.map (·.pod)).map (·.key)).Nodup →
        PortsApart (daemons.on it) placed) := by
  refine ⟨(run.records rfl rfl).requirements, fun it member => ?_⟩
  have room := run.room rfl rfl nonempty member
  refine ⟨room, run.volumes rfl rfl member, fun daemonNames names => ?_⟩
  obtain ⟨group, inGroups, inGroup, -⟩ := room
  obtain ⟨⟨key, stored⟩, entry, rfl⟩ := List.mem_map.mp inGroups
  have formed := Daemons.formedFor_groups _ (Map.mem_entries_iff.mp entry)
  obtain ⟨founder, founderKey, -, usage⟩ := formed.founder
  have same : daemons.on it = daemons.on founder :=
    Daemons.on_eq_of_podSetKey daemonNames ((formed.member it inGroup).trans founderKey.symm)
  exact run.ports rfl rfl (fun other inOthers inOther => Daemons.group_unique inOthers inGroups inOther inGroup)
    (same ▸ usage) names member

def proxyType : InstanceType := coresType "small" 2

/-- A daemon on every node that opens port 80. -/
def proxyDaemons : Daemons where
  pods := [{ key := ⟨"kube-system", "proxy"⟩, ports := [{ hostPort := 80 }] }]
  runsOn := fun _ _ => true
  requestsFor := fun _ => ∅

def proxyTemplate : NodeClaimTemplate where
  nodePoolName := "default"
  instanceTypeOptions := [proxyType]

def proxyNodeClaim : NodeClaim :=
  newNodeClaim proxyTemplate (proxyDaemons.buildDaemonOverheadGroups [proxyType]) [proxyType] .fallback ∅ "host"

def proxyPlacement (name : String) (port : Int) : Placement where
  pod := { key := ⟨"kube-system", name⟩, ports := [{ hostPort := port }] }
  podData :=
    { requests := AList.insert "cpu" 1 ∅
      requirements := Requirements.empty
      strictRequirements := Requirements.empty }

def unconstrained : Collaborators where
  addRequirements := fun _ _ _ _ => .ok Requirements.empty

def proxyPlaced (p : Placement) : NodeClaim :=
  (proxyNodeClaim.place coreSettings {} unconstrained p false).getD proxyNodeClaim

theorem packing_sound_other_port : PortsApart (proxyDaemons.on proxyType) [proxyPlacement "web" 443] := by
  have run : Packs coreSettings proxyNodeClaim [proxyPlacement "web" 443]
      (proxyPlaced (proxyPlacement "web" 443)) := Packs.start.placed (by decide +kernel)
  exact ((packing_sound run (by simp)).2 proxyType (by decide +kernel)).2.2 (by decide) (by decide)

/-- The pod that carries the daemon's name is placed next to the daemon although both open port 80. -/
theorem packing_unsound_same_name :
    Packs coreSettings proxyNodeClaim [proxyPlacement "proxy" 80] (proxyPlaced (proxyPlacement "proxy" 80)) ∧
    proxyType ∈ (proxyPlaced (proxyPlacement "proxy" 80)).instanceTypeOptions ∧
    ¬ PortsApart (proxyDaemons.on proxyType) [proxyPlacement "proxy" 80] := by
  refine ⟨Packs.start.placed (by decide +kernel), by decide +kernel, fun apart => ?_⟩
  have quiet := apart.daemons _ List.mem_cons_self _ List.mem_cons_self
  exact quiet ⟨_, List.mem_cons_self, _, List.mem_cons_self, by decide⟩

end Karpenter.Provisioning
